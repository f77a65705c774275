import ChartSchema.Compatibility.Change
/-!
# Comparing two resource definitions

`Analysis.compare` lists the changes from a definition to a later one: those of its identity, of
its names, of its versions, and of the properties of the versions that both have. Properties are
compared by what they say about their own values, then by their members, and then one by one
with those inside them that both have.
-/

namespace ChartSchema

/-- The texts of a list, each once and in order. -/
def sortedTexts (texts : List String) : List String :=
  (sortKeys (texts.map (·, ()))).map (·.1)

/-- The texts of one list that another one lacks, each once and in order. -/
def textsWithout (texts others : List String) : List String :=
  (sortedTexts texts).filter (!others.contains ·)

namespace Rules

/-- The change of a rule that is a text. -/
def textChange (rule : String) (old? new? : Option String) : List PropertyChange :=
  if old? == new? then [] else [.textChanged rule old? new?]

/-- The change of a bound. Bounds that are closer than the least step above one count as
equal. -/
def boundChange (rule : String) (side : Side) (old? new? : Option Binary64) :
    List PropertyChange :=
  match old?, new? with
  | none, none => []
  | some old, some new =>
    if Binary64.epsilon.lt (old.sub new).abs then [.boundChanged rule side old? new?] else []
  | _, _ => [.boundChanged rule side old? new?]

/-- The change of a bound that is a count. -/
def countChange (rule : String) (side : Side) (old? new? : Option Nat) : List PropertyChange :=
  let float (n : Nat) : Binary64 := .ofInt n
  boundChange rule side (old?.map float) (new?.map float)

/-- The change of a rule that holds or not. -/
def flagChange (rule : String) (old new : Bool) : List PropertyChange :=
  if old == new then [] else [.flagChanged rule old new]

/-- The change of what numbers are multiples of. -/
def multipleChange (old? new? : Option Binary64) : List PropertyChange :=
  let unchanged : Bool := match old?, new? with
    | none, none => true
    | some old, some new => old.eq new
    | _, _ => false
  if unchanged then [] else [.multipleChanged old? new?]

/-- The changes of the rules about values. -/
def validationChanges (old new : Rules) : List PropertyChange :=
  textChange "pattern" old.pattern? new.pattern? ++
  textChange "format" old.format? new.format? ++
  boundChange "minimum" .lower old.minimum? new.minimum? ++
  boundChange "maximum" .upper old.maximum? new.maximum? ++
  flagChange "exclusiveMinimum" old.exclusiveMinimum new.exclusiveMinimum ++
  flagChange "exclusiveMaximum" old.exclusiveMaximum new.exclusiveMaximum ++
  countChange "minLength" .lower old.minLength? new.minLength? ++
  countChange "maxLength" .upper old.maxLength? new.maxLength? ++
  countChange "minItems" .lower old.minItems? new.minItems? ++
  countChange "maxItems" .upper old.maxItems? new.maxItems? ++
  countChange "minProperties" .lower old.minProperties? new.minProperties? ++
  countChange "maxProperties" .upper old.maxProperties? new.maxProperties? ++
  flagChange "uniqueItems" old.uniqueItems new.uniqueItems ++
  -- What refuses null is a rule like the others.
  flagChange "nullable" (!old.nullable) (!new.nullable) ++
  multipleChange old.multipleOf? new.multipleOf?

/-- The changes of the values that are listed; they are compared by their texts. -/
def enumChanges (old new : Rules) : List PropertyChange :=
  match old.enum?, new.enum? with
  | none, none => []
  | none, some values => [.enumAdded values]
  | some _, none => [.enumRemoved]
  | some before, some after =>
    let before := before.map (·.compact)
    let after := after.map (·.compact)
    let removed := textsWithout before after
    let added := textsWithout after before
    (if removed.isEmpty then [] else [.valuesRemoved removed]) ++
      (if added.isEmpty then [] else [.valuesAdded added])

/-- The change of the default. A default that is gone is none. -/
def defaultChange (old new : Rules) : List PropertyChange :=
  match old.default?, new.default? with
  | none, some v => [.defaultAdded v]
  | some v, some w => if v.same w then [] else [.defaultChanged v w]
  | _, none => []

/-- The change of the description. A description that is gone is none. -/
def descriptionChange (old new : Rules) : List PropertyChange :=
  match new.description? with
  | some text =>
    if old.description? == some text then [] else [.descriptionChanged old.description? text]
  | none => []

/-- All changes of what is said about the value itself. -/
def changes (old new : Rules) : List PropertyChange :=
  defaultChange old new ++ descriptionChange old new ++ validationChanges old new ++
    enumChanges old new ++
    (if old.preserveUnknown && !new.preserveUnknown then [.unknownPruned] else [])

end Rules

namespace Property

/-- The change of the type. -/
def typeChange (old new : PropertyType) : List PropertyChange :=
  if old = new then [] else [.typeChanged old new]

/-- The members that are gone. -/
def removedFields (old new : Property) : List PropertyChange :=
  (old.properties.filter fun member => !hasKey member.1 new.properties).map fun (key, p) =>
    .fieldRemoved key p.type (old.isRequired key)

/-- The members that are new. -/
def addedFields (old new : Property) : List PropertyChange :=
  (new.properties.filter fun member => !hasKey member.1 old.properties).map fun (key, p) =>
    .fieldAdded key p.type (new.isRequired key)

/-- The members that both have and only the later one requires. -/
def requiredFields (old new : Property) : List PropertyChange :=
  (new.rules.required.filter fun key =>
    hasKey key old.properties && !old.isRequired key).map .nowRequired

/-- Changes of the property at a path. -/
def located (path : SchemaPath) (changes : List PropertyChange) :
    List (SchemaPath × PropertyChange) :=
  changes.map (path, ·)

mutual

/-- The changes of a property at a path and of those inside it. The type and the rules of the
property itself are left out if `membersOnly`. -/
def changes (membersOnly : Bool) (path : SchemaPath) (old new : Property) :
    List (SchemaPath × PropertyChange) :=
  match old with
  | ⟨type, rules, properties, items?, additional?⟩ =>
    let old : Property := ⟨type, rules, properties, items?, additional?⟩
    let own :=
      if membersOnly then [] else typeChange type new.type ++ rules.changes new.rules
    let inner :=
      if membersOnly then []
      else itemChanges path items? new ++ additionalChanges path additional? new
    located path (own ++ removedFields old new ++ addedFields old new) ++
      memberChanges path properties new ++ located path (requiredFields old new) ++ inner
termination_by structural old

/-- The changes of the members that the later property has too. -/
def memberChanges (path : SchemaPath) (properties : List (String × Property)) (new : Property) :
    List (SchemaPath × PropertyChange) :=
  match properties with
  | [] => []
  | (key, old) :: rest =>
    (match findKey? key new.properties with
      | some p => changes false (path ++ [.property key]) old p
      | none => []) ++ memberChanges path rest new
termination_by structural properties

/-- The changes of the items, if the later property has items too. -/
def itemChanges (path : SchemaPath) (items? : Option Property) (new : Property) :
    List (SchemaPath × PropertyChange) :=
  match items? with
  | some old =>
    match new.items? with
    | some p => changes false (path ++ [.items]) old p
    | none => []
  | none => []
termination_by structural items?

/-- The changes of the members without a property, if both describe them. -/
def additionalChanges (path : SchemaPath) (additional? : Option (OrBool Property))
    (new : Property) : List (SchemaPath × PropertyChange) :=
  match additional? with
  | some (.value old) =>
    match new.additional? with
    | some (.value p) => changes false (path ++ [.additional]) old p
    | _ => []
  | _ => []
termination_by structural additional?

end

end Property

/-- What was found by comparing a definition with an earlier one. -/
structure Analysis where
  /-- The name of the later definition. -/
  name : String
  /-- The changes. -/
  changes : List Change
  /-- Whether there was no earlier definition. -/
  isNew : Bool
  deriving Repr

namespace CrdView

/-- The changes of what identifies a resource. -/
def identityChanges (old new : CrdView) : List Change :=
  (if old.group = new.group then [] else [.group old.group new.group]) ++
    (if old.scope = new.scope then [] else [.scope old.scope new.scope])

/-- The changes of the names. -/
def nameChanges (old new : NamesView) : List Change :=
  (if old.kind = new.kind then [] else [.kindName old.kind new.kind]) ++
    (textsWithout new.shortNames old.shortNames).map .shortNameAdded ++
    (textsWithout old.shortNames new.shortNames).map .shortNameRemoved ++
    (new.categories.filter (!old.categories.contains ·)).map .categoryAdded

/-- The changes of the schema of a version. -/
def schemaChanges (old new : VersionView) : List Change :=
  match old.schema?, new.schema? with
  | some before, some after =>
    (Property.changes true [] before after).map fun (path, change) =>
      .property new.name path change
  | _, _ => []

/-- The changes of a later version: of its schema, or that it is new. -/
def versionChanges (old : CrdView) (new : VersionView) : List Change :=
  match old.version? new.name with
  | some previous => schemaChanges previous new
  | none => [.versionAdded new.name]

/-- The change of the version that resources are stored in. -/
def storageChange (old new : CrdView) : List Change :=
  let before := old.storageVersion?.map (·.name)
  let after := new.storageVersion?.map (·.name)
  if before == after then [] else [.storage before after]

/-- The changes from a definition to a later one. -/
def changes (old new : CrdView) : List Change :=
  identityChanges old new ++ nameChanges old.names new.names ++
    (old.versions.filter fun v => (new.version? v.name).isNone).map (.versionRemoved ·.name) ++
    new.versions.flatMap (versionChanges old) ++ storageChange old new

end CrdView

namespace Analysis

/-- The comparison of a definition with an earlier one, if there is any. -/
def compare (old? : Option CrdView) (new : CrdView) : Analysis :=
  match old? with
  | none => { name := new.name, changes := [], isNew := true }
  | some old => { name := new.name, changes := old.changes new, isNew := false }

/-- The comparison of a definition that was just made with an earlier one. -/
def ofCrd (old? : Option CrdView) (new : Crd) : Except CrdError Analysis := do
  return compare old? (← CrdView.ofCrd new)

/-- The changes of a severity. -/
def changesOf (a : Analysis) (severity : Severity) : List Change :=
  a.changes.filter (·.severity == severity)

/-- The greatest severity of the changes. -/
def maxSeverity (a : Analysis) : Severity :=
  if !(a.changesOf .dangerous).isEmpty then .dangerous
  else if !(a.changesOf .warning).isEmpty then .warning
  else .safe

end Analysis
end ChartSchema
