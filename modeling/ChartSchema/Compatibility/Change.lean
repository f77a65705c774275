import ChartSchema.Compatibility.View
import ChartSchema.Json.Printer
/-!
# Changes between two resource definitions

A `Change` says what differs between a definition and a later one, and where. What it is called,
how grave it is, the message about it and the texts of the old and the new side all follow from
that.
-/

namespace ChartSchema

/-- How a change affects the resources that exist already. -/
inductive Severity where
  /-- They stay valid. -/
  | safe
  /-- Some of them may become invalid or change. -/
  | warning
  /-- Data is lost or cannot be read any more. -/
  | dangerous
  deriving Repr, DecidableEq

namespace Severity

/-- How grave a severity is, as a number. -/
def rank : Severity → Nat
  | .safe => 0
  | .warning => 1
  | .dangerous => 2

/-- The name of a severity. -/
def name : Severity → String
  | .safe => "safe"
  | .warning => "warning"
  | .dangerous => "dangerous"

/-- The sign for a severity. -/
def icon : Severity → String
  | .safe => "✓"
  | .warning => "⚠"
  | .dangerous => "✗"

end Severity

/-- The kinds of changes. -/
inductive ChangeKind where
  /-- An optional field appears. -/
  | addOptionalField
  /-- A version appears. -/
  | addVersion
  /-- A short name appears. -/
  | addShortName
  /-- A category appears. -/
  | addCategory
  /-- A rule is dropped or admits more. -/
  | relaxValidation
  /-- A type becomes one that has more values. -/
  | widenFieldType
  /-- A description is another one. -/
  | updateDescription
  /-- A default appears. -/
  | addDefault
  /-- A rule appears or admits less. -/
  | tightenValidation
  /-- A default is another one. -/
  | changeDefault
  /-- A required field appears. -/
  | addRequiredField
  /-- A field becomes required. -/
  | makeRequired
  /-- Values of an enumeration appear. -/
  | addEnumValues
  /-- A short name disappears. -/
  | removeShortName
  /-- Unknown members are not kept any more. -/
  | stopPreservingUnknown
  /-- A version disappears. -/
  | removeVersion
  /-- A field disappears. -/
  | removeField
  /-- A required field disappears. -/
  | removeRequiredField
  /-- A type becomes another one. -/
  | changeFieldType
  /-- The resources live elsewhere. -/
  | changeScope
  /-- The group is another one. -/
  | changeGroup
  /-- The kind is another one. -/
  | changeKindName
  /-- Values of an enumeration disappear. -/
  | removeEnumValue
  /-- Resources are stored in another version. -/
  | changeStorageVersion
  deriving Repr, DecidableEq

namespace ChangeKind

/-- How grave the changes of a kind are. -/
def severity : ChangeKind → Severity
  | .addOptionalField | .addVersion | .addShortName | .addCategory | .relaxValidation
  | .widenFieldType | .updateDescription | .addDefault => .safe
  | .tightenValidation | .changeDefault | .addRequiredField | .makeRequired | .addEnumValues
  | .removeShortName | .stopPreservingUnknown => .warning
  | .removeVersion | .removeField | .removeRequiredField | .changeFieldType | .changeScope
  | .changeGroup | .changeKindName | .removeEnumValue | .changeStorageVersion => .dangerous

/-- What a kind of change is, in words. -/
def description : ChangeKind → String
  | .addOptionalField => "optional field added"
  | .addVersion => "API version added"
  | .addShortName => "short name added"
  | .addCategory => "category added"
  | .relaxValidation => "validation relaxed"
  | .widenFieldType => "field type widened"
  | .updateDescription => "description updated"
  | .addDefault => "default value added"
  | .tightenValidation => "validation tightened"
  | .changeDefault => "default value changed"
  | .addRequiredField => "required field added"
  | .makeRequired => "field now required"
  | .addEnumValues => "enum values added"
  | .removeShortName => "short name removed"
  | .stopPreservingUnknown => "unknown fields now pruned"
  | .removeVersion => "API version removed"
  | .removeField => "field removed"
  | .removeRequiredField => "required field removed"
  | .changeFieldType => "field type changed"
  | .changeScope => "scope changed"
  | .changeGroup => "group changed"
  | .changeKindName => "kind name changed"
  | .removeEnumValue => "enum value removed"
  | .changeStorageVersion => "storage version changed"

end ChangeKind

/-! ## Changes of a property -/

/-- A step from a property to one inside it. -/
inductive SchemaStep where
  /-- To the member of a key. -/
  | property (key : String)
  /-- To the items of a list. -/
  | items
  /-- To the members that have no property. -/
  | additional
  deriving Repr, DecidableEq

/-- The way from the schema of a version to a property. -/
abbrev SchemaPath := List SchemaStep

namespace SchemaPath

/-- A key behind the name of the field that it belongs to. -/
def joined (field key : String) : String := if field.isEmpty then key else field ++ "." ++ key

/-- The name of a field with one more step. -/
def fieldStep (field : String) : SchemaStep → String
  | .property key => joined field key
  | .items => field ++ "[]"
  | .additional => field ++ "\x7b\x7d"

/-- The name of the field at a path. -/
def field (path : SchemaPath) : String := path.foldl fieldStep ""

/-- A step as part of a location. -/
def stepText : SchemaStep → String
  | .property key => ".properties." ++ key
  | .items => ".items"
  | .additional => ".additionalProperties"

/-- The location of the property at a path, in the schema of a version. -/
def location (path : SchemaPath) : String := Text.joinWith "" (path.map stepText)

end SchemaPath

/-- The side on which a bound limits. -/
inductive Side where
  /-- Values below the bound are excluded. -/
  | lower
  /-- Values above the bound are excluded. -/
  | upper
  deriving Repr, DecidableEq

/-- What differs between a property and a later one. -/
inductive PropertyChange where
  /-- A member is gone. -/
  | fieldRemoved (key : String) (type : PropertyType) (wasRequired : Bool)
  /-- A member is new. -/
  | fieldAdded (key : String) (type : PropertyType) (isRequired : Bool)
  /-- A member has to be there now. -/
  | nowRequired (key : String)
  /-- The type is another one. -/
  | typeChanged (old new : PropertyType)
  /-- There is a default now. -/
  | defaultAdded (value : Json)
  /-- The default is another one. -/
  | defaultChanged (old new : Json)
  /-- There is a description, and it is another one. -/
  | descriptionChanged (old? : Option String) (new : String)
  /-- A rule that is a text is another one. -/
  | textChanged (rule : String) (old? new? : Option String)
  /-- A bound is another one. -/
  | boundChanged (rule : String) (side : Side) (old? new? : Option Binary64)
  /-- A rule that holds or not has been switched. -/
  | flagChanged (rule : String) (old new : Bool)
  /-- What numbers are multiples of is another one. -/
  | multipleChanged (old? new? : Option Binary64)
  /-- The values are listed now. -/
  | enumAdded (values : List Json)
  /-- The values are not listed any more. -/
  | enumRemoved
  /-- Some of the listed values are gone. -/
  | valuesRemoved (values : List String)
  /-- Some of the listed values are new. -/
  | valuesAdded (values : List String)
  /-- Unknown members are not kept any more. -/
  | unknownPruned
  deriving Repr

namespace PropertyChange

/-- A bound as a text. -/
def boundText (x : Binary64) : String := FloatLayout.positional.render x

/-- A truth value as a text. -/
def flagText (b : Bool) : String := if b then "true" else "false"

/-- Whether a rule that was dropped or added tightens or relaxes what is admitted. -/
def ruleKind (tighter : Bool) : ChangeKind :=
  if tighter then .tightenValidation else .relaxValidation

/-- The kind of a change. -/
def kind : PropertyChange → ChangeKind
  | .fieldRemoved _ _ wasRequired => if wasRequired then .removeRequiredField else .removeField
  | .fieldAdded _ _ isRequired => if isRequired then .addRequiredField else .addOptionalField
  | .nowRequired _ => .makeRequired
  | .typeChanged old new => if old.widensTo new then .widenFieldType else .changeFieldType
  | .defaultAdded _ => .addDefault
  | .defaultChanged .. => .changeDefault
  | .descriptionChanged .. => .updateDescription
  | .textChanged _ _ new? => ruleKind new?.isSome
  | .boundChanged _ side old? new? =>
    match old?, new? with
    | some old, some new =>
      match side with
      | .lower => ruleKind (old.lt new)
      | .upper => ruleKind (new.lt old)
    | _, new? => ruleKind new?.isSome
  | .flagChanged _ _ new => ruleKind new
  | .multipleChanged _ new? => ruleKind new?.isSome
  | .enumAdded _ => .tightenValidation
  | .enumRemoved => .relaxValidation
  | .valuesRemoved _ => .removeEnumValue
  | .valuesAdded _ => .addEnumValues
  | .unknownPruned => .stopPreservingUnknown

/-- What the location of a change has behind the location of the property. -/
def tail : PropertyChange → String
  | .fieldRemoved key .. | .fieldAdded key .. => ".properties." ++ key
  | .nowRequired _ => ".required"
  | .typeChanged .. => ".type"
  | .defaultAdded _ | .defaultChanged .. => ".default"
  | .descriptionChanged .. => ".description"
  | .textChanged rule .. | .boundChanged rule .. | .flagChanged rule .. => "." ++ rule
  | .multipleChanged .. => ".multipleOf"
  | .enumAdded _ | .enumRemoved | .valuesRemoved _ | .valuesAdded _ => ".enum"
  | .unknownPruned => ".x-kubernetes-preserve-unknown-fields"

/-- The message about a change of the field of this name. -/
def message (field : String) (change : PropertyChange) : String :=
  let named (rest : String) : String := "Field '" ++ field ++ "' " ++ rest
  match change with
  | .fieldRemoved key _ wasRequired =>
    "Field '" ++ SchemaPath.joined field key ++ "' removed" ++
      (if wasRequired then " (was required)" else "")
  | .fieldAdded key type isRequired =>
    "Field '" ++ SchemaPath.joined field key ++ "' added (" ++ type.name ++
      (if isRequired then ", required)" else ", optional)")
  | .nowRequired key => "Field '" ++ SchemaPath.joined field key ++ "' is now required"
  | .typeChanged old new => named ("type changed from " ++ old.name ++ " to " ++ new.name)
  | .defaultAdded v => named ("default value added: " ++ v.compact)
  | .defaultChanged .. => named "default changed"
  | .descriptionChanged .. => named "description updated"
  | .textChanged rule old? new? =>
    match old?, new? with
    | none, some new => named (rule ++ " constraint added: " ++ new)
    | _, none => named (rule ++ " constraint removed")
    | _, _ => named (rule ++ " changed")
  | .boundChanged rule _ old? new? =>
    match old?, new? with
    | none, some new => named (rule ++ " constraint added (" ++ boundText new ++ ")")
    | some old, none => named (rule ++ " constraint removed (was " ++ boundText old ++ ")")
    | some old, some new =>
      named (rule ++ " changed (" ++ boundText old ++ " → " ++ boundText new ++ ")")
    | none, none => named (rule ++ " changed")
  | .flagChanged rule _ new =>
    named (rule ++ " constraint " ++ (if new then "added" else "removed"))
  | .multipleChanged .. => named "multipleOf changed"
  | .enumAdded values => named ("restricted to " ++ toString values.length ++ " value(s)")
  | .enumRemoved => named "enum constraint removed"
  | .valuesRemoved values => named ("enum values removed: " ++ Text.joinWith ", " values)
  | .valuesAdded values => named ("enum values added: " ++ Text.joinWith ", " values)
  | .unknownPruned => named "no longer preserves unknown fields"

/-- The texts of the old and of the new side. -/
def sides : PropertyChange → Option String × Option String
  | .fieldRemoved _ type _ => (some type.name, none)
  | .fieldAdded _ type _ => (none, some type.name)
  | .nowRequired _ => (some "optional", some "required")
  | .typeChanged old new => (some old.name, some new.name)
  | .defaultAdded v => (none, some v.compact)
  | .defaultChanged old new => (some old.compact, some new.compact)
  | .descriptionChanged old? new => (old?, some new)
  | .textChanged _ old? new? => (old?, new?)
  | .boundChanged _ _ old? new? => (old?.map boundText, new?.map boundText)
  | .flagChanged _ old new => (some (flagText old), some (flagText new))
  | .multipleChanged old? new? => (old?.map boundText, new?.map boundText)
  | .enumAdded values => (none, some (Text.joinWith ", " (values.map (·.compact))))
  | .enumRemoved => (none, none)
  | .valuesRemoved values => (some (Text.joinWith ", " values), none)
  | .valuesAdded values => (none, some (Text.joinWith ", " values))
  | .unknownPruned => (some "true", none)

end PropertyChange

/-! ## Changes of a definition -/

/-- What differs between a definition and a later one. -/
inductive Change where
  /-- The group is another one. -/
  | group (old new : String)
  /-- The resources live elsewhere. -/
  | scope (old new : Scope)
  /-- The kind is another one. -/
  | kindName (old new : String)
  /-- A short name is new. -/
  | shortNameAdded (name : String)
  /-- A short name is gone. -/
  | shortNameRemoved (name : String)
  /-- A category is new. -/
  | categoryAdded (name : String)
  /-- A version is gone. -/
  | versionRemoved (name : String)
  /-- A version is new. -/
  | versionAdded (name : String)
  /-- Resources are stored in another version. -/
  | storage (old? new? : Option String)
  /-- A property of a version differs. -/
  | property (version : String) (path : SchemaPath) (change : PropertyChange)
  deriving Repr

namespace Change

/-- The kind of a change. -/
def kind : Change → ChangeKind
  | .group .. => .changeGroup
  | .scope .. => .changeScope
  | .kindName .. => .changeKindName
  | .shortNameAdded _ => .addShortName
  | .shortNameRemoved _ => .removeShortName
  | .categoryAdded _ => .addCategory
  | .versionRemoved _ => .removeVersion
  | .versionAdded _ => .addVersion
  | .storage .. => .changeStorageVersion
  | .property _ _ change => change.kind

/-- How grave a change is. -/
def severity (change : Change) : Severity := change.kind.severity

/-- Where a change is found in the definition. -/
def location : Change → String
  | .group .. => "spec.group"
  | .scope .. => "spec.scope"
  | .kindName .. => "spec.names.kind"
  | .shortNameAdded _ | .shortNameRemoved _ => "spec.names.shortNames"
  | .categoryAdded _ => "spec.names.categories"
  | .versionRemoved name | .versionAdded name => "spec.versions[" ++ name ++ "]"
  | .storage .. => "spec.versions[].storage"
  | .property version path change =>
    "spec.versions[" ++ version ++ "].schema" ++ path.location ++ change.tail

/-- The message about a change. -/
def message : Change → String
  | .group old new => "API group changed from '" ++ old ++ "' to '" ++ new ++ "'"
  | .scope old new => "Scope changed from " ++ old.name ++ " to " ++ new.name
  | .kindName old new => "Kind changed from '" ++ old ++ "' to '" ++ new ++ "'"
  | .shortNameAdded name => "Short name '" ++ name ++ "' added"
  | .shortNameRemoved name => "Short name '" ++ name ++ "' removed"
  | .categoryAdded name => "Category '" ++ name ++ "' added"
  | .versionRemoved name => "API version '" ++ name ++ "' removed"
  | .versionAdded name => "API version '" ++ name ++ "' added"
  | .storage old? new? =>
    "Storage version changed from '" ++ old?.getD "none" ++ "' to '" ++ new?.getD "none" ++ "'"
  | .property _ path change => change.message path.field

/-- The texts of the old and of the new side. -/
def sides : Change → Option String × Option String
  | .group old new | .kindName old new => (some old, some new)
  | .scope old new => (some old.name, some new.name)
  | .shortNameAdded name | .categoryAdded name | .versionAdded name => (none, some name)
  | .shortNameRemoved name | .versionRemoved name => (some name, none)
  | .storage old? new? => (old?, new?)
  | .property _ _ change => change.sides

/-- The sign for something added, removed or changed. -/
def sign (change : Change) : String :=
  match change.sides with
  | (none, some _) => "+"
  | (some _, none) => "-"
  | _ => "~"

end Change
end ChartSchema
