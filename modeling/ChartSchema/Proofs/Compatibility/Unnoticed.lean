import ChartSchema.Proofs.Compatibility.Relaxation
import ChartSchema.Proofs.Compatibility.Reordering
/-!
# Differences that are not reported

A comparison of two definitions reports changes, but not every difference is one. This module says
which differences go unnoticed: `Property.Unnoticed` between two properties, and
`Crd.unchanged_iff` between two generated definitions, where nothing is reported exactly if the
group, the scope, the kind and the version are the same, the short names are, every category of the
later definition was one before, and the differences of the schemas are unnoticed.

What is taken for the same is wider than equality, in two ways.

* Some parts are looked at in one direction. A default, a description or a category that is gone is
  no change, nor is a member that is no longer required, nor a value that keeps unknown members
  from now on. The items of a list and what is said of other members are compared where both
  definitions have them. The plural, the singular and the kind of a list are not compared.
* Numbers are compared as floats, and two bounds count as one if they are closer to each other than
  one is to the next float, however small they are.
-/

namespace ChartSchema

/-! ## Rules -/

namespace Rules

/-- Bounds that the comparison takes for the same. -/
def BoundsMatch (old? new? : Option Binary64) : Prop :=
  Option.Rel (fun old new => ¬old.IsFarFrom new) old? new?

/-- Bounds that are counts and that the comparison takes for the same. -/
def CountsMatch (old? new? : Option Nat) : Prop :=
  BoundsMatch (old?.map fun n : Nat => .ofInt n) (new?.map fun n : Nat => .ofInt n)

/-- **Differences of rules that go unnoticed.** -/
structure Unnoticed (old new : Rules) : Prop where
  /-- A default was the same before. -/
  default : ∀ v, new.default? = some v → ∃ before, old.default? = some before ∧ before.same v = true
  /-- A description was the same before. -/
  description : ∀ text, new.description? = some text → old.description? = some text
  /-- The expression is the same. -/
  pattern : old.pattern? = new.pattern?
  /-- The format is the same. -/
  format : old.format? = new.format?
  /-- The least numbers match. -/
  minimum : BoundsMatch old.minimum? new.minimum?
  /-- The largest numbers match. -/
  maximum : BoundsMatch old.maximum? new.maximum?
  /-- The least number is excluded as before. -/
  exclusiveMinimum : old.exclusiveMinimum = new.exclusiveMinimum
  /-- The largest number is excluded as before. -/
  exclusiveMaximum : old.exclusiveMaximum = new.exclusiveMaximum
  /-- The least lengths match. -/
  minLength : CountsMatch old.minLength? new.minLength?
  /-- The largest lengths match. -/
  maxLength : CountsMatch old.maxLength? new.maxLength?
  /-- The least numbers of items match. -/
  minItems : CountsMatch old.minItems? new.minItems?
  /-- The largest numbers of items match. -/
  maxItems : CountsMatch old.maxItems? new.maxItems?
  /-- The least numbers of members match. -/
  minProperties : CountsMatch old.minProperties? new.minProperties?
  /-- The largest numbers of members match. -/
  maxProperties : CountsMatch old.maxProperties? new.maxProperties?
  /-- Items have to differ as before. -/
  uniqueItems : old.uniqueItems = new.uniqueItems
  /-- Null is allowed as before. -/
  nullable : old.nullable = new.nullable
  /-- Numbers are multiples of the same. -/
  multipleOf : Option.Rel (fun old new => old.eq new = true) old.multipleOf? new.multipleOf?
  /-- The values that are listed have the same texts. -/
  enum : Option.Rel (fun before after : List Json =>
    ∀ text, text ∈ before.map (·.compact) ↔ text ∈ after.map (·.compact)) old.enum? new.enum?
  /-- Unknown members are kept if they were. -/
  preserveUnknown : old.preserveUnknown = true → new.preserveUnknown = true

variable {rule : String}

/-- A text that is a rule has no change exactly if it is the same. -/
theorem textChange_eq_nil_iff {old? new? : Option String} :
    textChange rule old? new? = [] ↔ old? = new? := by
  simp [textChange]

/-- A rule that holds or not has no change exactly if it is the same. -/
theorem flagChange_eq_nil_iff {old new : Bool} : flagChange rule old new = [] ↔ old = new := by
  simp [flagChange]

theorem boundChange_eq_nil_iff {side : Side} {old? new? : Option Binary64} :
    boundChange rule side old? new? = [] ↔ BoundsMatch old? new? := by
  unfold boundChange BoundsMatch
  cases old? <;> cases new? <;> simp [Binary64.IsFarFrom]

theorem countChange_eq_nil_iff {side : Side} {old? new? : Option Nat} :
    countChange rule side old? new? = [] ↔ CountsMatch old? new? :=
  boundChange_eq_nil_iff

theorem multipleChange_eq_nil_iff {old? new? : Option Binary64} :
    multipleChange old? new? = [] ↔ Option.Rel (fun old new => old.eq new = true) old? new? := by
  unfold multipleChange
  cases old? <;> cases new? <;> simp

/-- Texts that no other text lacks, in both directions, are the same texts. -/
theorem textsWithout_both_eq_nil_iff {texts others : List String} :
    (textsWithout texts others = [] ∧ textsWithout others texts = []) ↔
      ∀ text, text ∈ texts ↔ text ∈ others := by
  rw [textsWithout_eq_nil_iff, textsWithout_eq_nil_iff, ← forall_and]
  exact forall_congr' fun _ => iff_iff_implies_and_implies.symm

variable {old new : Rules}

theorem enumChanges_eq_nil_iff :
    enumChanges old new = [] ↔
      Option.Rel (fun before after : List Json =>
          ∀ text, text ∈ before.map (·.compact) ↔ text ∈ after.map (·.compact))
        old.enum? new.enum? := by
  unfold enumChanges
  cases old.enum? with
  | none => cases new.enum? <;> simp
  | some before =>
    cases new.enum? with
    | none => simp
    | some after =>
      -- What is listed is compared by its text, in both directions.
      rw [Option.rel_some_some, ← textsWithout_both_eq_nil_iff]
      simp only [List.append_eq_nil_iff, ite_eq_left_iff, List.cons_ne_nil, imp_false, not_not,
        List.isEmpty_iff]

/-- A default has no change exactly if it was the same before. -/
theorem defaultChange_eq_nil_iff :
    defaultChange old new = [] ↔ ∀ v, new.default? = some v →
      ∃ before, old.default? = some before ∧ before.same v = true := by
  unfold defaultChange
  cases old.default? <;> cases new.default? <;> simp

/-- A description has no change exactly if it was the same before. -/
theorem descriptionChange_eq_nil_iff :
    descriptionChange old new = [] ↔
      ∀ text, new.description? = some text → old.description? = some text := by
  unfold descriptionChange
  cases new.description? <;> simp

/-- **Rules have no changes exactly if their differences go unnoticed.** Each kind of change has its
own lemma of this form, and the changes are these one after the other. -/
theorem changes_eq_nil_iff : old.changes new = [] ↔ old.Unnoticed new := by
  have hpreserve : (if old.preserveUnknown && !new.preserveUnknown then
      [PropertyChange.unknownPruned] else []) = [] ↔
        (old.preserveUnknown = true → new.preserveUnknown = true) := by
    cases old.preserveUnknown <;> cases new.preserveUnknown <;> decide
  simp only [changes, validationChanges, List.append_eq_nil_iff, defaultChange_eq_nil_iff,
    descriptionChange_eq_nil_iff, textChange_eq_nil_iff, boundChange_eq_nil_iff,
    countChange_eq_nil_iff, flagChange_eq_nil_iff, multipleChange_eq_nil_iff,
    enumChanges_eq_nil_iff, hpreserve, Bool.not_inj_iff]
  constructor
  · rintro ⟨⟨⟨⟨hdefault, hdescription⟩, ⟨⟨⟨⟨⟨⟨⟨⟨⟨⟨⟨⟨⟨⟨hpattern, hformat⟩, hminimum⟩, hmaximum⟩,
      hexclusiveMinimum⟩, hexclusiveMaximum⟩, hminLength⟩, hmaxLength⟩, hminItems⟩, hmaxItems⟩,
      hminProperties⟩, hmaxProperties⟩, hunique⟩, hnullable⟩, hmultiple⟩⟩, henum⟩, hkept⟩
    exact ⟨hdefault, hdescription, hpattern, hformat, hminimum, hmaximum, hexclusiveMinimum,
      hexclusiveMaximum, hminLength, hmaxLength, hminItems, hmaxItems, hminProperties,
      hmaxProperties, hunique, hnullable, hmultiple, henum, hkept⟩
  · intro h
    exact ⟨⟨⟨⟨h.default, h.description⟩, ⟨⟨⟨⟨⟨⟨⟨⟨⟨⟨⟨⟨⟨⟨h.pattern, h.format⟩, h.minimum⟩,
      h.maximum⟩, h.exclusiveMinimum⟩, h.exclusiveMaximum⟩, h.minLength⟩, h.maxLength⟩,
      h.minItems⟩, h.maxItems⟩, h.minProperties⟩, h.maxProperties⟩, h.uniqueItems⟩, h.nullable⟩,
      h.multipleOf⟩⟩, h.enum⟩, h.preserveUnknown⟩

end Rules

/-! ## Properties -/

namespace Property

/-- **Differences of properties that go unnoticed**, with those of the properties inside them. The
type, the rules and what is inside besides members do not matter if `membersOnly`. -/
inductive Unnoticed : Bool → Property → Property → Prop
  /-- No part shows a difference. -/
  | intro {membersOnly : Bool} {old new : Property} :
    (membersOnly = false → old.type = new.type) →
    (membersOnly = false → old.rules.Unnoticed new.rules) →
    (∀ key, hasKey key old.properties = hasKey key new.properties) →
    (∀ key ∈ new.rules.required, hasKey key old.properties = true → old.isRequired key = true) →
    (∀ key p q, (key, p) ∈ old.properties → findKey? key new.properties = some q →
      Unnoticed false p q) →
    (membersOnly = false → ∀ p q, old.items? = some p → new.items? = some q →
      Unnoticed false p q) →
    (membersOnly = false → ∀ p q, old.additional? = some (.value p) →
      new.additional? = some (.value q) → Unnoticed false p q) →
      Unnoticed membersOnly old new

variable {membersOnly : Bool} {path : SchemaPath} {old new : Property}

theorem typeChange_eq_nil_iff {a b : PropertyType} : typeChange a b = [] ↔ a = b := by
  simp [typeChange]

/-- Members that are missing and members that are new are none exactly if the keys are the same. -/
theorem fields_eq_nil_iff :
    (removedFields old new = [] ∧ addedFields old new = []) ↔
      ∀ key, hasKey key old.properties = hasKey key new.properties := by
  rw [removedFields_eq_nil_iff, addedFields_eq_nil_iff, ← forall_and]
  exact forall_congr' fun key => (Bool.eq_iff_iff.trans iff_iff_implies_and_implies).symm

/-- **A property has no changes exactly if no part of it has any.** Where only the members are
compared, the other parts are not looked at. -/
theorem changes_eq_nil_iff_parts :
    changes membersOnly path old new = [] ↔
      (membersOnly = false → typeChange old.type new.type = []) ∧
      (membersOnly = false → old.rules.changes new.rules = []) ∧
      (removedFields old new = [] ∧ addedFields old new = []) ∧
      memberChanges path old.properties new = [] ∧ requiredFields old new = [] ∧
      (membersOnly = false → itemChanges path old.items? new = []) ∧
      (membersOnly = false → additionalChanges path old.additional? new = []) := by
  rw [changes_eq]
  cases membersOnly <;> simp [located, and_assoc]

/-- A member is smaller than the property it belongs to. -/
theorem sizeOf_lt_of_mem {key : String} {p : Property} (h : (key, p) ∈ old.properties) :
    sizeOf p < sizeOf old := by
  have hmem := List.sizeOf_lt_of_mem h
  cases old
  simp only [Prod.mk.sizeOf_spec, mk.sizeOf_spec] at hmem ⊢
  omega

theorem sizeOf_lt_of_items {p : Property} (h : old.items? = some p) : sizeOf p < sizeOf old := by
  cases old
  cases h
  simp only [Option.some.sizeOf_spec, mk.sizeOf_spec]
  omega

theorem sizeOf_lt_of_additional {p : Property} (h : old.additional? = some (.value p)) :
    sizeOf p < sizeOf old := by
  cases old
  cases h
  simp only [Option.some.sizeOf_spec, OrBool.value.sizeOf_spec, mk.sizeOf_spec]
  omega

/-- **Properties without changes have differences that go unnoticed.** What is inside of both has
no changes either, and is smaller. -/
theorem unnoticed_of_changes {membersOnly : Bool} {path : SchemaPath} {old new : Property}
    (h : changes membersOnly path old new = []) : Unnoticed membersOnly old new := by
  -- That no change is there is handed on to what is inside of both.
  have hall := allChanges_false_iff.mpr h
  obtain ⟨htype, hrules, hfields, -, hrequired, -, -⟩ := changes_eq_nil_iff_parts.mp h
  refine .intro (fun hall => typeChange_eq_nil_iff.mp (htype hall))
    (fun hall => Rules.changes_eq_nil_iff.mp (hrules hall)) (fields_eq_nil_iff.mp hfields)
    (requiredFields_eq_nil_iff.mp hrequired) (fun key p q hp hq => ?_) (fun hfull p q hp hq => ?_)
    fun hfull p q hp hq => ?_
  · have := sizeOf_lt_of_mem hp
    exact unnoticed_of_changes (allChanges_false_iff.mp (hall.member hp hq))
  · have := sizeOf_lt_of_items hp
    subst hfull
    exact unnoticed_of_changes (allChanges_false_iff.mp (hall.items hp hq))
  · have := sizeOf_lt_of_additional hp
    subst hfull
    exact unnoticed_of_changes (allChanges_false_iff.mp (hall.additional hp hq))
termination_by sizeOf old

/-- **Properties whose differences go unnoticed have no changes.** The induction is that over the
unnoticed differences. -/
theorem changes_of_unnoticed (h : Unnoticed membersOnly old new) (path : SchemaPath) :
    changes membersOnly path old new = [] := by
  induction h generalizing path with
  | intro htype hrules hfields hrequired _ _ _ ihmembers ihitems ihadditional =>
    obtain ⟨hremoved, hadded⟩ := fields_eq_nil_iff.mpr hfields
    exact changes_eq_nil (fun hfull => typeChange_eq_nil_iff.mpr (htype hfull))
      (fun hfull => Rules.changes_eq_nil_iff.mpr (hrules hfull)) hremoved hadded
      (requiredFields_eq_nil_iff.mpr hrequired) (fun key p q hp hq => ihmembers key p q hp hq _)
      (fun hfull p q hp hq => ihitems hfull p q hp hq _)
      fun hfull p q hp hq => ihadditional hfull p q hp hq _

/-- **Properties have no changes exactly if their differences go unnoticed**, at every location of
both. This is an induction over the older one, in each direction. -/
theorem changes_eq_nil_iff :
    changes membersOnly path old new = [] ↔ Unnoticed membersOnly old new :=
  ⟨unnoticed_of_changes, fun h => changes_of_unnoticed h path⟩

end Property

/-! ## Definitions -/

namespace CrdView

/-- **Differences of names that go unnoticed**: categories that are gone, and names that are not
compared. -/
structure UnnoticedNames (old new : NamesView) : Prop where
  /-- The kind is the same. -/
  kind : old.kind = new.kind
  /-- The short names are the same, in any order. -/
  shortNames : ∀ name, name ∈ old.shortNames ↔ name ∈ new.shortNames
  /-- Every category was one before. -/
  categories : ∀ name ∈ new.categories, name ∈ old.categories

/-- Names have no changes exactly if their differences go unnoticed. -/
theorem nameChanges_eq_nil_iff {old new : NamesView} :
    nameChanges old new = [] ↔ UnnoticedNames old new := by
  have hkind : (if old.kind = new.kind then [] else [Change.kindName old.kind new.kind]) = [] ↔
      old.kind = new.kind := by simp
  have hcategories : (new.categories.filter (!old.categories.contains ·)) = [] ↔
      ∀ name ∈ new.categories, name ∈ old.categories := by simp
  unfold nameChanges
  simp only [List.append_eq_nil_iff, List.map_eq_nil_iff, hkind, hcategories]
  constructor
  · rintro ⟨⟨⟨hkind, hadded⟩, hremoved⟩, hcategories⟩
    exact ⟨hkind, Rules.textsWithout_both_eq_nil_iff.mp ⟨hremoved, hadded⟩, hcategories⟩
  · rintro ⟨hkind, hnames, hcategories⟩
    obtain ⟨hremoved, hadded⟩ := Rules.textsWithout_both_eq_nil_iff.mpr hnames
    exact ⟨⟨⟨hkind, hadded⟩, hremoved⟩, hcategories⟩

variable {old new : CrdView} {before after : VersionView} {schema later : Property}

/-- What identifies a resource has no changes exactly if it is the same. -/
theorem identityChanges_eq_nil_iff :
    identityChanges old new = [] ↔ old.group = new.group ∧ old.scope = new.scope := by
  simp [identityChanges]

/-- No version is gone, where there is one before and one after, exactly if it has the same
name. -/
theorem versionsRemoved_eq_nil_iff (hold : old.versions = [before])
    (hnew : new.versions = [after]) :
    ((old.versions.filter fun v => (new.version? v.name).isNone).map (Change.versionRemoved ·.name))
      = [] ↔ before.name = after.name := by
  rw [List.map_eq_nil_iff, hold, List.filter_singleton, version?, hnew, List.find?_singleton]
  by_cases hname : before.name = after.name
  · rw [hname, beq_self_eq_true]
    simp
  · rw [beq_false_of_ne (Ne.symm hname)]
    simp [hname]

/-- The changes of the only version, where it has the same name, are those of its schema. -/
theorem versionChanges_eq_nil_iff (hold : old.versions = [before]) (hnew : new.versions = [after])
    (hname : before.name = after.name) (hschema : before.schema? = some schema)
    (hlater : after.schema? = some later) :
    new.versions.flatMap (versionChanges old) = [] ↔ Property.Unnoticed true schema later := by
  have hfound : old.version? after.name = some before := by
    rw [version?, hold, List.find?_singleton, if_pos (by rw [hname, beq_self_eq_true])]
  rw [hnew, List.flatMap_singleton, versionChanges, hfound]
  dsimp only
  rw [schemaChanges, hschema, hlater, ← @Property.changes_eq_nil_iff true []]
  exact List.map_eq_nil_iff

/-- **Definitions with one version have no changes exactly if their differences go unnoticed.** The
only version is the one that is stored, on both sides, so nothing is told of that. -/
theorem changes_eq_nil_iff (hold : old.versions = [before]) (hnew : new.versions = [after])
    (hstored : before.storage = true) (hstored' : after.storage = true)
    (hschema : before.schema? = some schema) (hlater : after.schema? = some later) :
    old.changes new = [] ↔ old.group = new.group ∧ old.scope = new.scope ∧
      UnnoticedNames old.names new.names ∧ before.name = after.name ∧
        Property.Unnoticed true schema later := by
  have hstorage (hname : before.name = after.name) : storageChange old new = [] := by
    simp [storageChange, storageVersion?, hold, hnew, hstored, hstored', hname]
  unfold changes
  simp only [List.append_eq_nil_iff, identityChanges_eq_nil_iff, nameChanges_eq_nil_iff,
    versionsRemoved_eq_nil_iff hold hnew]
  constructor
  · rintro ⟨⟨⟨⟨⟨hgroup, hscope⟩, hnames⟩, hname⟩, hversions⟩, -⟩
    exact ⟨hgroup, hscope, hnames, hname,
      (versionChanges_eq_nil_iff hold hnew hname hschema hlater).mp hversions⟩
  · rintro ⟨hgroup, hscope, hnames, hname, hunnoticed⟩
    exact ⟨⟨⟨⟨⟨hgroup, hscope⟩, hnames⟩, hname⟩,
      (versionChanges_eq_nil_iff hold hnew hname hschema hlater).mpr hunnoticed⟩, hstorage hname⟩

end CrdView

namespace Crd

variable {old new : Crd} {version version' : String} {node node' : SchemaNode}

/-- **Generated definitions are compared without a change exactly if their differences go
unnoticed.** -/
theorem unchanged_iff (hold : old.IsGenerated version node)
    (hnew : new.IsGenerated version' node') :
    old.Unchanged new ↔ old.group = new.group ∧ old.scope = new.scope ∧
      CrdView.UnnoticedNames (CrdView.viewNames old.names) (CrdView.viewNames new.names) ∧
      version = version' ∧ Property.Unnoticed true node.view node'.view := by
  obtain ⟨name, scope, hscope, hview⟩ := hold.view_eq
  obtain ⟨name', scope', hscope', hview'⟩ := hnew.view_eq
  have hscopes : scope = scope' ↔ old.scope = new.scope := by
    rw [hscope, hscope']
    cases scope <;> cases scope' <;> decide
  have hchanges := @CrdView.changes_eq_nil_iff
    ⟨name, old.group, scope, CrdView.viewNames old.names, [⟨version, true, true, some node.view⟩]⟩
    ⟨name', new.group, scope', CrdView.viewNames new.names,
      [⟨version', true, true, some node'.view⟩]⟩ _ _ _ _ rfl rfl rfl rfl rfl rfl
  rw [← hscopes]
  refine Iff.trans ?_ hchanges
  constructor
  · rintro ⟨view, analysis, h, hanalysis, hnone⟩
    cases hview.symm.trans h
    obtain ⟨later, hlater, hcompared⟩ := Outcome.bind_eq_ok.mp hanalysis
    cases hview'.symm.trans hlater
    cases hcompared
    exact hnone
  · exact fun h => ⟨_, _, hview, Outcome.bind_eq_ok.mpr ⟨_, hview', rfl⟩, h⟩

/-- **Categories that are dropped are not reported**, whatever the definition: the comparison of
names looks for new categories only. -/
theorem unchanged_withoutCategories (h : old.IsGenerated version node) :
    old.Unchanged { old with names := { old.names with categories? := none } } := by
  have hsame := (unchanged_iff h h).mp (unchanged_of_sortRequired h h rfl)
  have hnew : Crd.IsGenerated { old with names := { old.names with categories? := none } }
      version node := ⟨h.named, h.inScope, h.versions, h.resource⟩
  obtain ⟨hgroup, hscope, hnames, hversion, hschema⟩ := hsame
  exact (unchanged_iff h hnew).mpr ⟨hgroup, hscope,
    ⟨hnames.kind, hnames.shortNames, fun _ => nofun⟩, hversion, hschema⟩

end Crd
end ChartSchema
