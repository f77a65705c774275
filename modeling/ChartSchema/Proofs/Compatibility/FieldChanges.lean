import ChartSchema.Proofs.Compatibility.Places
import ChartSchema.Proofs.Compatibility.RuleChanges
/-!
# Members that appear and disappear

A comparison tells of each member that only one side has, and of no other
(`CrdView.fieldChanges_exact`): wherever both definitions have a property at the same location, a
member of the earlier property that the later one lacks has exactly one change, which says that it
is gone and whether it was required, and likewise for a member that only the later property has.

That this is so everywhere follows from what is found at a location that is compared
(`CrdView.filter_changes`). There the changes of the type, of the rules and of what is required are
none of a member that appears or disappears, and a key has one member at most.
-/

namespace ChartSchema

/-! ## Kinds and places -/

/-- The kinds of the changes that tell of a member that appears or disappears. -/
def ChangeKind.isOfFields : ChangeKind → Bool
  | .addOptionalField | .addRequiredField | .removeField | .removeRequiredField => true
  | _ => false

namespace PropertyChange

theorem isOfFields_ruleKind (tighter : Bool) : (ruleKind tighter).isOfFields = false := by
  cases tighter <;> rfl

/-- **Changes of these kinds are about a field**, and no others are. This is what lets the changes
that tell of one field be counted by their kind. -/
theorem isOfFields_kind_iff (change : PropertyChange) :
    change.kind.isOfFields = true ↔ ∃ key, change.about = .field key := by
  have hrule {change : PropertyChange} (tighter : Bool) (hkind : change.kind = ruleKind tighter)
      (habout : ∀ key, change.about ≠ .field key) :
      change.kind.isOfFields = true ↔ ∃ key, change.about = .field key := by
    rw [hkind, isOfFields_ruleKind]
    exact iff_of_false Bool.false_ne_true fun ⟨key, hkey⟩ => habout key hkey
  cases change with
  | fieldRemoved key type required | fieldAdded key type required =>
    cases required <;> exact iff_of_true rfl ⟨key, rfl⟩
  | typeChanged old new =>
    rw [kind]
    split <;> simp [ChangeKind.isOfFields, about]
  | boundChanged rule side old? new? =>
    cases old? <;> cases new? <;> cases side <;> exact hrule _ rfl (by simp [about])
  | textChanged | flagChanged | multipleChanged => exact hrule _ rfl (by simp [about])
  | nowRequired | defaultAdded | defaultChanged | descriptionChanged | enumAdded | enumRemoved
  | valuesRemoved | valuesAdded | unknownPruned =>
    simp [kind, ChangeKind.isOfFields, about]

end PropertyChange

namespace Change

/-- The place of what a change of a property is about: of the member, if it is about one that
appears or disappears, and else of the property. -/
def place? : Change → Option (String × SchemaPath)
  | .property version path change =>
    match change.about with
    | .field key => some (version, path ++ [.property key])
    | _ => some (version, path)
  | _ => none

/-- Whether a change tells that the member of a key appears or disappears at a location. -/
def tellsOf (version : String) (path : SchemaPath) (key : String) (change : Change) : Bool :=
  change.kind.isOfFields && change.place? == some (version, path ++ [.property key])

variable {version : String} {path : SchemaPath} {key : String} {change : Change}

/-- A change tells of a member exactly if it is one of the property at the location and is about
this member. -/
theorem tellsOf_property_iff {v : String} {p : SchemaPath} {change : PropertyChange} :
    (Change.property v p change).tellsOf version path key = true ↔
      (Change.property v p change).isAt version path = true ∧ change.about = .field key := by
  rw [tellsOf, Bool.and_eq_true, beq_iff_eq, isAt, Bool.and_eq_true, beq_iff_eq, beq_iff_eq, kind,
    PropertyChange.isOfFields_kind_iff]
  constructor
  · rintro ⟨⟨k, hk⟩, hplace⟩
    rw [place?, hk] at hplace
    obtain ⟨rfl, hpath⟩ := Prod.mk.inj (Option.some.inj hplace)
    obtain ⟨rfl, hstep⟩ := List.append_inj' hpath rfl
    obtain rfl := SchemaStep.property.inj (List.singleton_inj.mp hstep)
    exact ⟨⟨rfl, rfl⟩, hk⟩
  · rintro ⟨⟨rfl, rfl⟩, hk⟩
    refine ⟨⟨key, hk⟩, ?_⟩
    rw [place?, hk]

/-- **The changes that tell of a member** are those at the location that are about it. -/
theorem filter_tellsOf (changes : List Change) :
    changes.filter (·.tellsOf version path key)
      = (changes.filter (·.isAt version path)).filter (·.tellsOf version path key) := by
  rw [List.filter_filter]
  refine List.filter_congr fun change _ => ?_
  cases change with
  | property v p change =>
    rw [Bool.eq_iff_iff, Bool.and_eq_true, tellsOf_property_iff]
    exact ⟨fun h => ⟨h, h.1⟩, And.left⟩
  | _ => rfl

end Change

/-! ## Members of one key -/

/-- Of members with different keys those of a key are the one that is found, if any. -/
theorem filter_key {α : Type} {members : List (String × α)} (hnodup : (members.map (·.1)).Nodup)
    (key : String) :
    members.filter (·.1 = key) = ((findKey? key members).map (key, ·)).toList := by
  induction members with
  | nil => rfl
  | cons member rest ih =>
    obtain ⟨k, v⟩ := member
    rw [List.map_cons, List.nodup_cons] at hnodup
    rw [findKey?_cons, List.filter_cons, ih hnodup.2]
    by_cases hk : k = key
    · have hrest : findKey? key rest = none := findKey?_eq_none.mpr (hk ▸ hnodup.1)
      rw [if_pos (decide_eq_true hk), if_pos hk, hrest, hk]
      rfl
    · rw [if_neg (by rw [decide_eq_true_iff]; exact hk), if_neg hk]

namespace Property

open PropertyChange (filter_about_eq_nil)

variable {p q : Property} {membersOnly : Bool}

/-- **Changes of the members that others lack**, if they are about these: about a key there is one
exactly if there is a member of the key and the others lack it. -/
theorem filter_about_members {members others : List (String × Property)}
    (hnodup : (members.map (·.1)).Nodup) {tell : String × Property → PropertyChange}
    (htell : ∀ member, (tell member).about = .field member.1) (key : String) :
    ((members.filter fun member => !hasKey member.1 others).map tell).filter
        (·.about = .field key)
      = if hasKey key others then []
        else ((findKey? key members).map fun p => tell (key, p)).toList := by
  have hkey : ((fun c => decide (c.about = .field key)) ∘ tell)
      = fun member : String × Property => decide (member.1 = key) := by
    funext member
    rw [Function.comp_apply, htell]
    exact decide_eq_decide.mpr (iff_of_eq (ChangeSubject.field.injEq ..))
  rw [List.filter_map, hkey, filter_key, findKey?_filter (fun k => !hasKey k others)]
  · cases hasKey key others with
    | true => rfl
    | false => cases findKey? key members <;> rfl
  · exact (List.filter_sublist.map _).nodup hnodup

/-- **Of the changes between two properties those about a field** are the changes of the members
that one of them lacks. -/
theorem filter_about_ownChanges (key : String) :
    (ownChanges membersOnly p q).filter (·.about = .field key)
      = (removedFields p q).filter (·.about = .field key) ++
        (addedFields p q).filter (·.about = .field key) := by
  have htype : ∀ c ∈ typeChange p.type q.type, c.about ≠ .field key := by
    intro c hc
    rw [about_of_mem_typeChange hc]
    exact ChangeSubject.noConfusion
  have hrules : ∀ c ∈ p.rules.changes q.rules, c.about ≠ .field key := by
    intro c hc
    rcases Rules.about_of_mem_changes hc with h | ⟨rule, h⟩ <;> rw [h] <;>
      exact ChangeSubject.noConfusion
  have hrequired : ∀ c ∈ requiredFields p q, c.about ≠ .field key := by
    intro c hc
    obtain ⟨k, -, rfl⟩ := List.mem_map.mp hc
    exact ChangeSubject.noConfusion
  rw [ownChanges, List.filter_append, List.filter_append, List.filter_append,
    filter_about_eq_nil hrequired, List.append_nil]
  cases membersOnly with
  | true => rfl
  | false =>
    rw [if_neg Bool.false_ne_true, List.filter_append, filter_about_eq_nil htype,
      filter_about_eq_nil hrules]
    rfl

/-- What is told of a member of two properties: that it is gone, that it is new, or nothing if both
have it or neither. -/
def fieldChange? (p q : Property) (key : String) : Option PropertyChange :=
  match findKey? key p.properties, findKey? key q.properties with
  | some r, none => some (.fieldRemoved key r.type (p.isRequired key))
  | none, some r => some (.fieldAdded key r.type (q.isRequired key))
  | _, _ => none

/-- **Between two properties there is one change about a field**, if only one of them has it, and
none if both have it or neither. -/
theorem filter_about_field (hp : (p.properties.map (·.1)).Nodup)
    (hq : (q.properties.map (·.1)).Nodup) (key : String) :
    (ownChanges membersOnly p q).filter (·.about = .field key)
      = (fieldChange? p q key).toList := by
  rw [filter_about_ownChanges, removedFields, addedFields,
    filter_about_members hp (fun _ => rfl), filter_about_members hq (fun _ => rfl), hasKey, hasKey,
    fieldChange?]
  cases findKey? key p.properties <;> cases findKey? key q.properties <;> rfl

end Property

/-! ## Definitions -/

namespace CrdView

variable {old new : CrdView} {version : String} {path : SchemaPath} {p q : Property}

theorem HasAt.keys_nodup (hkeys : old.KeysDistinct) (h : old.HasAt version path p) :
    (p.properties.map (·.1)).Nodup := by
  obtain ⟨a, ha, -, schema, hschema, hp⟩ := h
  exact hkeys a ha schema hschema path p hp

/-- **What is told of a member at a location that is compared** is what is told of it between the
two properties there. -/
theorem filter_tellsOf_changes (hold : (old.versions.map (·.name)).Nodup)
    (hnew : (new.versions.map (·.name)).Nodup) (hkeys : old.KeysDistinct)
    (hkeys' : new.KeysDistinct) (h : Compared old new version path p q) (key : String) :
    (old.changes new).filter (·.tellsOf version path key)
      = ((p.fieldChange? q key).map (.property version path)).toList := by
  have hat (c : PropertyChange) :
      (Change.property version path c).tellsOf version path key = decide (c.about = .field key) := by
    rw [Bool.eq_iff_iff, Change.tellsOf_property_iff, decide_eq_true_iff]
    exact and_iff_right (Bool.and_eq_true_iff.mpr ⟨beq_self_eq_true _, beq_self_eq_true _⟩)
  rw [Change.filter_tellsOf, filter_changes hold hnew hkeys h, List.filter_map,
    show ((·.tellsOf version path key) ∘ Change.property version path) = _ from funext hat,
    Property.filter_about_field (h.before.keys_nodup hkeys) (h.after.keys_nodup hkeys')]
  cases p.fieldChange? q key <;> rfl

/-- A change of a kind that tells of members tells of one at a location that is compared. -/
theorem exists_tellsOf (hkeys : old.KeysDistinct) {change : Change} (h : change ∈ old.changes new)
    (hkind : change.kind.isOfFields = true) : ∃ version path key p q,
      Compared old new version path p q ∧ change.tellsOf version path key = true := by
  cases change with
  | property version path c =>
    obtain ⟨p, q, hcompared⟩ := exists_compared hkeys h
    obtain ⟨key, hkey⟩ := c.isOfFields_kind_iff.mp hkind
    exact ⟨version, path, key, p, q, hcompared, Change.tellsOf_property_iff.mpr
      ⟨Bool.and_eq_true_iff.mpr ⟨beq_self_eq_true _, beq_self_eq_true _⟩, hkey⟩⟩
  | _ => exact absurd hkind Bool.false_ne_true

/-- **Members that appear and disappear are told of exactly.** Take two definitions whose versions
have different names and whose properties have no member twice. At every location that is compared,
a member that only the earlier property has has exactly one change of the kinds that tell of
members, which says that it is gone and whether it was required; a member that only the later one
has has exactly one, which says that it is new and whether it is required. There are no other
changes of these kinds. -/
theorem fieldChanges_exact (hold : (old.versions.map (·.name)).Nodup)
    (hnew : (new.versions.map (·.name)).Nodup) (hkeys : old.KeysDistinct)
    (hkeys' : new.KeysDistinct) :
    (∀ version path p q, Compared old new version path p q → ∀ key,
      (hasKey key p.properties = true → hasKey key q.properties = false →
        ∃ change, (Analysis.compare (some old) new).changes.filter (·.tellsOf version path key)
            = [change] ∧
          change.kind = if p.isRequired key then .removeRequiredField else .removeField) ∧
      (hasKey key q.properties = true → hasKey key p.properties = false →
        ∃ change, (Analysis.compare (some old) new).changes.filter (·.tellsOf version path key)
            = [change] ∧
          change.kind = if q.isRequired key then .addRequiredField else .addOptionalField)) ∧
    ∀ change ∈ (Analysis.compare (some old) new).changes, change.kind.isOfFields = true →
      ∃ version path key p q, Compared old new version path p q ∧
        change.tellsOf version path key = true ∧
          hasKey key p.properties ≠ hasKey key q.properties := by
  have hfilter {version : String} {path : SchemaPath} {p q : Property}
      (h : Compared old new version path p q) (key : String) :=
    filter_tellsOf_changes hold hnew hkeys hkeys' h key
  refine ⟨fun version path p q h key => ⟨fun hp hq => ?_, fun hq hp => ?_⟩,
    fun change hc hkind => ?_⟩
  · obtain ⟨r, hr⟩ := Option.isSome_iff_exists.mp hp
    have hnone := Option.not_isSome_iff_eq_none.mp (Bool.eq_false_iff.mp hq)
    refine ⟨.property version path (.fieldRemoved key r.type (p.isRequired key)), ?_, rfl⟩
    rw [Analysis.compare]
    exact (hfilter h key).trans (by rw [Property.fieldChange?, hr, hnone]; rfl)
  · obtain ⟨r, hr⟩ := Option.isSome_iff_exists.mp hq
    have hnone := Option.not_isSome_iff_eq_none.mp (Bool.eq_false_iff.mp hp)
    refine ⟨.property version path (.fieldAdded key r.type (q.isRequired key)), ?_, rfl⟩
    rw [Analysis.compare]
    exact (hfilter h key).trans (by rw [Property.fieldChange?, hr, hnone]; rfl)
  · obtain ⟨version, path, key, p, q, hcompared, htells⟩ := exists_tellsOf hkeys hc hkind
    refine ⟨version, path, key, p, q, hcompared, htells, fun hsame => ?_⟩
    have hmem : change ∈ (old.changes new).filter (·.tellsOf version path key) :=
      List.mem_filter.mpr ⟨hc, htells⟩
    have hnone : p.fieldChange? q key = none := by
      rw [hasKey, hasKey] at hsame
      rw [Property.fieldChange?]
      cases hp : findKey? key p.properties <;> cases hq : findKey? key q.properties
      · rfl
      · rw [hp, hq] at hsame
        exact absurd hsame Bool.false_ne_true
      · rw [hp, hq] at hsame
        exact absurd hsame.symm Bool.false_ne_true
      · rfl
    rw [hfilter hcompared, hnone] at hmem
    exact absurd hmem List.not_mem_nil

/-- A definition with one version, whose schema has a member with one member of its own. -/
def cabin (rules : Rules) (key : String) : CrdView :=
  { name := "cabins.a.io", group := "a.io", scope := .namespaced
    names := { kind := "Cabin", plural := "cabins", singular? := none, shortNames := []
               listKind? := none, categories := [] }
    versions := [{ name := "v1", served := true, storage := true
                   schema? := some { properties := [("a", { rules, properties := [(key, {})] })] } }] }

theorem keysDistinct_cabin (rules : Rules) (key : String) : (cabin rules key).KeysDistinct := by
  have hleaf : ({} : Property).KeysDistinct :=
    .intro List.nodup_nil fun step q h => by cases step <;> cases h
  intro version hversion schema hschema
  obtain rfl := List.mem_singleton.mp hversion
  obtain rfl := Option.some.inj hschema
  refine .intro (List.nodup_singleton _) fun step q h => ?_
  cases step with
  | items | additional => cases h
  | property k =>
    rw [Property.at?_property] at h
    obtain ⟨-, rfl⟩ := Prod.mk.inj (List.mem_singleton.mp (mem_of_findKey? h))
    refine .intro (List.nodup_singleton _) fun step q h => ?_
    cases step with
    | items | additional => cases h
    | property k =>
      rw [Property.at?_property] at h
      obtain ⟨-, rfl⟩ := Prod.mk.inj (List.mem_singleton.mp (mem_of_findKey? h))
      exact hleaf

/-- A required member of a member is gone and another one is there: there is one change that tells
of the required one, and it says that it was required. -/
theorem fieldChanges_exact_cabin :
    ((cabin { required := ["x"] } "x").versions.map (·.name)).Nodup ∧
      ((cabin {} "y").versions.map (·.name)).Nodup ∧
      (cabin { required := ["x"] } "x").KeysDistinct ∧ (cabin {} "y").KeysDistinct ∧
      ∃ change, (Analysis.compare (some (cabin { required := ["x"] } "x"))
          (cabin {} "y")).changes.filter (·.tellsOf "v1" [SchemaStep.property "a"] "x") = [change] ∧
        change.kind = .removeRequiredField := by
  have hnames (rules : Rules) (key : String) : ((cabin rules key).versions.map (·.name)).Nodup :=
    List.nodup_singleton _
  have hcompared : Compared (cabin { required := ["x"] } "x") (cabin {} "y") "v1"
      [SchemaStep.property "a"] { rules := { required := ["x"] }, properties := [("x", {})] }
      { properties := [("y", {})] } :=
    { before := ⟨_, List.mem_singleton_self _, rfl, _, rfl, rfl⟩
      after := ⟨_, List.mem_singleton_self _, rfl, _, rfl, rfl⟩
      starts := fun step hstep => Option.some.inj hstep ▸ rfl }
  have hexact := fieldChanges_exact (hnames _ _) (hnames _ _)
    (keysDistinct_cabin { required := ["x"] } "x") (keysDistinct_cabin {} "y")
  exact ⟨hnames _ _, hnames _ _, keysDistinct_cabin _ _, keysDistinct_cabin _ _,
    (hexact.1 _ _ _ _ hcompared "x").1 (by decide) (by decide)⟩

end CrdView
end ChartSchema
