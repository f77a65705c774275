import ChartSchema.Compatibility.Policy
import ChartSchema.Proofs.Json.Members
/-!
# What a list of changes contains

The changes between two properties are collected from the properties themselves, their members,
their items and what is said about other members. Here it is said once which changes the list
contains, so that "there is no change of such a kind" can be taken from a property to those
inside it, and what a policy lets through can be taken from a definition to its schema.
-/

namespace ChartSchema

/-! ## Texts that others lack -/

theorem mem_sortedTexts {texts : List String} {text : String} :
    text ∈ sortedTexts texts ↔ text ∈ texts := by
  rw [sortedTexts, mem_keys_sortKeys, List.map_map,
    show (Prod.fst ∘ fun x : String => (x, ())) = id from rfl, List.map_id]

/-- No text is lacking exactly if all of them are among the others. -/
theorem textsWithout_eq_nil_iff {texts others : List String} :
    textsWithout texts others = [] ↔ ∀ text ∈ texts, text ∈ others := by
  rw [textsWithout, List.filter_eq_nil_iff]
  refine forall_congr' fun text => imp_congr mem_sortedTexts ?_
  rw [Bool.not_eq_true, Bool.not_eq_false', List.contains_iff_mem]

/-! ## Changes of properties -/

namespace Property

variable {membersOnly : Bool} {path : SchemaPath} {old new : Property}

/-- The changes between two properties, part by part. -/
theorem changes_eq (membersOnly : Bool) (path : SchemaPath) (old new : Property) :
    changes membersOnly path old new =
      located path
        ((if membersOnly then [] else typeChange old.type new.type ++ old.rules.changes new.rules)
          ++ removedFields old new ++ addedFields old new) ++
      memberChanges path old.properties new ++ located path (requiredFields old new) ++
      (if membersOnly then []
        else itemChanges path old.items? new ++ additionalChanges path old.additional? new) := by
  cases old
  rfl

/-- No member is lacking exactly if every key of the one list is a key of the other. -/
theorem filter_hasKey_eq_nil_iff {xs ys : List (String × Property)} :
    (xs.filter fun member => !hasKey member.1 ys) = [] ↔
      ∀ key, hasKey key xs = true → hasKey key ys = true := by
  simp only [List.filter_eq_nil_iff, Bool.not_eq_true', Bool.not_eq_false, hasKey_iff,
    List.mem_map, forall_exists_index, and_imp, Prod.forall]
  exact ⟨fun h key k v hmem hkey => hkey ▸ h k v hmem, fun h k v hmem => h k k v hmem rfl⟩

/-- No member is missing exactly if those of before are still there. -/
theorem removedFields_eq_nil_iff :
    removedFields old new = [] ↔
      ∀ key, hasKey key old.properties = true → hasKey key new.properties = true :=
  List.map_eq_nil_iff.trans filter_hasKey_eq_nil_iff

/-- No member is new exactly if those of now were there before. -/
theorem addedFields_eq_nil_iff :
    addedFields old new = [] ↔
      ∀ key, hasKey key new.properties = true → hasKey key old.properties = true :=
  List.map_eq_nil_iff.trans filter_hasKey_eq_nil_iff

/-- Members that are required now are none exactly if those that both have were required. -/
theorem requiredFields_eq_nil_iff :
    requiredFields old new = [] ↔
      ∀ key ∈ new.rules.required, hasKey key old.properties = true → old.isRequired key = true := by
  unfold requiredFields
  simp

/-- **All changes between two properties, at whatever place, have a property.** -/
def AllChanges (P : PropertyChange → Prop) (membersOnly : Bool) (path : SchemaPath)
    (old new : Property) : Prop :=
  ∀ change ∈ changes membersOnly path old new, P change.2

namespace AllChanges

variable {P : PropertyChange → Prop}

/-- A change of the property itself is a change at its place. -/
theorem mem_located {changes : List PropertyChange} {change : PropertyChange}
    (h : change ∈ changes) : (path, change) ∈ located path changes :=
  List.mem_map.mpr ⟨change, h, rfl⟩

theorem removed (h : AllChanges P membersOnly path old new) :
    ∀ change ∈ removedFields old new, P change := by
  intro change hc
  refine h (path, change) ?_
  rw [changes_eq]
  simp only [List.mem_append]
  exact Or.inl (Or.inl (Or.inl (mem_located
    (List.mem_append_left _ (List.mem_append_right _ hc)))))

theorem added (h : AllChanges P membersOnly path old new) :
    ∀ change ∈ addedFields old new, P change := by
  intro change hc
  refine h (path, change) ?_
  rw [changes_eq]
  simp only [List.mem_append]
  exact Or.inl (Or.inl (Or.inl (mem_located (List.mem_append_right _ hc))))

/-- Members that are required now are among the changes. -/
theorem required (h : AllChanges P membersOnly path old new) :
    ∀ change ∈ requiredFields old new, P change := by
  intro change hc
  refine h (path, change) ?_
  rw [changes_eq]
  simp only [List.mem_append]
  exact Or.inl (Or.inr (mem_located hc))

theorem type (h : AllChanges P false path old new) :
    ∀ change ∈ typeChange old.type new.type, P change := by
  intro change hc
  refine h (path, change) ?_
  rw [changes_eq]
  simp only [List.mem_append]
  exact Or.inl (Or.inl (Or.inl (mem_located
    (List.mem_append_left _ (List.mem_append_left _ (List.mem_append_left _ hc))))))

theorem rules (h : AllChanges P false path old new) :
    ∀ change ∈ old.rules.changes new.rules, P change := by
  intro change hc
  refine h (path, change) ?_
  rw [changes_eq]
  simp only [List.mem_append]
  exact Or.inl (Or.inl (Or.inl (mem_located
    (List.mem_append_left _ (List.mem_append_left _ (List.mem_append_right _ hc))))))

/-- **The changes of a member that both have** are among the changes. -/
theorem member {key : String} {p q : Property} (h : AllChanges P membersOnly path old new)
    (hp : (key, p) ∈ old.properties) (hq : findKey? key new.properties = some q) :
    AllChanges P false (path ++ [SchemaStep.property key]) p q := by
  have hmem (properties : List (String × Property)) (hp : (key, p) ∈ properties) :
      ∀ change ∈ changes false (path ++ [SchemaStep.property key]) p q,
        change ∈ memberChanges path properties new := by
    intro change hc
    induction properties with
    | nil => exact absurd hp List.not_mem_nil
    | cons x rest ih =>
      obtain ⟨k, r⟩ := x
      rw [memberChanges, List.mem_append]
      rcases List.mem_cons.mp hp with hx | hp
      · obtain ⟨rfl, rfl⟩ := Prod.mk.inj hx
        refine Or.inl ?_
        rw [hq]
        exact hc
      · exact Or.inr (ih hp)
  intro change hc
  refine h change ?_
  rw [changes_eq]
  simp only [List.mem_append]
  exact Or.inl (Or.inl (Or.inr (hmem _ hp change hc)))

/-- **The changes of the items, if both have items,** are among the changes. -/
theorem items {p q : Property} (h : AllChanges P false path old new)
    (hp : old.items? = some p) (hq : new.items? = some q) :
    AllChanges P false (path ++ [SchemaStep.items]) p q := by
  intro change hc
  refine h change ?_
  rw [changes_eq, hp]
  simp only [List.mem_append]
  refine Or.inr (List.mem_append_left _ ?_)
  rw [itemChanges, hq]
  exact hc

/-- **The changes of other members, if both describe them,** are among the changes. -/
theorem additional {p q : Property} (h : AllChanges P false path old new)
    (hp : old.additional? = some (.value p)) (hq : new.additional? = some (.value q)) :
    AllChanges P false (path ++ [SchemaStep.additional]) p q := by
  intro change hc
  refine h change ?_
  rw [changes_eq, hp]
  simp only [List.mem_append]
  refine Or.inr (List.mem_append_right _ ?_)
  rw [additionalChanges, hq]
  exact hc

theorem memberChanges {properties : List (String × Property)}
    (h : ∀ key p q, (key, p) ∈ properties → findKey? key new.properties = some q →
      AllChanges P false (path ++ [SchemaStep.property key]) p q) :
    ∀ change ∈ memberChanges path properties new, P change.2 := by
  induction properties with
  | nil => exact fun _ hc => absurd hc List.not_mem_nil
  | cons member rest ih =>
    obtain ⟨key, p⟩ := member
    intro change hc
    rw [Property.memberChanges, List.mem_append] at hc
    rcases hc with hc | hc
    · split at hc
      · next q hq => exact h key p q List.mem_cons_self hq change hc
      · exact absurd hc List.not_mem_nil
    · exact ih (fun key p q hp => h key p q (List.mem_cons_of_mem _ hp)) change hc

theorem itemChanges {items? : Option Property}
    (h : ∀ p q, items? = some p → new.items? = some q →
      AllChanges P false (path ++ [SchemaStep.items]) p q) :
    ∀ change ∈ itemChanges path items? new, P change.2 := by
  cases items? with
  | none => exact fun _ hc => absurd hc List.not_mem_nil
  | some p =>
    rw [Property.itemChanges]
    split
    · next q hq => exact h p q rfl hq
    · exact fun _ hc => absurd hc List.not_mem_nil

/-- Other members have changes of a kind if what both say about them has. -/
theorem additionalChanges {additional? : Option (OrBool Property)}
    (h : ∀ p q, additional? = some (.value p) → new.additional? = some (.value q) →
      AllChanges P false (path ++ [SchemaStep.additional]) p q) :
    ∀ change ∈ additionalChanges path additional? new, P change.2 := by
  match additional? with
  | none | some (.bool _) => exact fun _ hc => absurd hc List.not_mem_nil
  | some (.value p) =>
    rw [Property.additionalChanges]
    split
    · next q hq => exact h p q rfl hq
    · exact fun _ hc => absurd hc List.not_mem_nil

/-- **All changes are of a kind if those of each part are.** The parts are those that a comparison
goes through: what is said of the value itself, the members that one side has, and what is inside of
both. -/
theorem of_parts
    (htype : membersOnly = false → ∀ change ∈ typeChange old.type new.type, P change)
    (hrules : membersOnly = false → ∀ change ∈ old.rules.changes new.rules, P change)
    (hremoved : ∀ change ∈ removedFields old new, P change)
    (hadded : ∀ change ∈ addedFields old new, P change)
    (hrequired : ∀ change ∈ requiredFields old new, P change)
    (hmembers : ∀ key p q, (key, p) ∈ old.properties → findKey? key new.properties = some q →
      AllChanges P false (path ++ [SchemaStep.property key]) p q)
    (hitems : membersOnly = false → ∀ p q, old.items? = some p → new.items? = some q →
      AllChanges P false (path ++ [SchemaStep.items]) p q)
    (hadditional : membersOnly = false → ∀ p q, old.additional? = some (.value p) →
      new.additional? = some (.value q) →
        AllChanges P false (path ++ [SchemaStep.additional]) p q) :
    AllChanges P membersOnly path old new := by
  have hlocated {changes : List PropertyChange} (h : ∀ change ∈ changes, P change) :
      ∀ change ∈ located path changes, P change.2 := by
    intro change hc
    obtain ⟨own, hown, rfl⟩ := List.mem_map.mp hc
    exact h own hown
  intro change hc
  rw [changes_eq, List.mem_append, List.mem_append, List.mem_append] at hc
  rcases hc with ((hc | hc) | hc) | hc
  · refine hlocated (fun own hown => ?_) change hc
    rw [List.mem_append, List.mem_append] at hown
    rcases hown with (hown | hown) | hown
    · cases membersOnly with
      | true => exact absurd hown List.not_mem_nil
      | false => exact (List.mem_append.mp hown).elim (htype rfl own) (hrules rfl own)
    · exact hremoved own hown
    · exact hadded own hown
  · exact AllChanges.memberChanges hmembers change hc
  · exact hlocated hrequired change hc
  · cases membersOnly with
    | true => exact absurd hc List.not_mem_nil
    | false =>
      exact (List.mem_append.mp hc).elim (AllChanges.itemChanges (hitems rfl) change)
        (AllChanges.additionalChanges (hadditional rfl) change)

end AllChanges

/-- There are no changes if none has any property. -/
theorem allChanges_false_iff :
    AllChanges (fun _ => False) membersOnly path old new ↔ changes membersOnly path old new = [] :=
  List.eq_nil_iff_forall_not_mem.symm

/-- **There are no changes if no part has any.** This is the case of a kind that no change is of. -/
theorem changes_eq_nil (htype : membersOnly = false → typeChange old.type new.type = [])
    (hrules : membersOnly = false → old.rules.changes new.rules = [])
    (hremoved : removedFields old new = []) (hadded : addedFields old new = [])
    (hrequired : requiredFields old new = [])
    (hmembers : ∀ key p q, (key, p) ∈ old.properties → findKey? key new.properties = some q →
      changes false (path ++ [SchemaStep.property key]) p q = [])
    (hitems : membersOnly = false → ∀ p q, old.items? = some p → new.items? = some q →
      changes false (path ++ [SchemaStep.items]) p q = [])
    (hadditional : membersOnly = false → ∀ p q, old.additional? = some (.value p) →
      new.additional? = some (.value q) →
        changes false (path ++ [SchemaStep.additional]) p q = []) :
    changes membersOnly path old new = [] := by
  have hnone {changes : List PropertyChange} (h : changes = []) : ∀ change ∈ changes, False :=
    List.eq_nil_iff_forall_not_mem.mp h
  exact allChanges_false_iff.mp (.of_parts (fun hfull => hnone (htype hfull))
    (fun hfull => hnone (hrules hfull)) (hnone hremoved) (hnone hadded) (hnone hrequired)
    (fun key p q hp hq => allChanges_false_iff.mpr (hmembers key p q hp hq))
    (fun hfull p q hp hq => allChanges_false_iff.mpr (hitems hfull p q hp hq))
    fun hfull p q hp hq => allChanges_false_iff.mpr (hadditional hfull p q hp hq))

end Property

/-! ## What a policy lets through -/

/-- **Every policy accepts what is safe.** A policy blocks changes from some severity on, and this
is never the lowest one. -/
theorem Policy.accept_of_safe (policy : Policy) {a : Analysis}
    (h : ∀ change ∈ a.changes, change.severity = .safe) : policy.decide a = .accept := by
  have hnone {least : Severity} (hleast : 0 < least.rank) :
      a.changes.filter (fun change => least.rank ≤ change.severity.rank) = [] := by
    refine List.filter_eq_nil_iff.mpr fun change hc => ?_
    rw [h change hc, decide_eq_true_iff]
    exact Nat.not_le_of_lt hleast
  unfold Policy.decide
  cases policy with
  | force => rfl
  | safe | strict =>
    dsimp only [Policy.threshold?]
    split
    · rfl
    · rw [hnone (by decide)]
      rfl

/-- **What a policy accepts is below its threshold**: every change of a definition is less grave
than those that it stops. -/
theorem Policy.rank_lt_of_accept {policy : Policy} {a : Analysis} {least : Severity} {word : String}
    (hthreshold : policy.threshold? = some (least, word)) (hold : a.isNew = false)
    (h : policy.decide a = .accept) : ∀ change ∈ a.changes, change.severity.rank < least.rank := by
  intro change hmem
  by_contra hgrave
  unfold Policy.decide at h
  rw [hthreshold, hold] at h
  dsimp only at h
  rw [if_neg Bool.false_ne_true] at h
  split at h
  · next hempty =>
    have hnone := List.isEmpty_iff.mp hempty
    have hin : change ∈ a.changes.filter fun change => least.rank ≤ change.severity.rank :=
      List.mem_filter.mpr ⟨hmem, decide_eq_true (Nat.le_of_not_lt hgrave)⟩
    rw [hnone] at hin
    exact List.not_mem_nil hin
  · cases h

/-- A policy that is not `force` and accepts a change of a definition found no dangerous one. -/
theorem Policy.not_dangerous_of_accept {policy : Policy} {a : Analysis}
    (hpolicy : policy ≠ .force) (hold : a.isNew = false) (h : policy.decide a = .accept) :
    ∀ change ∈ a.changes, change.severity ≠ .dangerous := by
  intro change hmem hdangerous
  have hbelow {least : Severity} {word : String}
      (hthreshold : policy.threshold? = some (least, word)) :
      Severity.dangerous.rank < least.rank :=
    hdangerous ▸ rank_lt_of_accept hthreshold hold h change hmem
  cases policy with
  | safe => exact absurd (hbelow rfl) (by decide)
  | strict => exact absurd (hbelow rfl) (by decide)
  | force => exact hpolicy rfl

/-- The strict policy accepts safe changes of a definition only. -/
theorem Policy.safe_of_accept {a : Analysis} (hold : a.isNew = false)
    (h : Policy.strict.decide a = .accept) : ∀ change ∈ a.changes, change.severity = .safe := by
  intro change hmem
  have hthreshold : Policy.strict.threshold? = some (.warning, "breaking or risky") := rfl
  have hbelow := rank_lt_of_accept hthreshold hold h change hmem
  cases hseverity : change.severity with
  | safe => rfl
  | warning | dangerous => rw [hseverity] at hbelow; exact absurd hbelow (by decide)

end ChartSchema
