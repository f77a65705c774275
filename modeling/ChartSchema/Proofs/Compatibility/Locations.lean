import ChartSchema.Proofs.Compatibility.Changes
import ChartSchema.Proofs.Compatibility.NodeView
import ChartSchema.Proofs.Crd.Generated
/-!
# What becomes of the locations of a schema

A location is a way from the root of a schema to a property, through the names of members and
through the items of lists. `Property.Keeps` says that the locations of a property are locations
of a later one and that their types did not become narrower; where a list became a value of any
type, nothing is known of its items any more, and their locations are given up.

A comparison of generated nodes without dangerous changes implies that locations are kept, and
keeping is transitive for generated nodes. Transitivity needs that they are generated: a location
that is given up below a list must not come back below something else.
-/

namespace ChartSchema

/-! ## Types -/

namespace PropertyType

/-- The values of one type are values of another: the types are equal, or one widens to the
other. -/
def Within (a b : PropertyType) : Prop := a = b ∨ a.widensTo b = true

theorem Within.refl (a : PropertyType) : a.Within a := Or.inl rfl

theorem widensTo_iff {a b : PropertyType} : a.widensTo b = true ↔
    (∀ name, a ≠ .unknown name) ∧ (b = a ∨ b = .any ∨ (a = .integer ∧ b = .number) ∨
      (a = .integer ∧ b = .intOrString) ∨ (a = .string ∧ b = .intOrString)) := by
  cases a <;> cases b <;> simp [widensTo]

/-- **Widening composes.** Only integers and texts widen to anything but any type, and nothing but
itself widens to these. -/
theorem Within.trans {a b c : PropertyType} (h : a.Within b) (h' : b.Within c) : a.Within c := by
  rcases h with rfl | h
  · exact h'
  rcases h' with rfl | h'
  · exact Or.inr h
  refine Or.inr (widensTo_iff.mpr ⟨(widensTo_iff.mp h).1, ?_⟩)
  obtain ⟨-, h⟩ := widensTo_iff.mp h
  obtain ⟨-, h'⟩ := widensTo_iff.mp h'
  rcases h' with rfl | rfl | ⟨rfl, rfl⟩ | ⟨rfl, rfl⟩ | ⟨rfl, rfl⟩
  · exact h
  · exact Or.inr (Or.inl rfl)
  -- Only itself widens to an integer or to a text.
  all_goals
    obtain rfl := (by simpa using h : _ = a)
    simp

theorem Within.eq_array {a : PropertyType} (h : a.Within .array) : a = .array := by
  rcases h with rfl | h
  · rfl
  · simpa [eq_comm] using (widensTo_iff.mp h).2

theorem Within.eq_any {b : PropertyType} (h : PropertyType.any.Within b) : b = .any := by
  rcases h with rfl | h
  · rfl
  · simpa using (widensTo_iff.mp h).2

theorem Within.of_array {b : PropertyType} (h : PropertyType.array.Within b) :
    b = .array ∨ b = .any := by
  rcases h with rfl | h
  · exact Or.inl rfl
  · simpa using (widensTo_iff.mp h).2

end PropertyType

/-! ## Locations -/

namespace Property

/-- The property at a location, which leads through members and items. -/
def locate? (p : Property) : SchemaPath → Option Property
  | [] => some p
  | .property key :: path => (findKey? key p.properties).bind (·.locate? path)
  | .items :: path => p.items?.bind (·.locate? path)
  | .additional :: _ => none

/-- A location behind a location. -/
theorem locate?_append (p : Property) (path rest : SchemaPath) :
    p.locate? (path ++ rest) = (p.locate? path).bind (·.locate? rest) := by
  induction path generalizing p with
  | nil => rfl
  | cons step path ih =>
    cases step with
    | property key =>
      rw [List.cons_append, locate?, locate?, Option.bind_assoc]
      exact congrArg _ (funext fun q => ih q)
    | items =>
      rw [List.cons_append, locate?, locate?, Option.bind_assoc]
      exact congrArg _ (funext fun q => ih q)
    | additional => rfl

/-- A list at a location became a value of any type. -/
def LostList (old new : Property) (path : SchemaPath) : Prop :=
  ∃ a b, old.locate? path = some a ∧ a.type = .array ∧ new.locate? path = some b ∧ b.type = .any

/-- **The locations of a property are kept** by a later one: each is a location of the later one,
of a type that holds the values it had, or it stands below a list that became a value of any
type. -/
def Keeps (old new : Property) : Prop :=
  ∀ path p, old.locate? path = some p →
    (∃ q, new.locate? path = some q ∧ p.type.Within q.type) ∨
      ∃ list rest, path = list ++ rest ∧ rest ≠ [] ∧ LostList old new list

theorem Keeps.refl (p : Property) : p.Keeps p :=
  fun _ q hq => Or.inl ⟨q, hq, .refl _⟩

/-- **Values of any type have nothing inside**, at any location. -/
def AnyIsLeaf (p : Property) : Prop :=
  ∀ path q, p.locate? path = some q → q.type = .any → q.properties = [] ∧ q.items? = none

theorem AnyIsLeaf.not_below {p : Property} (h : p.AnyIsLeaf) {path rest : SchemaPath}
    {q r : Property} (hq : p.locate? path = some q) (hany : q.type = .any)
    (hr : p.locate? (path ++ rest) = some r) : rest = [] := by
  obtain ⟨hproperties, hitems⟩ := h path q hq hany
  rw [locate?_append, hq] at hr
  cases rest with
  | nil => rfl
  | cons step rest =>
    cases step with
    | property key => rw [Option.bind_some, locate?, hproperties] at hr; exact nomatch hr
    | items => rw [Option.bind_some, locate?, hitems] at hr; exact nomatch hr
    | additional => exact nomatch hr

/-- A list that was lost in the first of two steps, or at one of its locations in the second, is
lost over both. -/
theorem Keeps.trans {old mid new : Property} (hmid : mid.AnyIsLeaf) (h : old.Keeps mid)
    (h' : mid.Keeps new) : old.Keeps new := by
  -- A list of the later step is one of the earlier step: nothing else widens to a list, and
  -- below a list that was lost already there is none.
  have hlater (list : SchemaPath) (a p : Property) (hp : old.locate? list = some p)
      (ha : mid.locate? list = some a) (harray : a.type = .array) : p.type = .array := by
    rcases h list p hp with ⟨q, hq, hwithin⟩ | ⟨lost, rest, rfl, hrest, _, b, -, -, hb, hany⟩
    · rw [ha] at hq
      rw [← Option.some.inj hq, harray] at hwithin
      exact hwithin.eq_array
    · exact absurd (hmid.not_below hb hany ha) hrest
  have hstart (list rest : SchemaPath) (p : Property) (hp : old.locate? (list ++ rest) = some p) :
      ∃ q, old.locate? list = some q := by
    rw [locate?_append] at hp
    obtain ⟨q, hq, -⟩ := Option.bind_eq_some_iff.mp hp
    exact ⟨q, hq⟩
  intro path p hp
  rcases h path p hp with ⟨q, hq, hwithin⟩ | ⟨list, rest, rfl, hrest, a, b, ha, harray, hb, hany⟩
  · rcases h' path q hq with ⟨r, hr, hwithin'⟩ | ⟨list, rest, rfl, hrest, a, b, ha, harray, hb⟩
    · exact Or.inl ⟨r, hr, hwithin.trans hwithin'⟩
    · obtain ⟨c, hc⟩ := hstart list rest p hp
      exact Or.inr ⟨list, rest, rfl, hrest, c, b, hc, hlater list a c hc ha harray, hb⟩
  · rcases h' list b hb with ⟨r, hr, hwithin⟩ | ⟨list', rest', rfl, hrest', a', b', ha', harray', hb'⟩
    · rw [hany] at hwithin
      exact Or.inr ⟨list, rest, rfl, hrest, a, r, ha, harray, hr, hwithin.eq_any⟩
    · obtain ⟨c, hc⟩ := hstart list' rest' a ha
      exact Or.inr ⟨list', rest' ++ rest, List.append_assoc .., by simp [hrest'], c, b', hc,
        hlater list' a' c hc ha' harray', hb'⟩

end Property

/-! ## Generated nodes -/

namespace SchemaNode

variable {node : SchemaNode}

/-- The type of a node that is not marked is that of its name. -/
theorem propertyType_of_type {name : String} (hint : node.facets.intOrString? = none)
    (htype : node.type? = some name) : node.propertyType = .ofName name := by
  rw [propertyType, hint, htype]
  rfl

/-- **Of the generated nodes the lists have items**, and no others. -/
theorem Generated.array_iff (h : node.Generated) :
    node.view.type = .array ↔ node.view.items?.isSome := by
  rw [view_eq h.others_eq]
  dsimp only
  cases h with
  | scalar hname _ hplain =>
    rw [propertyType_of_type hplain.intOrString rfl]
    simp only [List.mem_cons, List.not_mem_nil, or_false] at hname
    rcases hname with rfl | rfl | rfl | rfl <;> exact ⟨(nomatch ·), (nomatch ·)⟩
  | anything hpreserve _ hplain =>
    rw [propertyType, hplain.intOrString, hpreserve]
    exact ⟨(nomatch ·), (nomatch ·)⟩
  | intOrString hset =>
    rw [propertyType, hset]
    exact ⟨(nomatch ·), (nomatch ·)⟩
  | list _ _ hplain =>
    rw [propertyType_of_type hplain.intOrString rfl]
    exact ⟨fun _ => rfl, fun _ => rfl⟩
  | object _ hplain | map _ _ hplain =>
    rw [propertyType_of_type hplain.intOrString rfl]
    exact ⟨(nomatch ·), (nomatch ·)⟩
  | struct _ _ _ _ hplain =>
    rw [propertyType_of_type hplain rfl]
    exact ⟨(nomatch ·), (nomatch ·)⟩

/-- **A generated node of any type has nothing inside.** -/
theorem Generated.any_isLeaf (h : node.Generated) (hany : node.view.type = .any) :
    node.view.properties = [] ∧ node.view.items? = none := by
  have hitems : node.view.items? = none := by
    rw [← Option.not_isSome_iff_eq_none, ← h.array_iff, hany]
    exact (nomatch ·)
  refine ⟨?_, hitems⟩
  rw [view_eq h.others_eq] at hany ⊢
  cases h with
  | struct _ _ _ _ hplain =>
    rw [propertyType_of_type hplain rfl] at hany
    exact nomatch hany
  | scalar | anything | object | intOrString | list | map => rfl

theorem Generated.member {key : String} {p : Property} (h : node.Generated)
    (hp : findKey? key node.view.properties = some p) :
    ∃ inner : SchemaNode, inner.Generated ∧ inner.view = p := by
  rw [view_eq h.others_eq] at hp
  dsimp only at hp
  rw [findKey?_map] at hp
  obtain ⟨inner, hinner, rfl⟩ := Option.map_eq_some_iff.mp hp
  refine ⟨inner, ?_, rfl⟩
  cases hproperties : node.properties? with
  | none => rw [hproperties] at hinner; exact nomatch hinner
  | some properties =>
    rw [hproperties] at hinner
    exact (h.of_properties hproperties).1 key inner (mem_of_findKey? hinner)

theorem Generated.items {p : Property} (h : node.Generated) (hp : node.view.items? = some p) :
    ∃ inner : SchemaNode, inner.Generated ∧ inner.view = p := by
  rw [view_eq h.others_eq] at hp
  obtain ⟨inner, hinner, rfl⟩ := Option.map_eq_some_iff.mp hp
  refine ⟨inner, ?_, rfl⟩
  cases h with
  | list hitems => exact Option.some.inj hinner ▸ hitems
  | scalar | anything | object | intOrString | map | struct => exact nomatch hinner

/-- **At the locations of a generated node stand generated nodes.** The induction is on the path,
and each step goes to a node that the one above holds. -/
theorem Generated.locate {path : SchemaPath} {p : Property} (h : node.Generated)
    (hp : node.view.locate? path = some p) :
    ∃ inner : SchemaNode, inner.Generated ∧ inner.view = p := by
  induction path generalizing node with
  | nil => exact ⟨node, h, Option.some.inj hp⟩
  | cons step path ih =>
    cases step with
    | property key =>
      obtain ⟨q, hq, hp⟩ := Option.bind_eq_some_iff.mp hp
      obtain ⟨inner, hinner, rfl⟩ := h.member hq
      exact ih hinner hp
    | items =>
      obtain ⟨q, hq, hp⟩ := Option.bind_eq_some_iff.mp hp
      obtain ⟨inner, hinner, rfl⟩ := h.items hq
      exact ih hinner hp
    | additional => exact nomatch hp

/-- Values of any type have nothing inside at any location of a generated node. -/
theorem Generated.anyIsLeaf (h : node.Generated) : node.view.AnyIsLeaf := by
  intro path q hq hany
  obtain ⟨inner, hinner, rfl⟩ := h.locate hq
  exact hinner.any_isLeaf hany

end SchemaNode

/-! ## One comparison -/

namespace Property

variable {path : SchemaPath} {old new : Property}

/-- The change is not dangerous. -/
def NotDangerous (change : PropertyChange) : Prop := change.kind.severity ≠ .dangerous

/-- Where no change is dangerous, the type widens. -/
theorem AllChanges.type_within (h : AllChanges NotDangerous false path old new) :
    old.type.Within new.type := by
  by_cases heq : old.type = new.type
  · exact Or.inl heq
  · refine Or.inr ?_
    have hchange := h.type (.typeChanged old.type new.type) (by
      rw [typeChange, if_neg heq]
      exact List.mem_singleton_self _)
    by_contra hnot
    refine hchange ?_
    rw [PropertyChange.kind, if_neg hnot]
    rfl

/-- Where no change is dangerous, every member is still there. -/
theorem AllChanges.member_kept {membersOnly : Bool} {key : String} {p : Property}
    (h : AllChanges NotDangerous membersOnly path old new)
    (hp : findKey? key old.properties = some p) : ∃ q, findKey? key new.properties = some q := by
  cases hq : findKey? key new.properties with
  | some q => exact ⟨q, rfl⟩
  | none =>
    have hmem : .fieldRemoved key p.type (old.isRequired key) ∈ removedFields old new := by
      refine List.mem_map.mpr ⟨(key, p), List.mem_filter.mpr ⟨mem_of_findKey? hp, ?_⟩, rfl⟩
      rw [hasKey, hq]
      rfl
    have hchange := h.removed _ hmem
    refine absurd ?_ hchange
    rw [PropertyChange.kind]
    split <;> rfl

/-- **A comparison without dangerous changes keeps all locations.** If only the members are
compared, the property has to be one whose type is kept and that is no list. -/
theorem keeps_of_changes {old new : SchemaNode} {membersOnly : Bool} {path : SchemaPath}
    (hold : old.Generated) (hnew : new.Generated)
    (htype : membersOnly = true → old.view.type = new.view.type ∧ old.view.type ≠ .array)
    (h : AllChanges NotDangerous membersOnly path old.view new.view) :
    old.view.Keeps new.view := by
  intro location p hp
  induction location generalizing old new membersOnly path with
  | nil =>
    obtain rfl := Option.some.inj hp
    refine Or.inl ⟨new.view, rfl, ?_⟩
    cases membersOnly with
    | true => exact Or.inl (htype rfl).1
    | false => exact h.type_within
  | cons step location ih =>
    cases step with
    | additional => exact nomatch hp
    | property key =>
      obtain ⟨a, ha, hp⟩ := Option.bind_eq_some_iff.mp hp
      obtain ⟨b, hb⟩ := h.member_kept ha
      have hab := h.member (mem_of_findKey? ha) hb
      obtain ⟨inner, hinner, rfl⟩ := hold.member ha
      obtain ⟨inner', hinner', rfl⟩ := hnew.member hb
      rcases ih hinner hinner' (fun h => absurd h Bool.false_ne_true) hab hp with
        ⟨q, hq, hwithin⟩ | ⟨list, rest, rfl, hrest, a, b, hlost⟩
      · refine Or.inl ⟨q, ?_, hwithin⟩
        rw [locate?, hb]
        exact hq
      · refine Or.inr ⟨.property key :: list, rest, rfl, hrest, a, b, ?_⟩
        rw [locate?, locate?, ha, hb]
        exact hlost
    | items =>
      obtain ⟨a, ha, hp⟩ := Option.bind_eq_some_iff.mp hp
      have harray : old.view.type = .array := hold.array_iff.mpr (ha ▸ rfl)
      cases membersOnly with
      | true => exact absurd harray (htype rfl).2
      | false =>
        have hwithin := h.type_within
        rw [harray] at hwithin
        rcases hwithin.of_array with hkept | hlost
        · obtain ⟨b, hb⟩ := Option.isSome_iff_exists.mp (hnew.array_iff.mp hkept)
          have hab := h.items ha hb
          obtain ⟨inner, hinner, rfl⟩ := hold.items ha
          obtain ⟨inner', hinner', rfl⟩ := hnew.items hb
          rcases ih hinner hinner' (fun h => absurd h Bool.false_ne_true) hab hp with
            ⟨q, hq, hwithin⟩ | ⟨list, rest, rfl, hrest, a, b, hlost⟩
          · refine Or.inl ⟨q, ?_, hwithin⟩
            rw [locate?, hb]
            exact hq
          · refine Or.inr ⟨.items :: list, rest, rfl, hrest, a, b, ?_⟩
            rw [locate?, locate?, ha, hb]
            exact hlost
        · exact Or.inr ⟨[], .items :: location, rfl, List.cons_ne_nil _ _, old.view, new.view, rfl,
            harray, rfl, hlost⟩

end Property
end ChartSchema
