import ChartSchema.Proofs.Text.Lines
import ChartSchema.Schema.FieldType
/-!
# The printed form of a type is a hint for it

A type that a hint says is printed as a hint again, and that hint says the same type
(`printed_types_are_hints`). So what a hint says is known from its printed form, however the hint
was spelled: with other blanks, or with another name of a scalar.

The rules of hints carry the proof. Blanks around a hint do not matter, `[]` and `map[string]` in
front of a hint make a list and a map of what it says, and what has neither in front is a name. The
types that hints say are made by these rules (`IsHinted`), and the printer writes the same leads.

Not every type is told by its printed form. A list of lists is a list field or a single value, which
print alike, and only the former is what a hint for a field says. So where a field is no list, its
printed form must not look like one, which takes a look at how printed forms begin.
-/

namespace ChartSchema

open Text

/-! ## The rules of hints -/

theorem not_isBlank_of_mem_listLead : ∀ c ∈ listLead, isBlank c = false :=
  fun c hc => Bool.eq_false_iff.mpr (List.any_eq_false.mp rfl c hc)

theorem not_isBlank_of_mem_mapLead : ∀ c ∈ mapLead, isBlank c = false :=
  fun c hc => Bool.eq_false_iff.mpr (List.any_eq_false.mp rfl c hc)

theorem trim_listLead (s : List Char) : trim (listLead ++ s) = listLead ++ trimEnd s :=
  trim_append not_isBlank_of_mem_listLead (List.cons_ne_nil _ _) s

theorem trim_mapLead (s : List Char) : trim (mapLead ++ s) = mapLead ++ trimEnd s :=
  trim_append not_isBlank_of_mem_mapLead (List.cons_ne_nil _ _) s

theorem after?_listLead_mapLead (s : List Char) : after? listLead (mapLead ++ s) = none := rfl

/-- **A name**: a text without blanks around it that starts neither a list nor a map. -/
structure IsTypeName (s : List Char) : Prop where
  /-- There are no blanks around it. -/
  trim_eq : trim s = s
  /-- It starts no list. -/
  no_list : after? listLead s = none
  /-- It starts no map. -/
  no_map : after? mapLead s = none

namespace TypeRef

/-- Blanks around a hint do not matter. -/
theorem ofHint_congr {a b : List Char} (h : trim a = trim b) : ofHint a = ofHint b := by
  rw [ofHint, ofHint, h]

theorem ofHint_list (s : List Char) : ofHint (listLead ++ s) = .list (ofHint s) := by
  have hlist : after? listLead (trim (listLead ++ s)) = some (trimEnd s) := by
    rw [trim_listLead, after?_append]
  rw [ofHint, hlist]
  exact congrArg list (ofHint_congr (trim_trimEnd s))

theorem ofHint_map (s : List Char) : ofHint (mapLead ++ s) = .map (.ofHint s) := by
  have hlist : after? listLead (trim (mapLead ++ s)) = none := by
    rw [trim_mapLead, after?_listLead_mapLead]
  have hmap : after? mapLead (trim (mapLead ++ s)) = some (trimEnd s) := by
    rw [trim_mapLead, after?_append]
  rw [ofHint, hlist, hmap]
  dsimp only
  rw [trim_trimEnd, ofHint_congr (trim_trimEnd s), FieldType.ofHint]
  cases after? listLead (trim s) <;> rfl

theorem ofHint_name {s : List Char} (h : IsTypeName s) : ofHint s = ofName (String.ofList s) := by
  have hlist : after? listLead (trim s) = none := by rw [h.trim_eq, h.no_list]
  have hmap : after? mapLead (trim s) = none := by rw [h.trim_eq, h.no_map]
  rw [ofHint, hlist, hmap, h.trim_eq]

/-- A name stands for a scalar or for itself. -/
theorem ofName_cases (name : String) :
    ofName name = .integer ∨ ofName name = .float ∨ ofName name = .boolean ∨
      ofName name = .string ∨ ofName name = .named name := by
  unfold ofName
  split_ifs <;> simp only [true_or, or_true]

/-- The printed form of what a name stands for is a name for it. -/
theorem ofName_text (name : String) : ofName (ofName name).text = ofName name := by
  rcases ofName_cases name with h | h | h | h | h <;> rw [h]
  · rfl
  · rfl
  · rfl
  · rfl
  · exact h

theorem isTypeName_text {s : List Char} (h : IsTypeName s) :
    IsTypeName (ofName (String.ofList s)).text.toList := by
  rcases ofName_cases (String.ofList s) with hs | hs | hs | hs | hs <;> rw [hs, TypeRef.text]
  · exact ⟨by decide, rfl, rfl⟩
  · exact ⟨by decide, rfl, rfl⟩
  · exact ⟨by decide, rfl, rfl⟩
  · exact ⟨by decide, rfl, rfl⟩
  · rwa [String.toList_ofList]

end TypeRef

namespace FieldType

theorem ofHint_list (s : List Char) : ofHint (listLead ++ s) = .list (TypeRef.ofHint s) := by
  rw [ofHint, trim_listLead, after?_append]
  exact congrArg list (TypeRef.ofHint_congr (trim_trimEnd s))

theorem ofHint_single {s : List Char} (h : after? listLead (trim s) = none) :
    ofHint s = .single (TypeRef.ofHint s) := by
  rw [ofHint, h]

end FieldType

/-! ## The types that hints say -/

mutual

/-- **A type that a hint says for a single value.** -/
inductive TypeRef.IsHinted : TypeRef → Prop
  /-- What a name stands for. -/
  | name {s : List Char} : IsTypeName s → TypeRef.IsHinted (.ofName (String.ofList s))
  /-- A list. -/
  | list {element : TypeRef} : TypeRef.IsHinted element → TypeRef.IsHinted (.list element)
  /-- A map. -/
  | map {value : FieldType} : FieldType.IsHinted value → TypeRef.IsHinted (.map value)

/-- **A type that a hint says for a field.** -/
inductive FieldType.IsHinted : FieldType → Prop
  /-- A single value, which is no list. -/
  | single {type : TypeRef} : TypeRef.IsHinted type → (∀ element, type ≠ .list element) →
      FieldType.IsHinted (.single type)
  /-- A list. -/
  | list {element : TypeRef} : TypeRef.IsHinted element → FieldType.IsHinted (.list element)

end

theorem TypeRef.ofHint_ne_list {hint : List Char} (h : after? listLead (trim hint) = none)
    (element : TypeRef) : ofHint hint ≠ .list element := by
  intro hlist
  rw [ofHint, h] at hlist
  dsimp only at hlist
  split at hlist
  · split at hlist <;> cases hlist
  · rcases ofName_cases (String.ofList (trim hint)) with hname | hname | hname | hname | hname <;>
    · rw [hname] at hlist
      cases hlist

/-- **A hint says one of these types** for a single value. -/
theorem TypeRef.ofHint_isHinted (hint : List Char) : (ofHint hint).IsHinted := by
  induction hint using TypeRef.ofHint.induct with
  | case1 hint element h ih =>
    rw [ofHint, h]
    exact .list ih
  | case2 hint h₁ value h₂ element h₃ ih =>
    rw [ofHint, h₁, h₂]
    dsimp only
    rw [h₃]
    exact .map (.list ih)
  | case3 hint h₁ value h₂ h₃ ih =>
    rw [ofHint, h₁, h₂]
    dsimp only
    rw [h₃]
    exact .map (.single ih (ofHint_ne_list h₃))
  | case4 hint h₁ h₂ =>
    rw [ofHint, h₁, h₂]
    exact .name ⟨trim_trim hint, h₁, h₂⟩

namespace FieldType

/-- **A hint says one of these types** for a field. -/
theorem ofHint_isHinted (hint : List Char) : (ofHint hint).IsHinted := by
  unfold ofHint
  split
  · exact .list (TypeRef.ofHint_isHinted _)
  · next h => exact .single (TypeRef.ofHint_isHinted hint) (TypeRef.ofHint_ne_list h)

/-- The value or the element of such a type is one of these types. -/
theorem IsHinted.base {type : FieldType} (h : type.IsHinted) : type.base.IsHinted := by
  cases h with
  | single htype _ => exact htype
  | list helement => exact helement

/-- **A hint above a list says one of these types**, whether it names the list or its elements. -/
theorem ofSequenceHint_isHinted (hint : List Char) : (ofSequenceHint hint).IsHinted :=
  .list (ofHint_isHinted hint).base

end FieldType

/-! ## Printed forms -/

theorem TypeRef.IsHinted.after?_listLead {type : TypeRef} (h : type.IsHinted)
    (hne : ∀ element, type ≠ .list element) : after? listLead (trim type.text.toList) = none := by
  cases h with
  | name hs =>
    have hname := isTypeName_text hs
    rw [hname.trim_eq, hname.no_list]
  | list _ => exact absurd rfl (hne _)
  | map _ =>
    rw [TypeRef.text, String.toList_append]
    exact (congrArg (after? listLead) (trim_mapLead _)).trans (after?_listLead_mapLead _)

mutual

/-- **The printed form of a type is a hint for it**, for a single value. -/
theorem TypeRef.IsHinted.ofHint_text {type : TypeRef} (h : type.IsHinted) :
    TypeRef.ofHint type.text.toList = type := by
  match type, h with
  | _, .name hs =>
    rw [TypeRef.ofHint_name (TypeRef.isTypeName_text hs), String.ofList_toList, TypeRef.ofName_text]
  | .list element, .list helement =>
    rw [TypeRef.text, String.toList_append]
    exact (TypeRef.ofHint_list _).trans (congrArg TypeRef.list helement.ofHint_text)
  | .map value, .map hvalue =>
    rw [TypeRef.text, String.toList_append]
    exact (TypeRef.ofHint_map _).trans (congrArg TypeRef.map hvalue.ofHint_text)
termination_by structural type

/-- **The printed form of a type is a hint for it**, for a field. -/
theorem FieldType.IsHinted.ofHint_text {type : FieldType} (h : type.IsHinted) :
    FieldType.ofHint type.text.toList = type := by
  match type, h with
  | .single type, .single htype hne =>
    rw [FieldType.text, FieldType.ofHint_single (htype.after?_listLead hne), htype.ofHint_text]
  | .list element, .list helement =>
    rw [FieldType.text, String.toList_append]
    exact (FieldType.ofHint_list _).trans (congrArg FieldType.list helement.ofHint_text)
termination_by structural type

end

/-- Types that hints say are told by their printed forms, for a single value. -/
theorem TypeRef.IsHinted.text_inj {a b : TypeRef} (ha : a.IsHinted) (hb : b.IsHinted) :
    a.text = b.text ↔ a = b := by
  refine ⟨fun h => ?_, congrArg TypeRef.text⟩
  rw [← ha.ofHint_text, h, hb.ofHint_text]

theorem FieldType.IsHinted.text_inj {a b : FieldType} (ha : a.IsHinted) (hb : b.IsHinted) :
    a.text = b.text ↔ a = b := by
  refine ⟨fun h => ?_, congrArg FieldType.text⟩
  rw [← ha.ofHint_text, h, hb.ofHint_text]

/-- **The printed form of what a hint says is a hint for the same.** It says the same type for a
field and for a single value; that of a list says the same list, above a list and elsewhere. And
what two hints say is the same exactly if it is printed alike, whatever blanks and names they
have. -/
theorem printed_types_are_hints (hint other : List Char) :
    (FieldType.ofHint (FieldType.ofHint hint).text.toList = FieldType.ofHint hint ∧
      TypeRef.ofHint (TypeRef.ofHint hint).text.toList = TypeRef.ofHint hint ∧
      FieldType.ofHint (FieldType.ofSequenceHint hint).text.toList = FieldType.ofSequenceHint hint ∧
      FieldType.ofSequenceHint (FieldType.ofSequenceHint hint).text.toList =
        FieldType.ofSequenceHint hint) ∧
    ((FieldType.ofHint hint).text = (FieldType.ofHint other).text ↔
      FieldType.ofHint hint = FieldType.ofHint other) ∧
    ((TypeRef.ofHint hint).text = (TypeRef.ofHint other).text ↔
      TypeRef.ofHint hint = TypeRef.ofHint other) ∧
    ((FieldType.ofSequenceHint hint).text = (FieldType.ofSequenceHint other).text ↔
      FieldType.ofSequenceHint hint = FieldType.ofSequenceHint other) ∧
    ((FieldType.ofHint hint).text = (FieldType.ofSequenceHint other).text ↔
      FieldType.ofHint hint = FieldType.ofSequenceHint other) := by
  have hfield := FieldType.ofHint_isHinted
  have hlist := FieldType.ofSequenceHint_isHinted
  have hagain := (hlist hint).ofHint_text
  refine ⟨⟨(hfield hint).ofHint_text, (TypeRef.ofHint_isHinted hint).ofHint_text, hagain, ?_⟩,
    (hfield hint).text_inj (hfield other),
    (TypeRef.ofHint_isHinted hint).text_inj (TypeRef.ofHint_isHinted other),
    (hlist hint).text_inj (hlist other), (hfield hint).text_inj (hlist other)⟩
  rw [FieldType.ofSequenceHint, hagain]
  rfl

/-- A list that is a single value is printed like a list field, but no hint for a field says one.
Blanks may stand around the parts of a hint, and those within a part make it a name. -/
example : (FieldType.single (.list .string)).text = (FieldType.list .string).text ∧
    FieldType.ofHint " [ ]x".toList = .single (.named "[ ]x") ∧
    FieldType.ofHint "map[string] [] \tint32 ".toList = .single (.map (.list .integer)) := by
  decide +kernel

end ChartSchema
