import ChartSchema.Proofs.Json.Members
import ChartSchema.Yaml.Value
/-!
# The JSON form of a value

A document has two readings: as a value, which keeps the order of entries, keys of all kinds and
tags, and as JSON. `Value.toJson` goes from one to the other, and `jsonOfNode?_eq_toJson` says that
this is what the second reading gives, for documents whose keys are texts and that have no tags of
their own.

Whether two values are equal can be decided, so what a text reads as can be tested.
-/

namespace ChartSchema.Yaml

namespace Value

/-! ## Equality -/

mutual

/-- Whether a value is another one. -/
def isExactly (v w : Value) : Bool :=
  match v, w with
  | .null, .null => true
  | .bool a, .bool b => a == b
  | .number a, .number b => a == b
  | .string a, .string b => a == b
  | .sequence xs, .sequence ys => areExactly xs ys
  | .mapping xs, .mapping ys => entriesAreExactly xs ys
  | .tagged a x, .tagged b y => a == b && isExactly x y
  | _, _ => false
termination_by structural v

/-- Whether items are others. -/
def areExactly (xs ys : List Value) : Bool :=
  match xs, ys with
  | [], [] => true
  | x :: xs, y :: ys => isExactly x y && areExactly xs ys
  | _, _ => false
termination_by structural xs

/-- Whether entries are others. -/
def entriesAreExactly (xs ys : List (Value × Value)) : Bool :=
  match xs, ys with
  | [], [] => true
  | (k, v) :: xs, (l, w) :: ys => isExactly k l && isExactly v w && entriesAreExactly xs ys
  | _, _ => false
termination_by structural xs

end

mutual

/-- A value is exactly those that are equal to it. -/
theorem isExactly_iff (v w : Value) : isExactly v w = true ↔ v = w := by
  match v with
  | .null | .bool _ | .number _ | .string _ => cases w <;> simp [isExactly]
  | .sequence xs => cases w <;> simp [isExactly, areExactly_iff xs]
  | .mapping xs => cases w <;> simp [isExactly, entriesAreExactly_iff xs]
  | .tagged _ x => cases w <;> simp [isExactly, isExactly_iff x]
termination_by structural v

theorem areExactly_iff (xs ys : List Value) : areExactly xs ys = true ↔ xs = ys := by
  match xs with
  | [] => cases ys <;> simp [areExactly]
  | x :: xs => cases ys <;> simp [areExactly, isExactly_iff x, areExactly_iff xs]
termination_by structural xs

theorem entriesAreExactly_iff (xs ys : List (Value × Value)) :
    entriesAreExactly xs ys = true ↔ xs = ys := by
  match xs with
  | [] => cases ys <;> simp [entriesAreExactly]
  | (k, v) :: xs =>
    cases ys with
    | nil => simp [entriesAreExactly]
    | cons y ys =>
      simp [entriesAreExactly, isExactly_iff k, isExactly_iff v, entriesAreExactly_iff xs,
        Prod.ext_iff]
termination_by structural xs

end

instance : DecidableEq Value := fun v w => decidable_of_iff _ (isExactly_iff v w)

/-! ## The JSON form -/

/-- The text of a key that is a text. -/
def keyName : Value → String
  | .string key => key
  | _ => ""

mutual

/-- **The JSON form of a value**: members are in key order, numbers that JSON does not have are
null, and tags are left out. -/
def toJson (v : Value) : Json :=
  match v with
  | .null => .null
  | .bool b => .bool b
  | .number n => jsonOfScalar (.number n)
  | .string s => .string s
  | .sequence items => .array (itemsJson items)
  | .mapping entries => .object (sortKeys (entriesJson entries))
  | .tagged _ inner => inner.toJson
termination_by structural v

/-- The JSON form of items. -/
def itemsJson (items : List Value) : List Json :=
  match items with
  | [] => []
  | item :: rest => item.toJson :: itemsJson rest
termination_by structural items

/-- The JSON form of entries, in the order of the text. -/
def entriesJson (entries : List (Value × Value)) : List (String × Json) :=
  match entries with
  | [] => []
  | (key, v) :: rest => (key.keyName, v.toJson) :: entriesJson rest
termination_by structural entries

end

theorem itemsJson_eq (items : List Value) : itemsJson items = items.map toJson := by
  induction items with
  | nil => rfl
  | cons item rest ih => rw [itemsJson, ih, List.map_cons]

theorem entriesJson_eq (entries : List (Value × Value)) :
    entriesJson entries = entries.map fun entry => (entry.1.keyName, entry.2.toJson) := by
  induction entries with
  | nil => rfl
  | cons entry rest ih => rw [entriesJson, ih, List.map_cons]

/-- Whether a value has text keys only, and no tags. -/
inductive IsPlain : Value → Prop
  /-- A scalar. -/
  | null : IsPlain .null
  /-- A scalar. -/
  | bool (b : Bool) : IsPlain (.bool b)
  /-- A scalar. -/
  | number (n : Number) : IsPlain (.number n)
  /-- A scalar. -/
  | string (s : String) : IsPlain (.string s)
  /-- A list. -/
  | sequence {items : List Value} : (∀ item ∈ items, IsPlain item) → IsPlain (.sequence items)
  /-- A mapping. -/
  | mapping {entries : List (Value × Value)} :
    (∀ entry ∈ entries, ∃ key, entry.1 = .string key) →
      (∀ key v, (key, v) ∈ entries → IsPlain v) → IsPlain (.mapping entries)

end Value

/-! ## Both readings of a node -/

/-- A value that is no tagged one was not put under a tag. -/
theorem Value.under_eq {tag? : Option String} {v : Value} (h : (v.under tag?).IsPlain) :
    localTag? tag? = none ∧ v.under tag? = v := by
  unfold Value.under at h ⊢
  cases htag : localTag? tag? with
  | none => exact ⟨rfl, rfl⟩
  | some tag =>
    rw [htag] at h
    exact nomatch h

namespace Scalar

variable {text s : String}

/-- A scalar without quotes that is a text is its own text. -/
theorem ofPlain?_string (h : ofPlain? text = some (.string s)) : s = text := by
  unfold ofPlain? at h
  split at h
  · exact nomatch h
  · split at h
    · exact nomatch h
    · split at h
      · next value? hword =>
        unfold word? at hword
        split at hword
        · exact nomatch hword
        · split_ifs at hword
          · obtain rfl := Option.some.inj hword
            exact nomatch h
          · obtain rfl := Option.some.inj hword
            exact nomatch h
      · split at h
        · exact (Scalar.string.inj (Option.some.inj h)).symm
        · split at h
          · exact nomatch h
          · exact (Scalar.string.inj (Option.some.inj h)).symm

theorem ofTagged?_string {tag : String} (h : ofTagged? tag text = some (.string s)) :
    s = text := by
  unfold ofTagged? at h
  split_ifs at h
  · obtain ⟨_, -, h⟩ := Option.map_eq_some_iff.mp h
    exact nomatch h
  · cases hword : word? text with
    | none => rw [hword] at h; exact nomatch h
    | some value? =>
      rw [hword] at h
      unfold word? at hword
      split at hword
      · exact nomatch hword
      · split_ifs at hword <;> obtain rfl := Option.some.inj hword <;> exact nomatch h
  · obtain ⟨_, -, h⟩ := Option.map_eq_some_iff.mp h
    exact nomatch h
  · exact nomatch Option.some.inj h
  · exact (Scalar.string.inj (Option.some.inj h)).symm

/-- **A scalar that is a text is its own text.** -/
theorem ofNode?_string {tag? : Option String} {form : ScalarForm}
    (h : ofNode? tag? form text = some (.string s)) : s = text := by
  have huntagged (h : (if form = .plain then ofPlain? text else some (.string text))
      = some (.string s)) : s = text := by
    split at h
    · exact ofPlain?_string h
    · exact (Scalar.string.inj (Option.some.inj h)).symm
  unfold ofNode? at h
  dsimp only at h
  split at h
  · split at h
    · exact huntagged h
    · exact ofTagged?_string h
  · exact huntagged h

end Scalar

theorem keyText?_of_string {node : Node} {key : String}
    (h : Value.ofNode? node = some (.string key)) : keyText? node = some key := by
  cases node with
  | scalar tag? form text =>
    rw [Value.ofNode?] at h
    obtain ⟨scalar, hscalar, heq⟩ := Option.map_eq_some_iff.mp h
    have hplain : (Value.under tag? (.ofScalar scalar)).IsPlain := heq ▸ .string key
    obtain ⟨htag, hunder⟩ := Value.under_eq hplain
    rw [hunder] at heq
    cases scalar with
    | string s =>
      obtain rfl := Value.string.inj heq
      rw [keyText?, Scalar.ofNode?_string hscalar]
    | _ => exact nomatch heq
  | sequence tag? items =>
    rw [Value.ofNode?] at h
    obtain ⟨items, -, heq⟩ := Option.map_eq_some_iff.mp h
    have hplain : (Value.under tag? (.sequence items)).IsPlain := heq ▸ .string key
    rw [(Value.under_eq hplain).2] at heq
    exact nomatch heq
  | mapping tag? entries =>
    rw [Value.ofNode?] at h
    obtain ⟨entries, -, h⟩ := Option.bind_eq_some_iff.mp h
    split at h
    · have heq := Option.some.inj h
      have hplain : (Value.under tag? (.mapping entries)).IsPlain := heq ▸ .string key
      rw [(Value.under_eq hplain).2] at heq
      exact nomatch heq
    · exact nomatch h
  | _ =>
    rw [Value.ofNode?] at h
    exact nomatch h

mutual

/-- **The second reading of a node is the JSON form of the first**, if the first has text keys
and no tags. -/
theorem jsonOfNode?_eq_toJson (node : Node) {v : Value} (h : Value.ofNode? node = some v)
    (hplain : v.IsPlain) : jsonOfNode? node = some v.toJson := by
  match node with
  | .alias _ => rw [Value.ofNode?] at h; exact nomatch h
  | .scalar tag? form text =>
    rw [Value.ofNode?] at h
    obtain ⟨scalar, hscalar, rfl⟩ := Option.map_eq_some_iff.mp h
    obtain ⟨htag, hunder⟩ := Value.under_eq hplain
    rw [htag] at hscalar
    rw [hunder, jsonOfNode?, htag, Option.isSome_none, if_neg Bool.false_ne_true]
    rw [Option.isSome_none, if_neg Bool.false_ne_true] at hscalar
    rw [hscalar]
    cases scalar <;> rfl
  | .sequence tag? items =>
    rw [Value.ofNode?] at h
    obtain ⟨items', hitems, rfl⟩ := Option.map_eq_some_iff.mp h
    obtain ⟨htag, hunder⟩ := Value.under_eq hplain
    rw [hunder] at hplain ⊢
    rw [jsonOfNode?, htag, Option.isSome_none, if_neg Bool.false_ne_true]
    cases hplain with
    | sequence hplain =>
      rw [jsonOfItems?_eq_itemsJson items hitems hplain]
      rfl
  | .mapping tag? entries =>
    rw [Value.ofNode?] at h
    obtain ⟨entries', hentries, h⟩ := Option.bind_eq_some_iff.mp h
    split at h
    · obtain rfl := Option.some.inj h
      obtain ⟨htag, hunder⟩ := Value.under_eq hplain
      rw [hunder] at hplain ⊢
      rw [jsonOfNode?, htag, Option.isSome_none, if_neg Bool.false_ne_true]
      cases hplain with
      | mapping hkeys hvalues =>
        rw [jsonOfEntries?_eq_entriesJson entries hentries hkeys hvalues]
        rfl
    · exact nomatch h
termination_by structural node

theorem jsonOfItems?_eq_itemsJson (items : List Node) {values : List Value}
    (h : Value.ofItems? items = some values) (hplain : ∀ v ∈ values, v.IsPlain) :
    jsonOfItems? items = some (Value.itemsJson values) := by
  match items with
  | [] =>
    obtain rfl := Option.some.inj h
    rfl
  | item :: rest =>
    rw [Value.ofItems?] at h
    obtain ⟨v, hv, h⟩ := Option.bind_eq_some_iff.mp h
    obtain ⟨vs, hvs, h⟩ := Option.bind_eq_some_iff.mp h
    obtain rfl := Option.some.inj h
    rw [jsonOfItems?, jsonOfNode?_eq_toJson item hv (hplain v List.mem_cons_self),
      jsonOfItems?_eq_itemsJson rest hvs fun v h => hplain v (List.mem_cons_of_mem _ h)]
    rfl
termination_by structural items

theorem jsonOfEntries?_eq_entriesJson (entries : List (Node × Node))
    {values : List (Value × Value)} (h : Value.ofEntries? entries = some values)
    (hkeys : ∀ entry ∈ values, ∃ key, entry.1 = .string key)
    (hplain : ∀ key v, (key, v) ∈ values → v.IsPlain) :
    jsonOfEntries? entries = some (Value.entriesJson values) := by
  match entries with
  | [] =>
    obtain rfl := Option.some.inj h
    rfl
  | (key, value) :: rest =>
    rw [Value.ofEntries?] at h
    obtain ⟨k, hk, h⟩ := Option.bind_eq_some_iff.mp h
    obtain ⟨v, hv, h⟩ := Option.bind_eq_some_iff.mp h
    obtain ⟨others, hothers, h⟩ := Option.bind_eq_some_iff.mp h
    obtain rfl := Option.some.inj h
    obtain ⟨name, rfl : k = .string name⟩ := hkeys _ List.mem_cons_self
    rw [jsonOfEntries?, keyText?_of_string hk,
      jsonOfNode?_eq_toJson value hv (hplain _ _ List.mem_cons_self),
      jsonOfEntries?_eq_entriesJson rest hothers
        (fun entry h => hkeys entry (List.mem_cons_of_mem _ h))
        fun key v h => hplain key v (List.mem_cons_of_mem _ h)]
    rfl
termination_by structural entries

end

/-- **The JSON reading of a text is the JSON form of its value**, if the value has text keys and
no tags. -/
theorem parseJson?_eq_toJson {text : String} {v : Value} (h : Value.parse? text = some v)
    (hplain : v.IsPlain) : parseJson? text = some v.toJson := by
  unfold Value.parse? at h
  unfold parseJson?
  split at h
  · exact nomatch h
  · obtain rfl := Option.some.inj h
    rfl
  · obtain ⟨node, hnode, h⟩ := Option.bind_eq_some_iff.mp h
    rw [hnode, Option.bind_some]
    exact jsonOfNode?_eq_toJson node h hplain

end ChartSchema.Yaml
