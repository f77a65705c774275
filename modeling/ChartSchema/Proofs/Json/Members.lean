import ChartSchema.Json.Basic
import Mathlib.Data.List.Nodup
/-!
# Lists of members

What is found under a key after members have been put in, sorted or taken out. All other
theorems about members go through these: a list of members is never looked at as a list, but by
`findKey?`.

`InKeyOrder` says that a list is in increasing order of its keys, which includes that no key
occurs twice. Two lists in key order that agree on every key are the same list, so what is built
with `insertKey` is determined by what is found in it.
-/

namespace ChartSchema

variable {α β : Type}

/-! ## Finding -/

@[simp] theorem findKey?_nil (key : String) : findKey? key ([] : List (String × α)) = none := rfl

theorem findKey?_cons (key k : String) (v : α) (rest : List (String × α)) :
    findKey? key ((k, v) :: rest) = if k = key then some v else findKey? key rest := rfl

/-- In two lists one behind the other, the first one that has the key counts. -/
theorem findKey?_append (key : String) (xs ys : List (String × α)) :
    findKey? key (xs ++ ys) = (findKey? key xs).or (findKey? key ys) := by
  induction xs with
  | nil => rfl
  | cons x xs ih =>
    obtain ⟨k, v⟩ := x
    rw [List.cons_append, findKey?_cons, findKey?_cons, ih]
    split <;> rfl

theorem mem_of_findKey? {key : String} {v : α} {xs : List (String × α)}
    (h : findKey? key xs = some v) : (key, v) ∈ xs := by
  induction xs with
  | nil => exact nomatch h
  | cons x xs ih =>
    obtain ⟨k, w⟩ := x
    rw [findKey?_cons] at h
    split at h
    · next hk =>
      rw [hk, Option.some.inj h]
      exact List.mem_cons_self
    · exact List.mem_cons_of_mem _ (ih h)

/-- Nothing is found under a key exactly if no pair has it. -/
theorem findKey?_eq_none {key : String} {xs : List (String × α)} :
    findKey? key xs = none ↔ key ∉ xs.map (·.1) := by
  induction xs with
  | nil => exact ⟨fun _ => List.not_mem_nil, fun _ => rfl⟩
  | cons x xs ih =>
    obtain ⟨k, v⟩ := x
    rw [findKey?_cons, List.map_cons, List.mem_cons, not_or, ← ih]
    split
    · next hk => exact ⟨nofun, fun h => absurd hk.symm h.1⟩
    · next hk => exact ⟨fun h => ⟨fun hk' => hk hk'.symm, h⟩, fun h => h.2⟩

/-- Something is found under a key exactly if some pair has it. -/
theorem hasKey_iff {key : String} {xs : List (String × α)} :
    hasKey key xs = true ↔ key ∈ xs.map (·.1) := by
  rw [hasKey, ← not_iff_not, ← findKey?_eq_none, Option.isSome_iff_ne_none, not_not]

/-- Where no key occurs twice, every pair of the list is found. -/
theorem findKey?_of_mem {key : String} {v : α} {xs : List (String × α)}
    (hnodup : (xs.map (·.1)).Nodup) (h : (key, v) ∈ xs) : findKey? key xs = some v := by
  induction xs with
  | nil => exact absurd h List.not_mem_nil
  | cons x xs ih =>
    obtain ⟨k, w⟩ := x
    rw [List.map_cons, List.nodup_cons] at hnodup
    rw [findKey?_cons]
    rcases List.mem_cons.mp h with hx | hxs
    · cases hx
      exact if_pos rfl
    · have hk : k ≠ key := fun hk => hnodup.1 (hk ▸ List.mem_map.mpr ⟨_, hxs, rfl⟩)
      rw [if_neg hk, ih hnodup.2 hxs]

theorem findKey?_map (f : α → β) (key : String) (xs : List (String × α)) :
    findKey? key (xs.map fun x => (x.1, f x.2)) = (findKey? key xs).map f := by
  induction xs with
  | nil => rfl
  | cons x xs ih =>
    obtain ⟨k, v⟩ := x
    rw [List.map_cons, findKey?_cons, findKey?_cons, ih]
    split <;> rfl

/-- What is found behind leaving out the pairs of some keys. -/
theorem findKey?_filter (kept : String → Bool) (key : String) (xs : List (String × α)) :
    findKey? key (xs.filter fun x => kept x.1) = if kept key then findKey? key xs else none := by
  induction xs with
  | nil => rw [List.filter_nil, findKey?_nil, ite_self]
  | cons x xs ih =>
    obtain ⟨k, v⟩ := x
    rw [List.filter_cons, findKey?_cons]
    by_cases hk : k = key
    · subst hk
      rw [if_pos rfl]
      by_cases hkept : kept k = true
      · rw [if_pos hkept, if_pos hkept, findKey?_cons, if_pos rfl]
      · rw [if_neg hkept, ih, if_neg hkept, if_neg hkept]
    · rw [if_neg hk]
      split
      · rw [findKey?_cons, if_neg hk, ih]
      · exact ih

theorem findKey?_eraseKey (key erased : String) (xs : List (String × α)) :
    findKey? key (eraseKey erased xs) = if key = erased then none else findKey? key xs := by
  rw [eraseKey, findKey?_filter (· != erased)]
  by_cases h : key = erased
  · rw [if_pos h, if_neg (by rw [h, bne_self_eq_false]; exact Bool.false_ne_true)]
  · rw [if_neg h, if_pos (bne_iff_ne.mpr h)]

/-! ## Putting in -/

/-- **Putting a value under a key changes nothing else.** The list need not be in order for this. -/
theorem findKey?_insertKey (key inserted : String) (v : α) (xs : List (String × α)) :
    findKey? key (insertKey inserted v xs) = if inserted = key then some v else findKey? key xs := by
  induction xs with
  | nil => rfl
  | cons x xs ih =>
    obtain ⟨k, w⟩ := x
    rw [insertKey]
    split
    · rw [findKey?_cons]
    · split
      · next hk => rw [findKey?_cons, findKey?_cons, hk]; split <;> rfl
      · next hk =>
        rw [findKey?_cons, findKey?_cons, ih]
        split
        · next h => rw [if_neg fun hi => hk (hi.trans h.symm)]
        · rfl

/-- What is found in a list that pairs are put into one after the other: the last of them that
has the key, or else what was there. -/
theorem findKey?_foldl_insertKey (key : String) (xs sorted : List (String × α)) :
    findKey? key (xs.foldl (fun sorted pair => insertKey pair.1 pair.2 sorted) sorted)
      = (findKey? key xs.reverse).or (findKey? key sorted) := by
  induction xs generalizing sorted with
  | nil => rfl
  | cons x xs ih =>
    obtain ⟨k, v⟩ := x
    rw [List.foldl_cons, ih, List.reverse_cons, findKey?_append, findKey?_insertKey,
      findKey?_cons, Option.or_assoc]
    congr 1
    split <;> rfl

/-- What is found under a key in a sorted list: the last pair that had the key. -/
theorem findKey?_sortKeys_reverse (key : String) (xs : List (String × α)) :
    findKey? key (sortKeys xs) = findKey? key xs.reverse := by
  rw [sortKeys, findKey?_foldl_insertKey, findKey?_nil, Option.or_none]

/-- Where no key occurs twice, the order of the pairs is of no account. -/
theorem findKey?_reverse {key : String} {xs : List (String × α)} (h : (xs.map (·.1)).Nodup) :
    findKey? key xs.reverse = findKey? key xs := by
  cases hx : findKey? key xs with
  | none =>
    rw [findKey?_eq_none] at hx ⊢
    rwa [List.map_reverse, List.mem_reverse]
  | some v =>
    refine findKey?_of_mem ?_ (List.mem_reverse.mpr (mem_of_findKey? hx))
    rwa [List.map_reverse, List.nodup_reverse]

/-- **Sorting keeps what is found**, if no key occurs twice. -/
theorem findKey?_sortKeys {key : String} {xs : List (String × α)} (h : (xs.map (·.1)).Nodup) :
    findKey? key (sortKeys xs) = findKey? key xs :=
  (findKey?_sortKeys_reverse key xs).trans (findKey?_reverse h)

theorem mem_keys_sortKeys {key : String} {xs : List (String × α)} :
    key ∈ (sortKeys xs).map (·.1) ↔ key ∈ xs.map (·.1) := by
  rw [← not_iff_not, ← findKey?_eq_none, ← findKey?_eq_none, findKey?_sortKeys_reverse,
    findKey?_eq_none, List.map_reverse, List.mem_reverse, findKey?_eq_none]

theorem mem_of_mem_insertKey {key : String} {v : α} {xs : List (String × α)} {x : String × α}
    (h : x ∈ insertKey key v xs) : x = (key, v) ∨ x ∈ xs := by
  induction xs with
  | nil => exact Or.inl (List.mem_singleton.mp h)
  | cons y xs ih =>
    obtain ⟨k, w⟩ := y
    rw [insertKey] at h
    split at h
    · exact List.mem_cons.mp h
    · split at h
      · rcases List.mem_cons.mp h with h | h
        · exact Or.inl h
        · exact Or.inr (List.mem_cons_of_mem _ h)
      · rcases List.mem_cons.mp h with h | h
        · exact Or.inr (h ▸ List.mem_cons_self)
        · exact (ih h).imp_right (List.mem_cons_of_mem _)

theorem mem_of_mem_sortKeys {xs : List (String × α)} {x : String × α} (h : x ∈ sortKeys xs) :
    x ∈ xs := by
  have key : ∀ sorted : List (String × α),
      x ∈ xs.foldl (fun sorted pair => insertKey pair.1 pair.2 sorted) sorted →
        x ∈ xs ∨ x ∈ sorted := by
    clear h
    induction xs with
    | nil => exact fun _ h => Or.inr h
    | cons y xs ih =>
      intro sorted h
      rcases ih _ h with h | h
      · exact Or.inl (List.mem_cons_of_mem _ h)
      · rcases mem_of_mem_insertKey h with h | h
        · exact Or.inl (h ▸ List.mem_cons_self)
        · exact Or.inr h
  exact (key [] h).resolve_right List.not_mem_nil

/-! ## Key order -/

/-- **The keys of a list increase**, so none occurs twice. -/
def InKeyOrder (xs : List (String × α)) : Prop := (xs.map (·.1)).Pairwise (· < ·)

namespace InKeyOrder

theorem nil : InKeyOrder ([] : List (String × α)) := List.Pairwise.nil

theorem tail {x : String × α} {xs : List (String × α)} (h : InKeyOrder (x :: xs)) :
    InKeyOrder xs := (List.pairwise_cons.mp h).2

theorem nodup {xs : List (String × α)} (h : InKeyOrder xs) : (xs.map (·.1)).Nodup := by
  refine List.Pairwise.imp ?_ h
  intro k l hlt heq
  rw [heq] at hlt
  exact String.lt_irrefl l hlt

theorem insertKey {xs : List (String × α)} (h : InKeyOrder xs) (key : String) (v : α) :
    InKeyOrder (insertKey key v xs) := by
  induction xs with
  | nil => exact List.pairwise_singleton _ _
  | cons x xs ih =>
    obtain ⟨k, w⟩ := x
    have hk := (List.pairwise_cons.mp h).1
    rw [ChartSchema.insertKey]
    split
    · next hlt =>
      refine List.pairwise_cons.mpr ⟨fun l hl => ?_, h⟩
      rcases List.mem_cons.mp hl with rfl | hl
      · exact hlt
      · exact String.lt_trans hlt (hk l hl)
    · next hle =>
      split
      · next heq =>
        subst heq
        exact List.pairwise_cons.mpr ⟨hk, h.tail⟩
      · next hne =>
        refine List.pairwise_cons.mpr ⟨fun l hl => ?_, ih h.tail⟩
        obtain ⟨⟨l, u⟩, hmem, rfl⟩ := List.mem_map.mp hl
        rcases mem_of_mem_insertKey hmem with heq | hmem
        · cases heq
          exact (Std.lt_trichotomy key k).resolve_left hle |>.resolve_left hne
        · exact hk _ (List.mem_map.mpr ⟨_, hmem, rfl⟩)

/-- **Sorting puts a list into key order.** -/
theorem sortKeys (xs : List (String × α)) : InKeyOrder (sortKeys xs) := by
  have key : ∀ sorted : List (String × α), InKeyOrder sorted →
      InKeyOrder (xs.foldl (fun sorted pair => ChartSchema.insertKey pair.1 pair.2 sorted)
        sorted) := by
    induction xs with
    | nil => exact fun _ h => h
    | cons x xs ih => exact fun sorted h => ih _ (h.insertKey x.1 x.2)
  exact key [] nil

end InKeyOrder

end ChartSchema
