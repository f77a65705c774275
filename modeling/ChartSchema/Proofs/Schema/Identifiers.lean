import ChartSchema.Proofs.Text.Lines
import ChartSchema.Proofs.Text.UpperCase
import ChartSchema.Schema.Name
/-!
# Identifiers of keys

The identifier of a key is not empty, does not start with a digit, and starts with a letter that is in
upper case already. It need not consist of letters and digits, though: those of the key are sought
out first, and the upper case of a first letter is taken afterwards. The 26 letters whose upper case
has accents of their own bring them in, and nothing else does.

So an identifier is a proper name, and its own identifier, exactly if none of these letters stands
first in a piece of the key (`isName_identifier_iff`). For every key, the identifier of its identifier
is a proper name, since taking the identifier once more just drops the accents
(`identifier_identifier`).
-/

namespace ChartSchema

open Text

/-- **A proper name**: letters and digits, at least one, that does not start with a digit, and is its
own identifier. -/
structure IsName (name : String) : Prop where
  /-- There is a letter. -/
  nonempty : name ≠ ""
  /-- There are letters and digits only. -/
  alphanumeric : ∀ c ∈ name.toList, isAlphanumeric c = true
  /-- The first one is no digit of ASCII. -/
  start : ∀ c, name.toList.head? = some c → c.isDigit = false
  /-- The name is its own identifier. -/
  fixed : identifier name = name

/-- The letters and digits that stand first in the pieces of a key. -/
def firstLetters (key : String) : List Char :=
  (splitOn isKeySeparator key.toList).filterMap fun piece => (piece.filter isAlphanumeric).head?

/-- The parts of an identifier, before it is made sure that there is one and that no digit starts
it. -/
def identifierParts (key : String) : List Char :=
  (splitOn isKeySeparator key.toList).flatMap identifierPart

/-! ## Parts -/

theorem isKeySeparator_of_isAlphanumeric {c : Char} (h : isAlphanumeric c = true) :
    isKeySeparator c = false := by
  refine Bool.eq_false_iff.mpr fun hsep => ?_
  simp only [isKeySeparator, Bool.or_eq_true, beq_iff_eq] at hsep
  rcases hsep with (((rfl | rfl) | rfl) | rfl) | rfl <;> exact absurd h (by decide)

theorem isKeySeparator_of_accent {c : Char} (h : c.toNat ∈ accentCodes) :
    isKeySeparator c = false := by
  refine Bool.eq_false_iff.mpr fun hsep => ?_
  simp only [isKeySeparator, Bool.or_eq_true, beq_iff_eq] at hsep
  rcases hsep with (((rfl | rfl) | rfl) | rfl) | rfl <;> exact absurd h (by decide)

/-- A part is empty, or begins with the upper case of the first letter or digit of its piece. -/
theorem identifierPart_cases (piece : List Char) :
    (piece.filter isAlphanumeric).head? = none ∧ identifierPart piece = [] ∨
    ∃ c rest, (piece.filter isAlphanumeric).head? = some c ∧ isAlphanumeric c = true ∧
      (∀ d ∈ rest, isAlphanumeric d = true) ∧ identifierPart piece = upper c ++ rest := by
  have hletters : ∀ d ∈ piece.filter isAlphanumeric, isAlphanumeric d = true :=
    fun d hd => (List.mem_filter.mp hd).2
  unfold identifierPart
  cases hpiece : piece.filter isAlphanumeric with
  | nil => exact .inl ⟨rfl, rfl⟩
  | cons c rest =>
    rw [hpiece] at hletters
    exact .inr ⟨c, rest, rfl, hletters c List.mem_cons_self,
      fun d hd => hletters d (List.mem_cons_of_mem _ hd), rfl⟩

theorem mem_identifierPart {piece : List Char} {d : Char} (h : d ∈ identifierPart piece) :
    isAlphanumeric d = true ∨ d.toNat ∈ accentCodes := by
  rcases identifierPart_cases piece with ⟨-, hpart⟩ | ⟨c, rest, -, hc, hrest, hpart⟩
  · exact absurd (hpart ▸ h) List.not_mem_nil
  · rcases List.mem_append.mp (hpart ▸ h) with hd | hd
    · exact isAlphanumeric_of_mem_upper hc hd
    · exact .inl (hrest d hd)

/-- A part begins with a letter or digit that has no further upper case. -/
theorem head?_identifierPart {piece : List Char} {c : Char}
    (h : (identifierPart piece).head? = some c) : isAlphanumeric c = true ∧ upper c = [c] := by
  rcases identifierPart_cases piece with ⟨-, hpart⟩ | ⟨first, rest, -, hfirst, -, hpart⟩
  · rw [hpart] at h
    exact nomatch h
  · obtain ⟨d, more, hupper, hd, halpha⟩ := exists_upper_eq_cons first
    rw [hpart, hupper] at h
    obtain rfl : d = c := Option.some.inj h
    exact ⟨halpha hfirst, hd⟩

/-- A part consists of letters and digits unless it begins with an accented letter. -/
theorem forall_mem_identifierPart_iff (piece : List Char) :
    (∀ d ∈ identifierPart piece, isAlphanumeric d = true) ↔
      ∀ c, (piece.filter isAlphanumeric).head? = some c → c.toNat ∉ accentedLetters := by
  rcases identifierPart_cases piece with ⟨hnone, hpart⟩ | ⟨first, rest, hsome, hfirst, hrest, hpart⟩
  · simp [hnone, hpart]
  · simp only [hpart, hsome, Option.some.injEq, forall_eq', List.mem_append,
      ← forall_mem_upper_iff hfirst]
    exact ⟨fun h d hd => h d (.inl hd), fun h d hd => hd.elim (h d) (hrest d)⟩

theorem mem_identifierParts {key : String} {d : Char} (h : d ∈ identifierParts key) :
    isAlphanumeric d = true ∨ d.toNat ∈ accentCodes := by
  obtain ⟨piece, -, hd⟩ := List.mem_flatMap.mp h
  exact mem_identifierPart hd

theorem head?_identifierParts {key : String} {c : Char}
    (h : (identifierParts key).head? = some c) : isAlphanumeric c = true ∧ upper c = [c] := by
  rw [identifierParts, List.head?_flatMap] at h
  obtain ⟨piece, -, hpiece⟩ := List.exists_of_findSome?_eq_some h
  exact head?_identifierPart hpiece

theorem forall_mem_identifierParts_iff (key : String) :
    (∀ d ∈ identifierParts key, isAlphanumeric d = true) ↔
      ∀ c ∈ firstLetters key, c.toNat ∉ accentedLetters := by
  unfold identifierParts firstLetters
  rw [List.forall_mem_flatMap, List.forall_mem_filterMap]
  exact forall₂_congr fun piece _ => forall_mem_identifierPart_iff piece

/-! ## Identifiers -/

/-- A character that may begin a name: a letter that has no further upper case. -/
def beginsName (c : Char) : Bool := isAlphanumeric c && upper c == [c] && !c.isDigit

/-- **An identifier is made of the parts of its key**, with letters in front of them where they would
begin with a digit or where there are none. -/
theorem exists_lead (key : String) : ∃ lead,
    (identifier key).toList = lead ++ identifierParts key ∧
      (∀ c ∈ lead, isAlphanumeric c = true) ∧
      ∃ c rest, lead ++ identifierParts key = c :: rest ∧ beginsName c = true := by
  unfold identifier
  rw [← identifierParts]
  split
  · next hnil =>
    exact ⟨['F', 'i', 'e', 'l', 'd'], by rw [hnil]; rfl, List.all_eq_true.mp (by decide), 'F', _, rfl,
      by decide⟩
  · next first rest hparts =>
    rw [hparts, String.toList_ofList]
    split
    · exact ⟨['X'], rfl, List.all_eq_true.mp (by decide), 'X', _, rfl, by decide⟩
    · next hdigit =>
      obtain ⟨halpha, hupper⟩ := @head?_identifierParts key first (by rw [hparts]; rfl)
      refine ⟨[], rfl, nofun, first, rest, rfl, ?_⟩
      simp [beginsName, halpha, hupper, hdigit]

/-- An identifier begins with a letter that has no further upper case. -/
theorem exists_identifier_eq_cons (key : String) :
    ∃ c rest, (identifier key).toList = c :: rest ∧ beginsName c = true := by
  obtain ⟨lead, hlist, -, c, rest, hcons, hbegins⟩ := exists_lead key
  exact ⟨c, rest, hlist.trans hcons, hbegins⟩

/-- An identifier has letters and digits, and else accents. -/
theorem mem_identifier {key : String} {d : Char} (h : d ∈ (identifier key).toList) :
    isAlphanumeric d = true ∨ d.toNat ∈ accentCodes := by
  obtain ⟨lead, hlist, hlead, -⟩ := exists_lead key
  rcases List.mem_append.mp (hlist ▸ h) with hd | hd
  · exact .inl (hlead d hd)
  · exact mem_identifierParts hd

/-- **An identifier consists of letters and digits** exactly if no accented letter stands first in a
piece of the key. -/
theorem forall_mem_identifier_iff (key : String) :
    (∀ d ∈ (identifier key).toList, isAlphanumeric d = true) ↔
      ∀ c ∈ firstLetters key, c.toNat ∉ accentedLetters := by
  obtain ⟨lead, hlist, hlead, -⟩ := exists_lead key
  rw [hlist, ← forall_mem_identifierParts_iff]
  exact ⟨fun h d hd => h d (List.mem_append_right _ hd),
    fun h d hd => (List.mem_append.mp hd).elim (hlead d) (h d)⟩

/-- The identifier of an identifier drops what is neither a letter nor a digit: there is one piece, and
its first letter stays as it is. -/
theorem toList_identifier_identifier (key : String) :
    (identifier (identifier key)).toList = (identifier key).toList.filter isAlphanumeric := by
  have hone : ∀ d ∈ (identifier key).toList, isKeySeparator d = false := fun d hd =>
    (mem_identifier hd).elim isKeySeparator_of_isAlphanumeric isKeySeparator_of_accent
  obtain ⟨c, rest, hcons, hbegins⟩ := exists_identifier_eq_cons key
  simp only [beginsName, Bool.and_eq_true, beq_iff_eq, Bool.not_eq_true'] at hbegins
  obtain ⟨⟨halpha, hupper⟩, hdigit⟩ := hbegins
  have hparts : identifierParts (identifier key) = c :: rest.filter isAlphanumeric := by
    rw [identifierParts, splitOn_of_forall isKeySeparator hone, List.flatMap_singleton, hcons,
      identifierPart, List.filter_cons_of_pos halpha]
    show upper c ++ _ = _
    rw [hupper]
    rfl
  rw [hcons, List.filter_cons_of_pos halpha, identifier.eq_def (identifier key), ← identifierParts,
    hparts]
  simp only [hdigit, Bool.false_eq_true, if_false, String.toList_ofList]

/-- **The identifier of an identifier** is the same without the accents. These come from the upper
case of a first letter, behind the filter that would have dropped them. -/
theorem identifier_identifier (key : String) :
    identifier (identifier key) = String.ofList ((identifier key).toList.filter isAlphanumeric) := by
  rw [← toList_identifier_identifier, String.ofList_toList]

/-- An identifier is its own identifier exactly if it consists of letters and digits. -/
theorem identifier_fixed_iff (key : String) : identifier (identifier key) = identifier key ↔
    ∀ d ∈ (identifier key).toList, isAlphanumeric d = true := by
  rw [← List.filter_eq_self, ← toList_identifier_identifier, String.toList_inj]

/-- **No identifier is empty or starts with a digit**, whatever the key. -/
theorem identifier_start (key : String) : identifier key ≠ "" ∧
    ∀ c, (identifier key).toList.head? = some c → c.isDigit = false := by
  obtain ⟨c, rest, hcons, hbegins⟩ := exists_identifier_eq_cons key
  simp only [beginsName, Bool.and_eq_true, Bool.not_eq_true'] at hbegins
  refine ⟨fun hempty => ?_, fun d hd => ?_⟩
  · rw [hempty] at hcons
    exact nomatch hcons
  · rw [hcons] at hd
    exact Option.some.inj hd ▸ hbegins.2

/-- **The identifier of a key is a proper name** exactly if no accented letter stands first in a piece
of the key. -/
theorem isName_identifier_iff (key : String) :
    IsName (identifier key) ↔ ∀ c ∈ firstLetters key, c.toNat ∉ accentedLetters := by
  rw [← forall_mem_identifier_iff]
  refine ⟨fun h => h.alphanumeric, fun halpha => ?_⟩
  obtain ⟨hne, hstart⟩ := identifier_start key
  exact ⟨hne, halpha, hstart, (identifier_fixed_iff key).mpr halpha⟩

/-- **The identifier of an identifier is a proper name**, whatever the key. -/
theorem isName_identifier_identifier (key : String) : IsName (identifier (identifier key)) := by
  have halpha : ∀ d ∈ (identifier (identifier key)).toList, isAlphanumeric d = true := by
    rw [toList_identifier_identifier]
    exact fun d hd => (List.mem_filter.mp hd).2
  obtain ⟨hne, hstart⟩ := identifier_start (identifier key)
  exact ⟨hne, halpha, hstart, (identifier_fixed_iff _).mpr halpha⟩

/-- The accents of a first letter are in the identifier, and those of another letter are not. -/
example : identifier "ΐ" = "Ι\u0308\u0301" ∧ identifier "aΐ" = "Aΐ" := by
  decide +kernel

end ChartSchema
