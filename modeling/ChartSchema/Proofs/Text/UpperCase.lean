import ChartSchema.Text.Case
/-!
# What upper case is made of

The upper case of a character begins with a character that has no further upper case
(`exists_upper_eq_cons`), so that to take the upper case of a first letter twice is to take it once.
But it need not consist of letters: where there is no capital with the accents of a small letter, the
accents follow the capital as characters of their own. There are 26 such letters
(`accentedLetters`), and of all other letters and digits the upper case has letters and digits alone
(`forall_mem_upper_iff`).

These are facts about the tables of upper case, which are compared with each other and with the table
of letters and digits as a whole: a set of code points is written as one number, with a binary digit
for each code point, so that two sets are disjoint if these numbers have no digit in common.
-/

namespace ChartSchema.Text

/-! ## Sets of code points -/

/-- The set of some code points, as a number with these binary digits. -/
def codeSet : List Nat → Nat
  | [] => 0
  | n :: rest => 1 <<< n ||| codeSet rest

/-- The set of the code points in the ranges of a table. -/
def rangeSet : List (Nat × Nat) → Nat
  | [] => 0
  | (first, last) :: rest => (1 <<< (last + 1 - first) - 1) <<< first ||| rangeSet rest

theorem testBit_codeSet {codes : List Nat} {n : Nat} :
    (codeSet codes).testBit n = true ↔ n ∈ codes := by
  induction codes with
  | nil => simp [codeSet]
  | cons m rest ih =>
    rw [codeSet, Nat.testBit_or, Bool.or_eq_true, ih, Nat.one_shiftLeft, Nat.testBit_two_pow,
      decide_eq_true_eq, List.mem_cons, eq_comm]

theorem testBit_rangeSet (table : List (Nat × Nat)) (n : Nat) :
    (rangeSet table).testBit n = inRanges table n := by
  induction table with
  | nil => simp [rangeSet, inRanges]
  | cons range rest ih =>
    obtain ⟨first, last⟩ := range
    have hrange : (decide (first ≤ n) && decide (n - first < last + 1 - first)) =
        (decide (first ≤ n) && decide (n ≤ last)) := by
      rw [Bool.eq_iff_iff]
      simp only [Bool.and_eq_true, decide_eq_true_eq]
      omega
    rw [rangeSet, Nat.testBit_or, ih, Nat.testBit_shiftLeft, Nat.one_shiftLeft,
      Nat.testBit_two_pow_sub_one]
    exact congrArg (· || inRanges rest n) hrange

theorem not_mem_of_codeSet_and {a b : List Nat} (h : codeSet a &&& codeSet b = 0) {n : Nat}
    (hn : n ∈ a) : n ∉ b := by
  intro hmem
  have hbit : (codeSet a &&& codeSet b).testBit n = true := by
    rw [Nat.testBit_and, testBit_codeSet.mpr hn, testBit_codeSet.mpr hmem]
    rfl
  rw [h, Nat.zero_testBit] at hbit
  exact nomatch hbit

theorem inRanges_of_codeSet_and {codes : List Nat} {table : List (Nat × Nat)}
    (h : codeSet codes &&& rangeSet table = codeSet codes) {n : Nat} (hn : n ∈ codes) :
    inRanges table n = true := by
  have hbit := congrArg (Nat.testBit · n) h
  rw [Nat.testBit_and, testBit_codeSet.mpr hn, Bool.true_and, testBit_rangeSet] at hbit
  exact hbit

/-! ## Runs -/

namespace CaseRun

/-- The code points of a run. -/
def codes (r : CaseRun) : List Nat :=
  List.range' r.first ((r.last - r.first) / r.step + 1) r.step

/-- Their partners. -/
def partners (r : CaseRun) : List Nat := r.codes.map fun (n : Nat) => Int.toNat (n + r.shift)

theorem mem_codes {r : CaseRun} {n : Nat} (hfirst : r.first ≤ n) (hlast : n ≤ r.last)
    (hstep : (n - r.first) % r.step = 0) : n ∈ r.codes := by
  refine List.mem_range'.mpr ⟨(n - r.first) / r.step, Nat.lt_succ_of_le (Nat.div_le_div_right ?_), ?_⟩
  · omega
  · have hdiv := Nat.div_add_mod (n - r.first) r.step
    omega

theorem partner?_eq_none {runs : List CaseRun} {n : Nat} (h : n ∉ runs.flatMap (·.codes)) :
    partner? runs n = none := by
  rw [partner?, Option.map_eq_none_iff, List.find?_eq_none]
  intro r hr hin
  simp only [Bool.and_eq_true, decide_eq_true_eq, beq_iff_eq] at hin
  exact h (List.mem_flatMap.mpr ⟨r, hr, mem_codes hin.1.1 hin.1.2 hin.2⟩)

/-- The partner of a code point is one of those of its run. -/
theorem exists_of_partner? {runs : List CaseRun} {n : Nat} {d : Char}
    (h : partner? runs n = some d) : ∃ m ∈ runs.flatMap (·.partners), d = Char.ofNat m := by
  obtain ⟨r, hr, rfl⟩ := Option.map_eq_some_iff.mp h
  have hin := List.find?_some hr
  simp only [Bool.and_eq_true, decide_eq_true_eq, beq_iff_eq] at hin
  have hcode : n ∈ r.codes := mem_codes hin.1.1 hin.1.2 hin.2
  exact ⟨_, List.mem_flatMap.mpr ⟨r, List.mem_of_find?_eq_some hr, List.mem_map_of_mem hcode⟩, rfl⟩

end CaseRun

/-! ## The tables -/

/-- The code points with an upper case of their own. -/
def smallCodes : List Nat := upperRuns.flatMap (·.codes) ++ upperExpansions.map (·.1)

/-- The code points that begin an upper case. -/
def capitalCodes : List Nat :=
  upperRuns.flatMap (·.partners) ++ upperExpansions.flatMap (·.2.take 1)

/-- The accents that may stand behind a capital: grave and acute, two dots, a ring, a caron, a smooth
breathing, a line below and a circumflex of Greek. -/
def accentCodes : List Nat := [768, 769, 776, 778, 780, 787, 817, 834]

/-- **The letters whose upper case has accents of its own**: `ǰ`, `ẖ`, `ẗ`, `ẘ`, `ẙ`, and of Greek `ΐ`,
`ΰ` and nineteen letters with a breathing or a circumflex, or with two accents. -/
def accentedLetters : List Nat :=
  [496, 912, 944, 7830, 7831, 7832, 7833, 8016, 8018, 8020, 8022, 8118, 8119, 8134, 8135, 8146, 8147,
   8150, 8151, 8162, 8163, 8164, 8166, 8167, 8182, 8183]

/-- No capital has a further upper case, and all capitals, and all of the expansions but their accents,
are letters or digits. -/
theorem codeSets_compared :
    codeSet capitalCodes &&& codeSet smallCodes = 0 ∧
    codeSet capitalCodes &&& rangeSet alphanumericRanges = codeSet capitalCodes ∧
    codeSet ((upperExpansions.flatMap (·.2)).filter (!accentCodes.contains ·)) &&&
        rangeSet alphanumericRanges =
      codeSet ((upperExpansions.flatMap (·.2)).filter (!accentCodes.contains ·)) := by
  decide +kernel

/-- Accents are neither letters nor digits. Every expansion begins with a code point, none is of an
ASCII character, those with accents are those of the accented letters, and all of these have one. The
ranges of letters and digits are those of ASCII, or behind them and of characters. -/
theorem tables_form :
    (accentCodes.all fun m =>
      (Char.ofNat m).toNat == m && !isAlphanumeric (Char.ofNat m)) = true ∧
    (upperExpansions.all fun e => !e.2.isEmpty && Nat.ble 128 e.1 &&
      e.2.any accentCodes.contains == accentedLetters.contains e.1) = true ∧
    (accentedLetters.all fun n => (upperExpansions.map (·.1)).contains n) = true ∧
    (alphanumericRanges.all fun range =>
      [(48, 57), (65, 90), (97, 122)].contains range || Nat.ble 128 range.1 &&
        (Nat.blt range.2 0xD800 || Nat.blt 0xDFFF range.1 && Nat.blt range.2 0x110000)) = true := by
  decide +kernel

/-! ## The upper case of a character -/

theorem toNat_ofNat_of_isValidChar {n : Nat} (h : n.isValidChar) : (Char.ofNat n).toNat = n := by
  rw [Char.ofNat, dif_pos h]
  rfl

theorem isAlphanum_ofNat : ∀ n < 128,
    48 ≤ n ∧ n ≤ 57 ∨ 65 ≤ n ∧ n ≤ 90 ∨ 97 ≤ n ∧ n ≤ 122 → (Char.ofNat n).isAlphanum = true := by
  decide +kernel

theorem toUpper_ofNat : ∀ n < 128,
    (Char.ofNat n).toUpper = Char.ofNat (if 97 ≤ n ∧ n ≤ 122 then n - 32 else n) := by
  decide +kernel

/-- A code point in the table of letters and digits is that of a letter or digit. -/
theorem isAlphanumeric_ofNat {n : Nat} (h : inRanges alphanumericRanges n = true) :
    (Char.ofNat n).toNat = n ∧ isAlphanumeric (Char.ofNat n) = true := by
  obtain ⟨range, hmem, hin⟩ := List.any_eq_true.mp h
  obtain ⟨-, -, -, hranges⟩ := tables_form
  have hform := List.all_eq_true.mp hranges range hmem
  simp only [Bool.and_eq_true, decide_eq_true_eq] at hin
  simp only [Bool.or_eq_true, Bool.and_eq_true, List.contains_iff_mem, List.mem_cons,
    List.not_mem_nil, or_false, Nat.ble_eq, Nat.blt_eq] at hform
  have hvalid : n.isValidChar := by
    unfold Nat.isValidChar
    rcases hform with (rfl | rfl | rfl) | _ <;> omega
  have hcode : (Char.ofNat n).toNat = n := toNat_ofNat_of_isValidChar hvalid
  refine ⟨hcode, ?_⟩
  unfold isAlphanumeric
  rw [hcode]
  split
  · next hascii =>
    refine isAlphanum_ofNat n hascii ?_
    rcases hform with (rfl | rfl | rfl) | _ <;> omega
  · exact h

/-- A letter with an expansion is beyond ASCII, and the expansion is not empty. -/
theorem mem_upperExpansions {n : Nat} {codes : List Nat} (h : (n, codes) ∈ upperExpansions) :
    codes ≠ [] ∧ 128 ≤ n ∧ ((∃ m ∈ codes, m ∈ accentCodes) ↔ n ∈ accentedLetters) := by
  obtain ⟨-, hexpansions, -, -⟩ := tables_form
  have hform := List.all_eq_true.mp hexpansions _ h
  simp only [Bool.and_eq_true, Bool.not_eq_true', List.isEmpty_eq_false_iff, Nat.ble_eq,
    beq_iff_eq] at hform
  obtain ⟨⟨hne, hascii⟩, haccents⟩ := hform
  rw [Bool.eq_iff_iff, List.any_eq_true, List.contains_iff_mem] at haccents
  simp only [List.contains_iff_mem] at haccents
  exact ⟨hne, hascii, haccents⟩

/-- **The upper case of a character** is the character itself, a capital that begins an upper case, or
an expansion. -/
theorem upper_cases (c : Char) :
    (c.toNat ∉ upperExpansions.map (·.1) ∧
      ∃ d, upper c = [d] ∧ (d = c ∨ ∃ m ∈ capitalCodes, d = Char.ofNat m)) ∨
    ∃ codes, (c.toNat, codes) ∈ upperExpansions ∧ upper c = codes.map Char.ofNat := by
  unfold upper
  split
  · next hascii =>
    refine .inl ⟨fun hmem => ?_, c.toUpper, rfl, ?_⟩
    · obtain ⟨e, he, hcode⟩ := List.mem_map.mp hmem
      have hle := (mem_upperExpansions he).2.1
      omega
    · have hupper := toUpper_ofNat c.toNat hascii
      rw [Char.ofNat_toNat] at hupper
      rw [hupper]
      split
      · next hsmall =>
        have hcode : c.toNat ∈ CaseRun.codes ⟨97, 122, 1, -32⟩ :=
          CaseRun.mem_codes hsmall.1 hsmall.2 (Nat.mod_one _)
        refine .inr ⟨c.toNat - 32, ?_, rfl⟩
        refine List.mem_append_left _ (List.mem_flatMap.mpr
          ⟨⟨97, 122, 1, -32⟩, List.mem_cons_self, List.mem_map.mpr ⟨c.toNat, hcode, ?_⟩⟩)
        show Int.toNat (c.toNat + -32) = c.toNat - 32
        omega
      · exact .inl (Char.ofNat_toNat c)
  · split
    · next codes hcodes =>
      obtain ⟨before, after, heq, -⟩ := List.lookup_eq_some_iff.mp hcodes
      exact .inr ⟨codes, heq ▸ List.mem_append_right _ List.mem_cons_self, rfl⟩
    · next hnone =>
      refine .inl ⟨fun hmem => ?_, _, rfl, ?_⟩
      · obtain ⟨e, he, hcode⟩ := List.mem_map.mp hmem
        exact bne_iff_ne.mp (List.lookup_eq_none_iff.mp hnone e he) hcode.symm
      · cases hpartner : CaseRun.partner? upperRuns c.toNat with
        | none => exact .inl rfl
        | some d =>
          obtain ⟨m, hm, rfl⟩ := CaseRun.exists_of_partner? hpartner
          exact .inr ⟨m, List.mem_append_left _ hm, rfl⟩

/-- A capital that begins an upper case is a letter and has no further upper case. -/
theorem upper_capital {m : Nat} (h : m ∈ capitalCodes) :
    upper (Char.ofNat m) = [Char.ofNat m] ∧ isAlphanumeric (Char.ofNat m) = true := by
  obtain ⟨hdisjoint, hletters, -⟩ := codeSets_compared
  obtain ⟨hcode, halpha⟩ := isAlphanumeric_ofNat (inRanges_of_codeSet_and hletters h)
  refine ⟨?_, halpha⟩
  have hsmall : m ∉ smallCodes := not_mem_of_codeSet_and hdisjoint h
  obtain ⟨hruns, hexpansions⟩ := not_or.mp (mt List.mem_append.mpr hsmall)
  unfold upper
  rw [hcode]
  split
  · next hascii =>
    have hnot : ¬ (97 ≤ m ∧ m ≤ 122) := fun hin => hruns (List.mem_flatMap.mpr
      ⟨⟨97, 122, 1, -32⟩, List.mem_cons_self, CaseRun.mem_codes hin.1 hin.2 (Nat.mod_one _)⟩)
    rw [toUpper_ofNat m hascii, if_neg hnot]
  · have hnone : upperExpansions.lookup m = none := List.lookup_eq_none_iff.mpr fun e he =>
      bne_iff_ne.mpr fun heq => hexpansions (heq ▸ List.mem_map_of_mem he)
    rw [hnone, CaseRun.partner?_eq_none hruns]
    rfl

/-- **An upper case begins with a character that has no further upper case**, a letter or digit if it
is that of one. -/
theorem exists_upper_eq_cons (c : Char) : ∃ d rest, upper c = d :: rest ∧ upper d = [d] ∧
    (isAlphanumeric c = true → isAlphanumeric d = true) := by
  rcases upper_cases c with ⟨-, d, hupper, rfl | ⟨m, hm, rfl⟩⟩ | ⟨codes, hcodes, hupper⟩
  · exact ⟨d, [], hupper, hupper, id⟩
  · exact ⟨_, [], hupper, (upper_capital hm).1, fun _ => (upper_capital hm).2⟩
  · obtain ⟨m, rest, rfl⟩ := List.exists_cons_of_ne_nil (mem_upperExpansions hcodes).1
    have hm : m ∈ capitalCodes := List.mem_append_right _
      (List.mem_flatMap.mpr ⟨_, hcodes, List.mem_cons_self⟩)
    exact ⟨_, _, hupper, (upper_capital hm).1, fun _ => (upper_capital hm).2⟩

/-- A code point of an expansion is that of a letter or digit, unless it is that of an accent. -/
theorem isAlphanumeric_expansion {n m : Nat} {codes : List Nat} (h : (n, codes) ∈ upperExpansions)
    (hm : m ∈ codes) : (Char.ofNat m).toNat = m ∧
      (isAlphanumeric (Char.ofNat m) = false ↔ m ∈ accentCodes) := by
  by_cases haccent : m ∈ accentCodes
  · obtain ⟨haccents, -, -, -⟩ := tables_form
    have hform := List.all_eq_true.mp haccents m haccent
    simp only [Bool.and_eq_true, beq_iff_eq, Bool.not_eq_true'] at hform
    exact ⟨hform.1, fun _ => haccent, fun _ => hform.2⟩
  · have hmem : m ∈ (upperExpansions.flatMap (·.2)).filter (!accentCodes.contains ·) :=
      List.mem_filter.mpr ⟨List.mem_flatMap.mpr ⟨_, h, hm⟩, by simpa using haccent⟩
    obtain ⟨-, -, hletters⟩ := codeSets_compared
    obtain ⟨hcode, halpha⟩ := isAlphanumeric_ofNat (inRanges_of_codeSet_and hletters hmem)
    exact ⟨hcode, fun hnot => absurd (hnot.symm.trans halpha) Bool.false_ne_true,
      fun hmem => absurd hmem haccent⟩

/-- **The upper case of a letter or digit has letters and digits, and else accents.** The accents
come with the letters that have no capital of their own. -/
theorem isAlphanumeric_of_mem_upper {c d : Char} (hc : isAlphanumeric c = true) (hd : d ∈ upper c) :
    isAlphanumeric d = true ∨ d.toNat ∈ accentCodes := by
  rcases upper_cases c with ⟨-, x, hupper, hx⟩ | ⟨codes, hcodes, hupper⟩
  · obtain rfl := List.mem_singleton.mp (hupper ▸ hd)
    rcases hx with rfl | ⟨m, hm, rfl⟩
    · exact .inl hc
    · exact .inl (upper_capital hm).2
  · obtain ⟨m, hm, rfl⟩ := List.mem_map.mp (hupper ▸ hd)
    obtain ⟨hcode, haccent⟩ := isAlphanumeric_expansion hcodes hm
    rw [hcode, ← haccent]
    exact Bool.eq_false_or_eq_true _

/-- **The letters whose upper case does not consist of letters are the accented ones.** Of the
letters without a table entry the upper case is one letter. -/
theorem forall_mem_upper_iff {c : Char} (hc : isAlphanumeric c = true) :
    (∀ d ∈ upper c, isAlphanumeric d = true) ↔ c.toNat ∉ accentedLetters := by
  rcases upper_cases c with ⟨hkey, x, hupper, hx⟩ | ⟨codes, hcodes, hupper⟩
  · obtain ⟨-, -, hexpand, -⟩ := tables_form
    have hnot : c.toNat ∉ accentedLetters := fun hmem =>
      hkey (List.contains_iff_mem.mp (List.all_eq_true.mp hexpand _ hmem))
    refine ⟨fun _ => hnot, fun _ d hd => ?_⟩
    obtain rfl := List.mem_singleton.mp (hupper ▸ hd)
    rcases hx with rfl | ⟨m, hm, rfl⟩
    · exact hc
    · exact (upper_capital hm).2
  · rw [← (mem_upperExpansions hcodes).2.2, hupper, List.forall_mem_map]
    have haccent (m : Nat) (hm : m ∈ codes) :
        isAlphanumeric (Char.ofNat m) = true ↔ m ∉ accentCodes := by
      rw [← (isAlphanumeric_expansion hcodes hm).2, Bool.not_eq_false]
    constructor
    · rintro hletters ⟨m, hm, hmem⟩
      exact (haccent m hm).mp (hletters m hm) hmem
    · intro hnone m hm
      exact (haccent m hm).mpr fun hmem => hnone ⟨m, hm, hmem⟩

/-- Two dots and an acute accent follow the capital iota, for there is no capital with both. -/
example : upper 'ΐ' = ['Ι', '\u0308', '\u0301'] ∧ isAlphanumeric '\u0308' = false := by
  decide +kernel

end ChartSchema.Text
