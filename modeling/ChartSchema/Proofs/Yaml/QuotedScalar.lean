import ChartSchema.Proofs.Yaml.ScanEntries
/-!
# Scalars in quotes within one line

What may stand between two quote marks of one line, and the content it stands for (`QuotedText`): a
doubled single quote is a quote, a backslash in double quotes begins an escape, and everything else
stands for itself, blanks included. The reader of scalars, which counts its steps and reads blanks in
gaps, follows these rules on a line, and no others (`readQuoted_eq_some_iff`).

A colon behind such a scalar, with blanks between them at most, makes it the key of an entry
(`QuotedEntry`): the scanner puts the tokens of a key around its content and goes on behind the colon
(`Scanner.run_quotedEntry`).
-/

namespace ChartSchema.Yaml

/-! ## Escapes -/

/-- **What may stand behind a backslash**, and the character it stands for. -/
inductive IsEscape : List Char → Char → Prop
  /-- A letter that stands for a character. -/
  | letter {letter c : Char} : hexLength? letter = none → escapedChar? letter = some c →
      IsEscape [letter] c
  /-- A letter with as many digits as it asks for, which are the number of a character. -/
  | digits {letter : Char} {digits : List Char} {code : Nat} :
      hexLength? letter = some digits.length → readHex 0 digits.length digits = some (code, []) →
      ¬ ((0xD800 ≤ code ∧ code ≤ 0xDFFF) ∨ 0x10FFFF < code) →
      IsEscape (letter :: digits) (Char.ofNat code)

/-- A number is read from so many characters as were asked for. -/
theorem exists_of_readHex {value count n : Nat} {s after : List Char}
    (h : readHex value count s = some (n, after)) :
    ∃ digits, s = digits ++ after ∧ digits.length = count ∧
      readHex value count digits = some (n, []) := by
  induction count generalizing value s with
  | zero =>
    obtain ⟨rfl, rfl⟩ := Prod.mk.inj (Option.some.inj h)
    exact ⟨[], rfl, rfl, rfl⟩
  | succ count ih =>
    cases s with
    | nil => exact nomatch h
    | cons c r =>
      obtain ⟨d, hd, h⟩ := Option.bind_eq_some_iff.mp h
      obtain ⟨digits, rfl, hlength, hdigits⟩ := ih h
      exact ⟨c :: digits, rfl, congrArg (· + 1) hlength,
        Option.bind_eq_some_iff.mpr ⟨d, hd, hdigits⟩⟩

theorem readHex_append {value count n : Nat} {s left : List Char}
    (h : readHex value count s = some (n, left)) (after : List Char) :
    readHex value count (s ++ after) = some (n, left ++ after) := by
  induction count generalizing value s with
  | zero =>
    obtain ⟨rfl, rfl⟩ := Prod.mk.inj (Option.some.inj h)
    rfl
  | succ count ih =>
    cases s with
    | nil => exact nomatch h
    | cons c r =>
      obtain ⟨d, hd, h⟩ := Option.bind_eq_some_iff.mp h
      exact Option.bind_eq_some_iff.mpr ⟨d, hd, ih h⟩

theorem isSome_hexDigit?_of_readHex {value : Nat} {digits : List Char} {p : Nat × List Char}
    (h : readHex value digits.length digits = some p) :
    ∀ d ∈ digits, (hexDigit? d).isSome = true := by
  induction digits generalizing value with
  | nil => nofun
  | cons d digits ih =>
    obtain ⟨x, hx, h⟩ := Option.bind_eq_some_iff.mp h
    exact List.forall_mem_cons.mpr ⟨by rw [hx]; rfl, ih h⟩

/-- **The reader takes what may stand behind a backslash**, and nothing else: a letter that names a
character, or one that says how many hexadecimal digits follow. -/
theorem readEscape?_eq_some_iff {s after : List Char} {c : Char} :
    readEscape? s = some (c, after) ↔ ∃ used, s = used ++ after ∧ IsEscape used c := by
  constructor
  · intro h
    cases s with
    | nil => exact absurd h.symm (Option.some_ne_none _)
    | cons letter r =>
      unfold readEscape? at h
      dsimp only at h
      split at h
      · next count hcount =>
        obtain ⟨⟨code, left⟩, hhex, hcode⟩ := Option.bind_eq_some_iff.mp h
        obtain ⟨digits, rfl, rfl, hdigits⟩ := exists_of_readHex hhex
        dsimp only at hcode
        split at hcode
        · exact absurd hcode.symm (Option.some_ne_none _)
        · next hvalid =>
          obtain ⟨rfl, rfl⟩ := Prod.mk.inj (Option.some.inj hcode)
          exact ⟨letter :: digits, rfl, .digits hcount hdigits hvalid⟩
      · next hnone =>
        obtain ⟨x, hx, h⟩ := Option.map_eq_some_iff.mp h
        obtain ⟨rfl, rfl⟩ := Prod.mk.inj h
        exact ⟨[letter], rfl, .letter hnone hx⟩
  · rintro ⟨used, rfl, hescape⟩
    cases hescape with
    | letter hnone hx =>
      rw [List.singleton_append, readEscape?, hnone]
      exact Option.map_eq_some_iff.mpr ⟨_, hx, rfl⟩
    | digits hcount hhex hvalid =>
      rw [List.cons_append, readEscape?, hcount]
      show (readHex 0 _ _).bind _ = _
      rw [readHex_append hhex, Option.bind_some]
      exact if_neg hvalid

/-- A line break is neither a letter nor a digit of an escape. -/
theorem not_isEscape_of_isBreak {c : Char} (h : isBreak c = true) :
    hexLength? c = none ∧ escapedChar? c = none ∧ hexDigit? c = none := by
  simp only [isBreak, Bool.or_eq_true, beq_iff_eq] at h
  rcases h with (((rfl | rfl) | rfl) | rfl) | rfl <;> exact ⟨rfl, rfl, rfl⟩

theorem IsEscape.inLine {used : List Char} {c : Char} (h : IsEscape used c) : InLine used := by
  cases h with
  | @letter letter _ _ hx =>
    refine .cons (Bool.eq_false_iff.mpr fun hbreak => ?_) nofun
    rw [(not_isEscape_of_isBreak hbreak).2.1] at hx
    exact nomatch hx
  | @digits letter digits _ hcount hhex _ =>
    refine .cons (Bool.eq_false_iff.mpr fun hbreak => ?_) fun d hd =>
      Bool.eq_false_iff.mpr fun hbreak => ?_
    · rw [(not_isEscape_of_isBreak hbreak).1] at hcount
      exact nomatch hcount
    · have hdigit := isSome_hexDigit?_of_readHex hhex d hd
      rw [(not_isEscape_of_isBreak hbreak).2.2] at hdigit
      exact nomatch hdigit

theorem IsEscape.ne_nil {used : List Char} {c : Char} (h : IsEscape used c) : used ≠ [] := by
  cases h <;> exact List.cons_ne_nil _ _

theorem takeBreak?_eq_none {s : List Char} (h : ∀ c ∈ s.head?, isBreak c = false) :
    takeBreak? s = none := by
  have hne {c : Char} (hc : isBreak c = false) (x : Char) (hx : isBreak x = true) : c ≠ x := by
    rintro rfl
    exact Bool.false_ne_true (hc.symm.trans hx)
  rw [takeBreak?.eq_def]
  split
  · exact absurd rfl (hne (h _ rfl) '\r' rfl)
  · next c _ _ =>
    have hc := h c rfl
    rw [if_neg (not_or.mpr ⟨hne hc '\u2028' rfl, hne hc '\u2029' rfl⟩), hc,
      if_neg Bool.false_ne_true]
  · rfl

theorem IsEscape.takeBreak? {used : List Char} {c : Char} (h : IsEscape used c)
    (after : List Char) : Yaml.takeBreak? (used ++ after) = none := by
  obtain ⟨letter, rest, rfl⟩ := List.exists_cons_of_ne_nil h.ne_nil
  exact takeBreak?_eq_none fun c hc =>
    Option.some.inj hc ▸ h.inLine letter List.mem_cons_self

/-! ## The text between quote marks -/

/-- The mark around a scalar. -/
def quoteMark (single : Bool) : Char := if single then '\'' else '"'

/-- **A text between quote marks** within one line, and the content it stands for. -/
inductive QuotedText (single : Bool) : List Char → List Char → Prop
  /-- The empty text. -/
  | nil : QuotedText single [] []
  /-- A single quote is written twice. -/
  | doubled {body content : List Char} : single = true → QuotedText single body content →
      QuotedText single ('\'' :: '\'' :: body) ('\'' :: content)
  /-- A backslash in double quotes begins an escape. -/
  | escape {used : List Char} {c : Char} {body content : List Char} : single = false →
      IsEscape used c → QuotedText single body content →
      QuotedText single ('\\' :: (used ++ body)) (c :: content)
  /-- Every other character stands for itself, blanks too. -/
  | char {c : Char} {body content : List Char} : c ≠ quoteMark single →
      (single = false → c ≠ '\\') → isBreak c = false → QuotedText single body content →
      QuotedText single (c :: body) (c :: content)

/-- What may follow the last mark: behind a single one no other one, for two of them are a quote. -/
def EndsQuoted (single : Bool) (after : List Char) : Prop :=
  single = true → after.head? ≠ some '\''

/-- No blank and no line break comes next. -/
def AtWord (s : List Char) : Prop := ∀ c ∈ s.head?, isBlank c = false ∧ isBreak c = false

theorem AtWord.cons {c : Char} (hblank : isBlank c = false) (hbreak : isBreak c = false)
    (s : List Char) : AtWord (c :: s) :=
  fun _ hx => Option.some.inj hx ▸ ⟨hblank, hbreak⟩

variable {single : Bool} {s body content after : List Char}

theorem quoteMark_plain (single : Bool) :
    isBlank (quoteMark single) = false ∧ isBreak (quoteMark single) = false := by
  cases single <;> exact ⟨rfl, rfl⟩

theorem isBlank_iff {c : Char} : isBlank c = true ↔ c = ' ' ∨ c = '\t' := by
  rw [isBlank, Bool.or_eq_true, beq_iff_eq, beq_iff_eq]

theorem QuotedText.inLine (h : QuotedText single body content) : InLine body := by
  induction h with
  | nil => nofun
  | doubled _ _ ih => exact .cons rfl (.cons rfl ih)
  | escape _ hescape _ ih => exact .cons rfl (hescape.inLine.append ih)
  | char _ _ hbreak _ ih => exact .cons hbreak ih

theorem QuotedText.blanks {blanks : List Char} (hblanks : ∀ c ∈ blanks, isBlank c = true)
    (h : QuotedText single body content) :
    QuotedText single (blanks ++ body) (blanks ++ content) := by
  induction blanks with
  | nil => exact h
  | cons c blanks ih =>
    obtain ⟨hc, hblanks⟩ := List.forall_mem_cons.mp hblanks
    refine .char ?_ ?_ ?_ (ih hblanks)
    all_goals rcases isBlank_iff.mp hc with rfl | rfl <;> cases single <;> decide

/-- The blanks at the start of a text are those at the start of its content, and behind them the text
goes on with a word or ends. -/
theorem QuotedText.exists_blanks (h : QuotedText single body content) :
    ∃ blanks body' content', body = blanks ++ body' ∧ content = blanks ++ content' ∧
      (∀ c ∈ blanks, isBlank c = true) ∧ AtWord body' ∧ QuotedText single body' content' := by
  induction h with
  | nil => exact ⟨[], [], [], rfl, rfl, nofun, nofun, .nil⟩
  | doubled hsingle h _ => exact ⟨[], _, _, rfl, rfl, nofun, .cons rfl rfl _, .doubled hsingle h⟩
  | escape hdouble hescape h _ =>
    exact ⟨[], _, _, rfl, rfl, nofun, .cons rfl rfl _, .escape hdouble hescape h⟩
  | @char c _ _ hmark hslash hbreak h ih =>
    by_cases hblank : isBlank c = true
    · obtain ⟨blanks, body', content', rfl, rfl, hblanks, hword, h'⟩ := ih
      exact ⟨c :: blanks, body', content', rfl, rfl, List.forall_mem_cons.mpr ⟨hblank, hblanks⟩,
        hword, h'⟩
    · exact ⟨[], _, _, rfl, rfl, nofun, .cons (Bool.eq_false_iff.mpr hblank) hbreak _,
        .char hmark hslash hbreak h⟩

theorem InLine.exists_blanks (h : InLine s) :
    ∃ blanks s', s = blanks ++ s' ∧ (∀ c ∈ blanks, isBlank c = true) ∧ AtWord s' ∧ InLine s' := by
  have hline : InLine (s.dropWhile isBlank) :=
    fun c hc => h c ((List.dropWhile_suffix _).subset hc)
  refine ⟨s.takeWhile isBlank, s.dropWhile isBlank, List.takeWhile_append_dropWhile.symm,
    fun _ => List.mem_takeWhile_imp, fun c hc => ?_, hline⟩
  have hblank := List.head?_dropWhile_not isBlank s
  rw [Option.mem_def.mp hc] at hblank
  exact ⟨hblank, hline c (List.mem_of_mem_head? hc)⟩

/-! ## The reader -/

theorem readGap_blanks (limit : Nat) (done : List Char) {blanks : List Char}
    (hblanks : ∀ c ∈ blanks, isBlank c = true) (hs : AtWord s) :
    readGap limit { blanks := done } (blanks ++ s) = ({ blanks := done ++ blanks }, s) := by
  have hne {c : Char} (h : isBreak c = false) : c ≠ '\r' := by rintro rfl; exact nomatch h
  induction blanks generalizing done with
  | nil =>
    rw [List.nil_append, List.append_nil, readGap.eq_def]
    split
    · rfl
    · exact absurd rfl (hne (hs _ rfl).2)
    · next c r _ =>
      obtain ⟨hblank, hbreak⟩ := hs c rfl
      rw [hblank, hbreak, if_neg Bool.false_ne_true, if_neg Bool.false_ne_true]
  | cons c blanks ih =>
    obtain ⟨hc, hblanks⟩ := List.forall_mem_cons.mp hblanks
    rw [List.cons_append, readGap.eq_def]
    split
    · next heq => exact nomatch heq
    · next heq =>
      rw [(List.cons.inj heq).1] at hc
      exact nomatch hc
    · next heq =>
      obtain ⟨rfl, rfl⟩ := List.cons.inj heq
      rw [if_pos hc, ← List.singleton_append, ← List.append_assoc]
      exact ih (done ++ [c]) hblanks

theorem readQuoted_close (steps : Nat) (h : EndsQuoted single s) :
    readQuoted single false (steps + 1) (quoteMark single :: s) = some ([], s) := by
  cases single with
  | false => rfl
  | true =>
    have hhead : (s.head? == some '\'') = false := beq_eq_false_iff_ne.mpr (h rfl)
    rw [readQuoted.eq_def]
    simp [quoteMark, hhead]

theorem readQuoted_doubled (steps : Nat) (s : List Char) :
    readQuoted true false (steps + 1) ('\'' :: '\'' :: s) =
      (readQuoted true false steps s).map (Prod.map ('\'' :: ·) id) := rfl

theorem readQuoted_escape (steps : Nat) (h : takeBreak? s = none) :
    readQuoted false false (steps + 1) ('\\' :: s) = (readEscape? s).bind fun p =>
      (readQuoted false false steps p.2).map (Prod.map (p.1 :: ·) id) := by
  have hescape : ('\\' == '"') = false := rfl
  rw [readQuoted.eq_def]
  simp only [Bool.false_and, Bool.false_eq_true, if_false, hescape, Bool.not_false, Bool.true_and,
    beq_self_eq_true, if_true, h]
  refine congrArg (Option.bind _) (funext fun p => ?_)
  cases readQuoted false false steps p.2 <;> rfl

theorem readQuoted_blanks (single : Bool) (steps : Nat) {c : Char} {blanks : List Char}
    (hc : isBlank c = true) (hblanks : ∀ c ∈ blanks, isBlank c = true) (hs : AtWord s) :
    readQuoted single false (steps + 1) (c :: (blanks ++ s)) =
      (readQuoted single false steps s).map (Prod.map (c :: blanks ++ ·) id) := by
  have hgap : readGap 0 {} (c :: (blanks ++ s)) = ({ blanks := c :: blanks }, s) :=
    readGap_blanks 0 [] (List.forall_mem_cons.mpr ⟨hc, hblanks⟩) hs
  have hmark (x : Char) (hx : isBlank x = false) : (c == x) = false :=
    beq_eq_false_iff_ne.mpr fun heq => Bool.false_ne_true (hx.symm.trans (heq ▸ hc))
  rw [readQuoted.eq_def]
  cases single <;>
    simp only [Bool.false_and, Bool.and_false, Bool.not_true, Bool.not_false, Bool.false_eq_true,
      if_false, hmark '\'' rfl, hmark '"' rfl, hmark '\\' rfl, hc, Bool.true_or, if_true, hgap] <;>
    rfl

theorem readQuoted_char (steps : Nat) {c : Char} (hmark : c ≠ quoteMark single)
    (hslash : single = false → c ≠ '\\') (hc : isBlank c = false) (hbreak : isBreak c = false) :
    readQuoted single false (steps + 1) (c :: s) =
      (readQuoted single false steps s).map (Prod.map (c :: ·) id) := by
  rw [readQuoted.eq_def]
  cases single with
  | false =>
    have hmark' : (c == '"') = false := beq_eq_false_iff_ne.mpr hmark
    have hslash' : (c == '\\') = false := beq_eq_false_iff_ne.mpr (hslash rfl)
    simp only [Bool.false_and, Bool.and_false, Bool.false_eq_true, if_false, hmark', hslash', hc,
      hbreak, Bool.or_self]
    rfl
  | true =>
    have hmark' : (c == '\'') = false := beq_eq_false_iff_ne.mpr hmark
    simp only [Bool.false_and, Bool.and_false, Bool.not_true, Bool.false_eq_true, if_false, if_true,
      hmark', hc, hbreak, Bool.or_self]
    rfl

theorem exists_of_map {f : List Char → List Char} {read? : Option (List Char × List Char)}
    (h : read?.map (Prod.map f id) = some (content, after)) :
    ∃ text, read? = some (text, after) ∧ f text = content := by
  obtain ⟨⟨text, left⟩, hread, heq⟩ := Option.map_eq_some_iff.mp h
  obtain ⟨rfl, rfl⟩ := Prod.mk.inj heq
  exact ⟨text, hread, rfl⟩

/-- **The reader reads the content** of a text between quote marks, if it may take more steps than the
text has characters. -/
theorem QuotedText.readQuoted {steps : Nat} (h : QuotedText single body content)
    (hafter : EndsQuoted single after) (hsteps : body.length < steps) :
    readQuoted single false steps (body ++ quoteMark single :: after) = some (content, after) := by
  induction steps generalizing body content with
  | zero => exact absurd hsteps (Nat.not_lt_zero _)
  | succ steps ih =>
    cases h with
    | nil => exact readQuoted_close steps hafter
    | doubled hsingle h =>
      subst hsingle
      have hshort := Nat.lt_of_succ_lt_succ hsteps
      rw [List.cons_append, List.cons_append, readQuoted_doubled, ih h (Nat.lt_of_succ_lt hshort)]
      rfl
    | @escape used c body content hdouble hescape h =>
      subst hdouble
      have hshort : body.length < steps := by
        simp only [List.length_cons, List.length_append] at hsteps
        omega
      rw [List.cons_append, List.append_assoc, readQuoted_escape steps (hescape.takeBreak? _),
        readEscape?_eq_some_iff.mpr ⟨used, rfl, hescape⟩, Option.bind_some, ih h hshort]
      rfl
    | @char c body content hmark hslash hbreak h =>
      have hshort := Nat.lt_of_succ_lt_succ hsteps
      by_cases hblank : isBlank c = true
      · -- A gap is read with all its blanks at once.
        obtain ⟨blanks, body', content', rfl, rfl, hblanks, hword, h'⟩ := h.exists_blanks
        have hword' : AtWord (body' ++ quoteMark single :: after) := by
          cases body' with
          | nil => exact .cons (quoteMark_plain single).1 (quoteMark_plain single).2 _
          | cons d body' => exact hword
        rw [List.length_append] at hshort
        rw [List.cons_append, List.append_assoc,
          readQuoted_blanks single steps hblank hblanks hword', ih h' (by omega)]
        rfl
      · rw [List.cons_append,
          readQuoted_char steps hmark hslash (Bool.eq_false_iff.mpr hblank) hbreak, ih h hshort]
        rfl

/-- **The reader reads nothing else** from a text within a line. The induction is on its steps, each
of which takes one way to write a character. -/
theorem exists_of_readQuoted {steps : Nat} (hline : InLine s)
    (h : readQuoted single false steps s = some (content, after)) :
    ∃ body, s = body ++ quoteMark single :: after ∧ QuotedText single body content ∧
      EndsQuoted single after := by
  induction steps generalizing s content with
  | zero => exact nomatch h
  | succ steps ih =>
    cases s with
    | nil => exact nomatch h
    | cons c r =>
      obtain ⟨hbreak, hr⟩ := List.forall_mem_cons.mp hline
      by_cases hmark : c = quoteMark single
      · subst hmark
        by_cases hdoubled : single = true ∧ r.head? = some '\''
        · obtain ⟨rfl, hhead⟩ := hdoubled
          obtain ⟨r, rfl⟩ := List.head?_eq_some_iff.mp hhead
          rw [show quoteMark true = '\'' from rfl, readQuoted_doubled] at h
          obtain ⟨text, hread, rfl⟩ := exists_of_map h
          obtain ⟨body, rfl, hbody, hafter⟩ := ih (List.forall_mem_cons.mp hr).2 hread
          exact ⟨'\'' :: '\'' :: body, rfl, .doubled rfl hbody, hafter⟩
        · have hclose : EndsQuoted single r := fun hsingle hhead => hdoubled ⟨hsingle, hhead⟩
          rw [readQuoted_close steps hclose] at h
          obtain ⟨rfl, rfl⟩ := Prod.mk.inj (Option.some.inj h)
          exact ⟨[], rfl, .nil, hclose⟩
      · by_cases hslash : single = false ∧ c = '\\'
        · obtain ⟨rfl, rfl⟩ := hslash
          have hbreak? : takeBreak? r = none :=
            takeBreak?_eq_none fun d hd => hr d (List.mem_of_mem_head? hd)
          rw [readQuoted_escape steps hbreak?] at h
          obtain ⟨⟨x, left⟩, hescape, h⟩ := Option.bind_eq_some_iff.mp h
          obtain ⟨text, hread, rfl⟩ := exists_of_map h
          obtain ⟨used, rfl, hused⟩ := readEscape?_eq_some_iff.mp hescape
          obtain ⟨body, rfl, hbody, hafter⟩ :=
            ih (fun d hd => hr d (List.mem_append_right _ hd)) hread
          exact ⟨'\\' :: (used ++ body), by simp, .escape rfl hused hbody, hafter⟩
        · have hslash' : single = false → c ≠ '\\' := fun hdouble heq => hslash ⟨hdouble, heq⟩
          by_cases hblank : isBlank c = true
          · obtain ⟨blanks, s', rfl, hblanks, hword, hrest⟩ := InLine.exists_blanks hr
            rw [readQuoted_blanks single steps hblank hblanks hword] at h
            obtain ⟨text, hread, rfl⟩ := exists_of_map h
            obtain ⟨body, rfl, hbody, hafter⟩ := ih hrest hread
            exact ⟨c :: (blanks ++ body), by simp,
              .char hmark hslash' hbreak (hbody.blanks hblanks), hafter⟩
          · rw [readQuoted_char steps hmark hslash' (Bool.eq_false_iff.mpr hblank) hbreak] at h
            obtain ⟨text, hread, rfl⟩ := exists_of_map h
            obtain ⟨body, rfl, hbody, hafter⟩ := ih hr hread
            exact ⟨c :: body, rfl, .char hmark hslash' hbreak hbody, hafter⟩

/-- **The reader of scalars in quotes**, on a text within a line. -/
theorem readQuoted_eq_some_iff (hline : InLine s) :
    readQuoted single false (s.length + 1) s = some (content, after) ↔
      ∃ body, s = body ++ quoteMark single :: after ∧ QuotedText single body content ∧
        EndsQuoted single after := by
  refine ⟨exists_of_readQuoted hline, ?_⟩
  rintro ⟨body, rfl, hbody, hafter⟩
  exact hbody.readQuoted hafter (by simp only [List.length_append]; omega)

/-! ## Entries whose keys are in quotes -/

/-- **An entry in a line of its own with a key in quotes**, from the first mark on. -/
structure QuotedEntry where
  /-- Whether the marks are single ones. -/
  single : Bool
  /-- The text between the marks. -/
  body : List Char
  /-- The key. -/
  key : List Char
  /-- The text stands for the key. -/
  quoted : QuotedText single body key
  /-- What stands in front of the colon. -/
  blanks : List Char
  /-- It is blank. -/
  isBlank : ∀ c ∈ blanks, isBlank c = true
  /-- What stands behind the colon. -/
  value : List Char
  /-- It starts with a blank, if it is not empty. -/
  atSpace : atSpace value = true
  /-- The entry ends with the line. -/
  inLine : InLine value

namespace QuotedEntry

/-- What stands behind the key. -/
def behind (e : QuotedEntry) : List Char := e.blanks ++ ':' :: e.value

/-- The entry. -/
def text (e : QuotedEntry) : List Char :=
  quoteMark e.single :: (e.body ++ quoteMark e.single :: e.behind)

theorem endsQuoted_behind (e : QuotedEntry) (below : List Char) :
    EndsQuoted e.single (e.behind ++ below) := by
  intro _
  unfold behind
  cases hblanks : e.blanks with
  | nil => exact fun h => absurd (Option.some.inj h) (by decide)
  | cons c blanks =>
    rintro ⟨⟩
    exact absurd (e.isBlank '\'' (hblanks ▸ List.mem_cons_self)) (by decide)

end QuotedEntry

/-- **Whatever the reader takes for a key in quotes** on a line is the key of such an entry. -/
theorem exists_quotedEntry {key value : List Char} (hline : InLine s)
    (hread : readQuoted single false (s.length + 1) s = some (key, after))
    (hcolon : after.dropWhile isBlank = ':' :: value) (hvalue : atSpace value = true) :
    ∃ e : QuotedEntry, e.text = quoteMark single :: s ∧ e.single = single ∧ e.key = key ∧
      e.blanks = after.takeWhile isBlank ∧ e.value = value := by
  obtain ⟨body, rfl, hbody, -⟩ := (readQuoted_eq_some_iff hline).mp hread
  have hafter : after.takeWhile isBlank ++ ':' :: value = after :=
    hcolon ▸ List.takeWhile_append_dropWhile
  have hin : InLine value := fun c hc => hline c (by rw [← hafter]; simp [hc])
  refine ⟨⟨single, body, key, hbody, after.takeWhile isBlank, fun _ => List.mem_takeWhile_imp, value,
    hvalue, hin⟩, ?_, rfl, rfl, rfl, rfl⟩
  rw [QuotedEntry.text, QuotedEntry.behind, hafter]


/-- To go on to what stands behind some characters of a line is to skip them. -/
theorem Cursor.moveTo_inLine (hline : InLine s) (rest : List Char) (index line column : Nat) :
    (⟨s ++ rest, index, line, column⟩ : Cursor).moveTo rest =
      ⟨rest, index + s.length, line, column + s.length⟩ := by
  rw [moveTo, List.length_append, Nat.add_sub_cancel, skip_inLine hline]

theorem Cursor.skip_moveTo {cursor : Cursor} {c : Char} (h : c :: after <:+ cursor.rest) :
    (cursor.moveTo (c :: after)).skip 1 = cursor.moveTo after := by
  rw [← moveTo_moveTo h (Nat.le_succ _), moveTo.eq_def (cursor.moveTo (c :: after)), moveTo_suffix h,
    List.length_cons, Nat.add_sub_cancel_left]

/-- Blanks are skipped, and tabs too where no key may begin. -/
theorem skipToToken_blanks {blanks : List Char} (hblanks : ∀ c ∈ blanks, isBlank c = true)
    (hs : atToken s = true) (tabsLater lineStart ended : Bool) :
    skipToToken tabsLater true false lineStart ended (blanks ++ s) = (s, ended) := by
  induction blanks generalizing lineStart with
  | nil => exact skipToToken_of_atToken hs ..
  | cons c blanks ih =>
    obtain ⟨hc, hmore⟩ := List.forall_mem_cons.mp hblanks
    simp only [isBlank, Bool.or_eq_true, beq_iff_eq] at hc
    rcases hc with rfl | rfl <;> exact ih hmore false

namespace Scanner

theorem token_quoteMark (t : Scanner) (single : Bool) (r : List Char) :
    t.token (quoteMark single) r = (readQuoted single false (r.length + 1) r).bind fun p =>
      t.node (.scalar .quoted p.1) p.2 false := by
  cases single <;> simp [token, quoteMark, atDocumentMark]

/-- A colon in front of a blank or of the end makes a key of what stands before it. -/
theorem token_colon (t : Scanner) {value : List Char} (hvalue : atSpace value = true) :
    t.token ':' value = t.colon := by
  unfold token
  simp [atDocumentMark, hvalue]

/-- The scanner in front of a token that may be a key, outside of flow collections. -/
def atKey (start : Cursor) (indent : Int) (indents : List Int) (tokens : List Token) : Scanner :=
  { cursor := start, indent, indents, tokens, count := tokens.length }

/-- The scanner behind a scalar in quotes that may be a key: it remembers where the scalar starts. -/
def afterKey (start cursor : Cursor) (indent : Int) (indents : List Int) (tokens : List Token)
    (key : List Char) : Scanner :=
  { (atKey start indent indents tokens).push (.scalar .quoted key) with
    cursor
    spot? := some ⟨tokens.length, start, indent == start.column⟩
    keyAllowed := false }

/-- The scanner behind the colon of a key in quotes, from which `value` is left. -/
def behindKey (start : Cursor) (indent : Int) (indents : List Int) (tokens : List Token)
    (key value : List Char) : Scanner :=
  let opened := (atKey start indent indents tokens).openBlock start.column tokens.length .blockMapping
  { ((opened.push .key).push (.scalar .quoted key)).push .value with
    cursor := start.moveTo value
    keyAllowed := false }

variable {start : Cursor} {indent : Int} {indents : List Int} {tokens : List Token}

theorem token_quotedText {key : List Char} (hbody : QuotedText single body key)
    (hafter : EndsQuoted single after) :
    (atKey start indent indents tokens).token (quoteMark single)
        (body ++ quoteMark single :: after) =
      some (afterKey start (start.moveTo after) indent indents tokens key) := by
  rw [token_quoteMark, hbody.readQuoted hafter (by simp only [List.length_append]; omega)]
  rfl

theorem colon_afterKey {cursor : Cursor} {key value : List Char}
    (hmove : cursor.skip 1 = start.moveTo value) :
    (afterKey start cursor indent indents tokens key).colon =
      some (behindKey start indent indents tokens key value) := by
  have hlater : tokens.length + 1 - tokens.length = 1 := Nat.add_sub_cancel_left ..
  have hlater' : tokens.length + 1 + 1 - tokens.length = 2 := by omega
  by_cases hindent : indent < start.column <;>
    simp [colon, afterKey, atKey, insertAt, openBlock, inFlow, plainToken, skip, push, hlater, hlater',
      behindKey, hmove, hindent]

theorem toToken_atKey (h : atToken start.rest = true) :
    (atKey start indent indents tokens).toToken = atKey start indent indents tokens := by
  rw [toToken_eq rfl (skipToToken_of_atToken h ..)]
  exact congrArg (atKey · indent indents tokens) start.moveTo_rest

theorem toToken_afterKey {cursor : Cursor} {blanks s : List Char} (hrest : cursor.rest = blanks ++ s)
    (hblanks : ∀ c ∈ blanks, isBlank c = true) (hs : atToken s = true) (key : List Char) :
    (afterKey start cursor indent indents tokens key).toToken =
      afterKey start (cursor.moveTo s) indent indents tokens key := by
  have hskip : skipToToken false true false (cursor.column == 0) false cursor.rest = (s, false) := by
    rw [hrest]
    exact skipToToken_blanks hblanks hs ..
  exact toToken_eq (s := afterKey start cursor indent indents tokens key) rfl hskip

/-- A scalar that may be a key is kept in mind up to the end of the line. -/
theorem dropStale_afterKey {cursor : Cursor} (hline : cursor.line ≤ start.line)
    (hindex : cursor.index ≤ start.index + 1024) (key : List Char) :
    (afterKey start cursor indent indents tokens key).dropStale =
      some (afterKey start cursor indent indents tokens key) := by
  have hstale : (afterKey start cursor indent indents tokens key).isStale
      ⟨tokens.length, start, indent == start.column⟩ = false :=
    Bool.or_eq_false_iff.mpr ⟨decide_eq_false (Nat.not_lt.mpr hline),
      decide_eq_false (Nat.not_lt.mpr hindex)⟩
  show ((if (afterKey start cursor indent indents tokens key).isStale _ then _ else some (some _)) >>=
    fun spot? => _) = _
  rw [hstale]
  rfl

/-- **A scalar in quotes with a colon behind it is a key**: where a key may begin, in no column left
of the open collections, the scanner puts the tokens of a key around its content, opens a mapping
if the key stands deeper than the collections around it, and goes on behind the colon. -/
theorem run_quotedEntry (e : QuotedEntry) {below : List Char} (hbelow : atLineEnd below = true)
    (hrest : start.rest = e.text ++ below) (hshort : e.body.length + e.blanks.length + 2 ≤ 1024)
    (hindent : indent ≤ start.column) (steps : Nat) :
    (atKey start indent indents tokens).run (steps + 2) =
      (behindKey start indent indents tokens e.key (e.value ++ below)).run steps := by
  -- The key up to its last mark, and what stands between it and the colon.
  let lead : List Char := quoteMark e.single :: (e.body ++ [quoteMark e.single])
  have htext : start.rest = (lead ++ e.blanks) ++ ':' :: (e.value ++ below) := by
    simp [hrest, lead, QuotedEntry.text, QuotedEntry.behind]
  have hmark : isBreak (quoteMark e.single) = false := (quoteMark_plain e.single).2
  have hlead : InLine (lead ++ e.blanks) := by
    refine InLine.append (.cons hmark (e.quoted.inLine.append (.cons hmark nofun))) fun c hc => ?_
    rcases isBlank_iff.mp (e.isBlank c hc) with rfl | rfl <;> rfl
  have hscalar : e.behind ++ below <:+ start.rest :=
    ⟨lead, by simp [htext, QuotedEntry.behind]⟩
  have hcolon : ':' :: (e.value ++ below) <:+ start.rest := ⟨lead ++ e.blanks, htext.symm⟩
  have hvalue : atSpace (e.value ++ below) = true := by
    have hspace := e.atSpace
    cases hcons : e.value with
    | nil =>
      cases below with
      | nil => rfl
      | cons c below => exact Bool.or_eq_true_iff.mpr (.inr hbelow)
    | cons c value => rwa [hcons] at hspace
  -- The colon stands in the line of the scalar, right of it and near enough.
  have hplace : start.moveTo (':' :: (e.value ++ below)) = ⟨':' :: (e.value ++ below),
      start.index + (lead ++ e.blanks).length, start.line,
      start.column + (lead ++ e.blanks).length⟩ := by
    have hmove := Cursor.moveTo_inLine hlead (':' :: (e.value ++ below)) start.index start.line
      start.column
    rwa [← htext] at hmove
  have hcolumn : indent ≤ ((start.moveTo (':' :: (e.value ++ below))).column : Int) := by
    rw [hplace]
    push_cast
    omega
  have hfirst : (atKey start indent indents tokens).toToken.dropStale =
      some (atKey start indent indents tokens) := by
    rw [toToken_atKey (by rw [hrest, QuotedEntry.text]; cases e.single <;> rfl)]
    rfl
  have hsecond : (afterKey start (start.moveTo (e.behind ++ below)) indent indents tokens
      e.key).toToken.dropStale =
      some (afterKey start (start.moveTo (':' :: (e.value ++ below))) indent indents tokens
        e.key) := by
    have hbehind : e.behind ++ below = e.blanks ++ ':' :: (e.value ++ below) := by
      simp [QuotedEntry.behind]
    rw [toToken_afterKey ((Cursor.moveTo_suffix hscalar).trans hbehind) e.isBlank rfl,
      Cursor.moveTo_moveTo hscalar (hbehind ▸ (List.suffix_append ..).length_le)]
    refine dropStale_afterKey ?_ ?_ e.key
    · rw [hplace]
    · rw [hplace]
      simp only [lead, List.length_append, List.length_cons, List.length_nil]
      omega
  have hstart : start.rest = quoteMark e.single ::
      (e.body ++ quoteMark e.single :: (e.behind ++ below)) := by
    simp [hrest, QuotedEntry.text]
  rw [run_succ hfirst (closeBlocks_of_le hindent _) hstart,
    token_quotedText e.quoted (e.endsQuoted_behind below), Option.bind_some,
    run_succ hsecond (closeBlocks_of_le hcolumn _) (Cursor.moveTo_suffix hcolon),
    token_colon _ hvalue, colon_afterKey (Cursor.skip_moveTo hcolon)]
  rfl

end Scanner

end ChartSchema.Yaml
