import ChartSchema.Proofs.Yaml.Leads
import ChartSchema.Proofs.Yaml.ScanAfter
/-!
# Scanning entries that are put in front of a document

A document that starts with a key in column 0 is a block mapping whose entries begin there
(`Opening`), and entries in lines of their own can be put in front of it: the scanner opens the
mapping at the first of them and goes on in it, so that the tokens of the document follow those of
the entries, without the one that opened its own mapping (`scan?_lines`).

Between the entries the scanner keeps very little: the columns of the open collections, and that a
key may begin. Behind the colon of a key it is in one state, whatever entries came before
(`Scanner.inValue`), and from there on it reads the same (`Scanner.run_after`).
-/

namespace ChartSchema.Yaml

open BlockStyle (Key isKeyChar)

/-! ## How a document starts -/

/-- What follows the colon of a key: the end of the text or of the line, or a blank. -/
def opensValue : List Char → Bool
  | [] => true
  | '\r' :: '\n' :: _ => true
  | c :: _ => c == ' ' || c == '\t' || c == '\n'

/-- **A document that starts with a key in column 0**, behind lines without a token, or that has
only such lines. A key has to stand within 1024 characters. -/
inductive Opening : List Char → Prop
  /-- With a key. -/
  | key {text after : List Char} (key : Key) : key.text.length ≤ 1024 → opensValue after = true →
      Leads text (key.text ++ ':' :: after) → Opening text
  /-- Without any token. -/
  | empty {text : List Char} : Leads text [] → Opening text

/-! ## Entries -/

/-- A value that is a plain word: it is not empty, and no dash alone, which would begin an item. -/
def isWord (s : List Char) : Bool := !s.isEmpty && s != ['-'] && s.all isKeyChar

theorem isWord_iff {s : List Char} :
    isWord s = true ↔ s ≠ [] ∧ s ≠ ['-'] ∧ ∀ c ∈ s, isKeyChar c = true := by
  simp [isWord, and_assoc]

/-- An entry in a line of its own, whose value is a plain word. -/
structure WordEntry where
  /-- The key. -/
  key : Key
  /-- The value. -/
  value : List Char
  /-- The key is no longer than a key may be. -/
  short : key.text.length ≤ 1024
  /-- The value is a word. -/
  isWord : isWord value = true

/-- The line of an entry. -/
def WordEntry.line (e : WordEntry) : List Char := e.key.text ++ ':' :: ' ' :: (e.value ++ ['\n'])

/-- The tokens of an entry. -/
def WordEntry.tokens (e : WordEntry) : List Token :=
  [.key, .scalar .plain e.key.text, .value, .scalar .plain e.value]

variable {text rest : List Char}

namespace Scanner

/-! ## Scanning entries -/

/-- The scanner at the start of a line in front of an entry of the root, behind some tokens; `first`
says whether it is the first one. -/
def atEntry (first : Bool) (cursor : Cursor) (tokens : List Token) : Scanner :=
  { cursor, tokens, count := tokens.length
    indent := if first then -1 else 0
    indents := if first then [] else [-1] }

/-- The scanner in the value of an entry of the root, before any token of it. -/
def atValue (cursor : Cursor) : Scanner :=
  { cursor, indent := 0, indents := [-1], keyAllowed := false }

/-- The scanner behind the colon of a key of the root, as if the text began there. -/
def inValue (key after : List Char) : Scanner := atValue ⟨after, 0, 0, key.length + 1⟩

/-- The tokens in front of a value, last one first. -/
def keyTokens (first : Bool) (key : List Char) : List Token :=
  .value :: .scalar .plain key :: .key :: if first then [.blockMapping] else []

/-- A word starts a plain scalar, if it is no dash of an item and no marker between documents. -/
theorem token_plain (s : Scanner) (hflow : s.outer = []) {c : Char} {r : List Char}
    (hc : isKeyChar c = true) (hdash : c = '-' → atSpace r = false)
    (hmark : s.cursor.column = 0 → c ≠ '-' ∧ c ≠ '.') : s.token c r = s.plain := by
  have hne (x : Char) (hx : isKeyChar x = false) : (c == x) = false :=
    beq_eq_false_iff_ne.mpr fun heq => Bool.false_ne_true (hx.symm.trans (heq ▸ hc))
  have hdash' : (c == '-' && atSpace r) = false := by
    rw [Bool.and_eq_false_imp, beq_iff_eq]
    exact hdash
  have hmark' : (s.cursor.column == 0 && atDocumentMark (c :: r)) = false := by
    rw [Bool.and_eq_false_imp, beq_iff_eq]
    intro hcolumn
    unfold atDocumentMark
    split
    · next heq => exact absurd (List.cons.inj heq).1 (hmark hcolumn).1
    · next heq => exact absurd (List.cons.inj heq).1 (hmark hcolumn).2
    · rfl
  have hstarts : startsPlain false c r = true := by
    obtain ⟨hblank, hbreak, -, -⟩ := isKeyChar_plain hc
    by_cases heq : c = '-'
    · have hspace := hdash heq
      unfold startsPlain
      cases r with
      | nil => exact nomatch hspace
      | cons x r =>
        simp only [atSpace, Bool.or_eq_false_iff] at hspace
        simp [heq, hspace.1]
    · have hindicators : ("-?:,[]\x7b\x7d#&*!|>'\"%@\x60".toList.all fun x =>
          x == '-' || !isKeyChar x) = true := by decide
      have hcontains : "-?:,[]\x7b\x7d#&*!|>'\"%@\x60".toList.contains c = false := by
        refine Bool.eq_false_iff.mpr fun hmem => ?_
        have hind := List.all_eq_true.mp hindicators c (List.contains_iff_mem.mp hmem)
        simp [heq, hc] at hind
      unfold startsPlain
      simp only [hcontains, hblank, hbreak, Bool.not_false, Bool.and_true, Bool.true_or]
  have hin : s.inFlow = false := by rw [inFlow, hflow]; rfl
  unfold token
  simp only [hne '%' rfl, hne '[' rfl, hne '\x7b' rfl, hne ']' rfl, hne '\x7d' rfl, hne ',' rfl,
    hne '?' rfl, hne ':' rfl, hne '*' rfl, hne '&' rfl, hne '!' rfl, hne '|' rfl, hne '>' rfl,
    hne '\'' rfl, hne '"' rfl, hdash', hmark', hin, hstarts, Bool.and_false, Bool.false_and,
    Bool.or_false, Bool.false_eq_true, if_false, if_true]

theorem closeBlocks_of_le {s : Scanner} {column : Int} (h : s.indent ≤ column) (indents : List Int) :
    closeBlocks column indents s = s := by
  have hnot : ¬ column < s.indent := by omega
  cases indents <;> simp only [closeBlocks, hnot, if_false, ite_self]

theorem run_succ {s t : Scanner} (h : s.toToken.dropStale = some t)
    (hopen : t.closeBlocks t.cursor.column t.indents = t) {c : Char} {r : List Char}
    (hrest : t.cursor.rest = c :: r) (steps : Nat) :
    s.run (steps + 1) = (t.token c r).bind (·.run steps) := by
  rw [run, h]
  simp only [Option.bind_eq_bind, Option.bind_some, hopen, hrest]

/-- Outside of flow collections the scanner goes on to a token as follows. -/
theorem toToken_eq {s : Scanner} (hflow : s.outer = []) {rest : List Char} {ended : Bool}
    (h : skipToToken false (!s.keyAllowed) false (s.cursor.column == 0) false s.cursor.rest =
      (rest, ended)) :
    s.toToken = { s with
      cursor := s.cursor.moveTo rest, keyAllowed := s.keyAllowed || ended } := by
  have hin : s.inFlow = false := by rw [inFlow, hflow]; rfl
  have hmove : (s.moveTo rest).inFlow = false := hin
  unfold toToken
  simp only [hin, hmove, Bool.false_or, h, Bool.not_false, Bool.and_true]
  rfl

/-- The scanner between a key of the root and its colon: it remembers where the key starts. -/
def atColon (first : Bool) (key after : List Char) (index line : Nat) (tokens : List Token) :
    Scanner :=
  { atEntry first ⟨':' :: after, index + key.length, line, key.length⟩
      (.scalar .plain key :: tokens) with
    spot? := some ⟨tokens.length, ⟨key ++ ':' :: after, index, line, 0⟩, !first⟩
    keyAllowed := false }

theorem plain_key {first : Bool} {key : Key} {after : List Char} (hafter : atSpace after = true)
    (index line : Nat) (tokens : List Token) :
    (atEntry first ⟨key.text ++ ':' :: after, index, line, 0⟩ tokens).plain =
      some (atColon first key.text after index line tokens) := by
  obtain ⟨c, r, hcons, -⟩ := LineScan.text_cons key
  have hletters : ∀ c ∈ key.text, isKeyChar c = true := fun _ => key.isKeyChar_of_mem
  have hread (limit words : Nat) := readPlain_key hletters (hcons ▸ List.cons_ne_nil c r) hafter
    limit words
  have hmove : (⟨key.text ++ ':' :: after, index, line, 0⟩ : Cursor).moveTo (':' :: after) =
      ⟨':' :: after, index + key.text.length, line, key.text.length⟩ := by
    have hskip := Cursor.skip_inLine (fun c hc => (isKeyChar_plain (hletters c hc)).2.1)
      (':' :: after) index line 0
    rw [Cursor.moveTo, List.length_append, Nat.add_sub_cancel, hskip, Nat.zero_add]
  have hsave : (atEntry first ⟨key.text ++ ':' :: after, index, line, 0⟩ tokens).saveSpot =
      some { atEntry first ⟨key.text ++ ':' :: after, index, line, 0⟩ tokens with
        spot? := some ⟨tokens.length, ⟨key.text ++ ':' :: after, index, line, 0⟩, !first⟩ } := by
    cases first <;> rfl
  unfold plain
  show (readPlain false _ {} (_ + 1) (key.text ++ ':' :: after) >>= _) = _
  rw [hread]
  simp only [Option.bind_eq_bind, Option.bind_some, node, hsave, moveTo]
  rw [show (atEntry first ⟨key.text ++ ':' :: after, index, line, 0⟩ tokens).cursor =
    ⟨key.text ++ ':' :: after, index, line, 0⟩ from rfl, hmove]
  rfl

theorem run_colon {first : Bool} {key after : List Char} (hshort : key.length ≤ 1024)
    (hne : key ≠ []) (hafter : atSpace after = true) (index line : Nat) (tokens : List Token)
    (steps : Nat) :
    (atColon first key after index line tokens).run (steps + 1) = ((inValue key after).after
      ⟨index + key.length + 1, line, keyTokens first key ++ tokens⟩).run steps := by
  have hpos : key.length ≠ 0 := fun heq => hne (List.eq_nil_of_length_eq_zero heq)
  have htoken : (atColon first key after index line tokens).toToken =
      atColon first key after index line tokens := by
    rw [toToken_eq rfl (skipToToken_of_atToken rfl ..), Cursor.moveTo_rest]
    rfl
  have hkept : (atColon first key after index line tokens).dropStale =
      some (atColon first key after index line tokens) := by
    have hstale : (atColon first key after index line tokens).isStale
        ⟨tokens.length, ⟨key ++ ':' :: after, index, line, 0⟩, !first⟩ = false := by
      simp [isStale, atColon, atEntry]
      omega
    show ((if (atColon first key after index line tokens).isStale _ then _ else some (some _)) >>=
      fun spot? => _) = _
    rw [hstale]
    rfl
  have hindent : (atColon first key after index line tokens).indent ≤ (key.length : Int) := by
    show (if first then -1 else 0 : Int) ≤ _
    split <;> omega
  have hcolon : (atColon first key after index line tokens).token ':' after =
      (atColon first key after index line tokens).colon := by
    have hstart : ((atColon first key after index line tokens).cursor.column == 0) = false :=
      beq_eq_false_iff_ne.mpr hpos
    unfold token
    simp only [hstart, hafter]
    rfl
  have hvalue : (atColon first key after index line tokens).colon = some ((inValue key after).after
      ⟨index + key.length + 1, line, keyTokens first key ++ tokens⟩) := by
    have hlater : tokens.length + 1 - tokens.length = 1 := Nat.add_sub_cancel_left ..
    have hlater' : tokens.length + 1 + 1 - tokens.length = 2 := by omega
    cases first <;> simp [colon, atColon, atEntry, insertAt, openBlock, inFlow, plainToken, skip,
      push, hlater, hlater', inValue, atValue, Scanner.after, keyTokens, Cursor.after, Cursor.skip,
      isBreak]
  rw [run_succ (by rw [htoken, hkept]) (closeBlocks_of_le hindent _) rfl, hcolon, hvalue]
  rfl

/-- **The scanner arrives in front of an entry**, in column 0, or at the end of the text. -/
def Arrives (s : Scanner) (first : Bool) (rest : List Char) (tokens : List Token) : Prop :=
  ∃ cursor : Cursor, s.toToken = atEntry first cursor tokens ∧ cursor.rest = rest ∧
    (rest ≠ [] → cursor.column = 0)

/-- **The scanner reads a key and its colon**, and goes on in its value. That the word was a key
shows at the colon only, and its token is put in front of the word then. -/
theorem Arrives.run_key {s : Scanner} {first : Bool} {key : Key} {after : List Char}
    {tokens : List Token} (h : s.Arrives first (key.text ++ ':' :: after) tokens)
    (hshort : key.text.length ≤ 1024) (hafter : atSpace after = true) (steps : Nat) :
    s.run (steps + 2) = ((inValue key.text after).run steps).map
      ((keyTokens first key.text ++ tokens).reverse ++ ·) := by
  obtain ⟨c, r, hcons, halpha⟩ := LineScan.text_cons key
  have hne : key.text ≠ [] := hcons ▸ List.cons_ne_nil c r
  have hc : isKeyChar c = true := key.isKeyChar_of_mem (hcons ▸ List.mem_cons_self)
  have hdash : c ≠ '-' ∧ c ≠ '.' := by
    constructor <;> rintro rfl <;> exact absurd halpha (by decide)
  obtain ⟨⟨rest, index, line, column⟩, htoken, rfl, hcolumn⟩ := h
  obtain rfl : column = 0 := hcolumn (by simp)
  rw [run_succ (t := atEntry first ⟨key.text ++ ':' :: after, index, line, 0⟩ tokens)
    (c := c) (r := r ++ ':' :: after) (by rw [htoken]; rfl) (by cases first <;> rfl)
    (by rw [← List.cons_append, ← hcons]; rfl),
    token_plain _ rfl hc (fun heq => absurd heq hdash.1) (fun _ => hdash), plain_key hafter,
    Option.bind_some, run_colon hshort hne hafter]
  exact run_after _ steps rfl

/-- **The scanner ends** where it arrives at the end of the text. -/
theorem Arrives.run_end {s : Scanner} {first : Bool} {tokens : List Token}
    (h : s.Arrives first [] tokens) (steps : Nat) :
    s.run (steps + 1) =
      some (tokens.reverse ++
        if first then [Token.streamEnd] else [Token.blockEnd, Token.streamEnd]) := by
  obtain ⟨⟨rest, index, line, column⟩, htoken, rfl, -⟩ := h
  have hindent : (atEntry first ⟨[], index, line, column⟩ tokens).indent ≤ (column : Int) := by
    show (if first then -1 else 0 : Int) ≤ _
    split <;> omega
  have hkept : (atEntry first ⟨[], index, line, column⟩ tokens).dropStale =
      some (atEntry first ⟨[], index, line, column⟩ tokens) := rfl
  rw [run, htoken, hkept]
  simp only [Option.bind_eq_bind, Option.bind_some]
  rw [show (atEntry first ⟨[], index, line, column⟩ tokens).cursor.column = column from rfl,
    closeBlocks_of_le hindent]
  show (closeAll _ >>= _) = _
  cases first
  · simp [closeAll, closeBlocks, atEntry, inFlow, dropSpot, push]
  · simp [closeAll, closeBlocks, atEntry, inFlow, dropSpot, push]

theorem arrives_start (h : Leads text rest) :
    Arrives { cursor := { rest := text } } true rest [] := by
  obtain ⟨hrest, hcolumn⟩ := h.moveTo 0 0
  exact ⟨_, toToken_eq rfl (Prod.ext (h.skipToToken ..) rfl), hrest, hcolumn⟩

/-- **The scanner reads a word that is a value**, and arrives in front of the next entry. It looks
for more words behind this one, over blank lines and comments, and finds none. -/
theorem run_value (key : List Char) {word : List Char} (hword : isWord word = true)
    (h : Leads text rest) (steps : Nat) :
    ∃ s : Scanner, s.Arrives false rest [.scalar .plain word] ∧
      (inValue key (' ' :: (word ++ '\n' :: text))).run (steps + 1) = s.run steps := by
  obtain ⟨hne, hdash, hletters⟩ := isWord_iff.mp hword
  obtain ⟨c, r, rfl⟩ := List.exists_cons_of_ne_nil hne
  obtain ⟨left, hread, hsuffix, hlength, hskips⟩ :=
    readPlain_word hletters hne h (r ++ '\n' :: text).length
  have hc : isKeyChar c = true := hletters c List.mem_cons_self
  -- The word starts behind a space.
  let start : Cursor := ⟨c :: (r ++ '\n' :: text), 1, 0, key.length + 1 + 1⟩
  have hleft : left <:+ start.rest :=
    hsuffix.trans ((List.suffix_cons ..).trans (List.suffix_append (c :: r) _))
  have htoken : (inValue key (' ' :: start.rest)).toToken = atValue start := by
    have hskip : skipToToken false true false (key.length + 1 == 0) false (' ' :: start.rest) =
        (start.rest, false) := skipToToken_of_atToken (atToken_of_isKeyChar hc _) ..
    have hmove : (⟨' ' :: start.rest, 0, 0, key.length + 1⟩ : Cursor).moveTo start.rest = start := by
      rw [Cursor.moveTo, List.length_cons, Nat.add_sub_cancel_left]
      rfl
    rw [toToken_eq (s := inValue key (' ' :: start.rest)) rfl hskip]
    exact congrArg atValue hmove
  have hplain : (atValue start).plain =
      some (atEntry false (start.moveTo left) [.scalar .plain (c :: r)]) := by
    have hread' : readPlain false 1 {} (start.rest.length + 1) start.rest =
        some (c :: r, true, left) := hread
    unfold plain
    show (readPlain false 1 {} (start.rest.length + 1) start.rest >>= _) = _
    rw [hread']
    rfl
  have hdash : c = '-' → atSpace (r ++ '\n' :: text) = false := by
    rintro rfl
    cases r with
    | nil => exact absurd rfl hdash
    | cons x r =>
      obtain ⟨hblank, hbreak, -, -⟩ := isKeyChar_plain (hletters x (by simp))
      simp [atSpace, hblank, hbreak]
  refine ⟨atEntry false (start.moveTo left) [.scalar .plain (c :: r)], ?_, ?_⟩
  · have hskip : (skipToToken false false false ((start.moveTo left).column == 0) false
        (start.moveTo left).rest).1 = rest := by
      rw [Cursor.moveTo_suffix hleft]
      exact hskips ..
    have htail := toToken_eq (s := atEntry false (start.moveTo left) [.scalar .plain (c :: r)]) rfl
      (Prod.ext hskip rfl)
    have hmove : (start.moveTo left).moveTo rest = start.moveTo rest :=
      Cursor.moveTo_moveTo hleft hlength
    have hin : InLine (c :: r) := fun x hx => (isKeyChar_plain (hletters x hx)).2.1
    obtain ⟨index, hline⟩ := Cursor.moveTo_line hin false h.length_le 1 0 (key.length + 1 + 1)
    obtain ⟨hrest, hcolumn⟩ := h.moveTo index 1
    refine ⟨start.moveTo rest, ?_, (congrArg (·.rest) hline).trans hrest, fun hne => ?_⟩
    · exact htail.trans (congrArg (atEntry false · [.scalar .plain (c :: r)]) hmove)
    · exact (congrArg (·.column) hline).trans (hcolumn hne)
  · have hindent : (atValue start).indent ≤ (start.column : Int) := Int.natCast_nonneg _
    show (inValue key (' ' :: start.rest)).run (steps + 1) = _
    rw [run_succ (t := atValue start) (congrArg dropStale htoken) (closeBlocks_of_le hindent _) rfl,
      token_plain _ rfl hc hdash (fun hcolumn => absurd hcolumn (Nat.succ_ne_zero _)), hplain]
    rfl

/-- **The tokens of a text that stands behind an entry of the root**, whatever the entry. -/
def BehindEntry (text : List Char) (tokens : List Token) : Prop :=
  ∀ (key : List Char) {word : List Char}, isWord word = true → ∀ {steps}, text.length + 2 ≤ steps →
    (inValue key (' ' :: (word ++ '\n' :: text))).run steps = some (.scalar .plain word :: tokens)

/-- Behind an entry stand the entries of a document that starts with a key. -/
theorem BehindEntry.of_key {key : Key} {after : List Char} {tokens : List Token} {steps : Nat}
    (h : Leads text (key.text ++ ':' :: after)) (hshort : key.text.length ≤ 1024)
    (hafter : atSpace after = true) (hrun : (inValue key.text after).run steps = some tokens)
    (hsteps : steps < text.length) :
    BehindEntry text (.key :: .scalar .plain key.text :: .value :: tokens) := by
  intro before word hword more hmore
  obtain ⟨more, rfl⟩ : ∃ fewer, more = fewer + 2 + 1 := ⟨more - 3, by omega⟩
  obtain ⟨s, harrives, hvalue⟩ := run_value before hword h (more + 2)
  rw [hvalue, harrives.run_key hshort hafter, run_of_le (by omega) hrun]
  rfl

theorem BehindEntry.of_empty (h : Leads text []) : BehindEntry text [.blockEnd, .streamEnd] := by
  intro before word hword more hmore
  obtain ⟨more, rfl⟩ : ∃ fewer, more = fewer + 1 + 1 := ⟨more - 2, by omega⟩
  obtain ⟨s, harrives, hvalue⟩ := run_value before hword h (more + 1)
  rw [hvalue, harrives.run_end]
  rfl

theorem leads_line (e : WordEntry) (text : List Char) :
    Leads (e.line ++ text) (e.key.text ++ ':' :: ' ' :: (e.value ++ '\n' :: text)) := by
  obtain ⟨c, r, hcons, -⟩ := LineScan.text_cons e.key
  have htext : e.line ++ text = e.key.text ++ ':' :: ' ' :: (e.value ++ '\n' :: text) := by
    simp [WordEntry.line]
  have htoken : atToken (e.line ++ text) = true := by
    rw [htext, hcons]
    exact atToken_of_isKeyChar (e.key.isKeyChar_of_mem (hcons ▸ List.mem_cons_self)) _
  exact htext ▸ Leads.token htoken

theorem BehindEntry.cons {tokens : List Token} (e : WordEntry) (h : BehindEntry text tokens) :
    BehindEntry (e.line ++ text) (e.tokens ++ tokens) := by
  have hlength : text.length + 3 ≤ (e.line ++ text).length := by
    simp only [WordEntry.line, List.length_append, List.length_cons]
    omega
  exact .of_key (leads_line e text) e.short rfl (h e.key.text e.isWord (Nat.le_refl _)) hlength

theorem BehindEntry.append {tokens : List Token} (h : BehindEntry text tokens)
    (entries : List WordEntry) :
    BehindEntry (entries.flatMap (·.line) ++ text) (entries.flatMap (·.tokens) ++ tokens) := by
  induction entries with
  | nil => exact h
  | cons e rest ih =>
    rw [List.flatMap_cons, List.flatMap_cons, List.append_assoc, List.append_assoc]
    exact ih.cons e

end Scanner

theorem isAllowed_of_isKeyChar {c : Char} (h : isKeyChar c = true) : isAllowed c = true := by
  have hrange (hle : 0x20 ≤ c.toNat) (hge : c.toNat ≤ 0x7E) : isAllowed c = true := by
    simp [isAllowed, hle, hge]
  simp only [isKeyChar, Char.isAlphanum, Char.isDigit, Bool.or_eq_true, Bool.and_eq_true,
    decide_eq_true_eq, List.contains_eq_mem, List.mem_cons, List.not_mem_nil, or_false,
    UInt32.le_iff_toNat_le, ge_iff_le] at h
  rcases h with (halpha | hdigit) | rfl | rfl | rfl | rfl
  · have hletter := LineScan.toNat_of_isAlpha halpha
    exact hrange (by omega) (by omega)
  · have hdigit' : 0x30 ≤ c.toNat ∧ c.toNat ≤ 0x39 := hdigit
    exact hrange (by omega) (by omega)
  all_goals rfl

theorem WordEntry.all_isAllowed_line (e : WordEntry) : e.line.all isAllowed = true := by
  obtain ⟨-, -, hletters⟩ := isWord_iff.mp e.isWord
  have hkey : e.key.text.all isAllowed = true :=
    List.all_eq_true.mpr fun _ hc => isAllowed_of_isKeyChar (e.key.isKeyChar_of_mem hc)
  have hword : e.value.all isAllowed = true :=
    List.all_eq_true.mpr fun c hc => isAllowed_of_isKeyChar (hletters c hc)
  simp only [WordEntry.line, List.all_append, List.all_cons, hkey, hword]
  rfl

/-- **Entries in front of a text** give their tokens in front of those of the text, in one mapping.
The mapping is opened by the first key, so a text that starts with a key goes on in it. -/
theorem scan?_lines {tokens : List Token} (h : Scanner.BehindEntry text tokens)
    (hallowed : text.all isAllowed = true) (e : WordEntry) (entries : List WordEntry) :
    Token.scan? ((e :: entries).flatMap (·.line) ++ text) =
      some (.blockMapping :: ((e :: entries).flatMap (·.tokens) ++ tokens)) := by
  have hall : ((e :: entries).flatMap (·.line) ++ text).all isAllowed = true := by
    simp only [List.all_append, List.all_flatMap, hallowed, WordEntry.all_isAllowed_line,
      Bool.and_true, List.all_eq_true, implies_true]
  have hrest := h.append entries
  rw [Token.scan?, if_pos hall, List.flatMap_cons, List.append_assoc]
  generalize entries.flatMap (·.line) ++ text = below at hrest ⊢
  have hlength : below.length + 3 ≤ (e.line ++ below).length := by
    simp only [WordEntry.line, List.length_append, List.length_cons]
    omega
  obtain ⟨steps, hsteps⟩ : ∃ fewer, (e.line ++ below).length = fewer + 1 :=
    ⟨(e.line ++ below).length - 1, by omega⟩
  rw [hsteps, (Scanner.arrives_start (Scanner.leads_line e below)).run_key e.short rfl,
    hrest e.key.text e.isWord (by omega)]
  rfl

theorem atSpace_of_opensValue {after : List Char} (h : opensValue after = true) :
    atSpace after = true := by
  unfold opensValue at h
  split at h
  · rfl
  · rfl
  · simp only [Bool.or_eq_true, beq_iff_eq] at h
    rcases h with (rfl | rfl) | rfl <;> rfl

/-- **What stands below entries** that are put in front of a text: an empty line and the text, or
nothing at all where the text has no tokens. -/
inductive Below (text : List Char) : List Char → Prop
  /-- An empty line and the text. -/
  | line : Below text ('\n' :: text)
  /-- Nothing. -/
  | nothing : Leads text [] → Below text []

/-- **The tokens of a document that starts with a key** begin with that of its root mapping, and those
behind it stand behind any entry in front of the document. -/
theorem Opening.scan? {tokens : List Token} (h : Opening text)
    (hscan : Token.scan? text = some tokens) :
    ∃ body, (tokens = .blockMapping :: body ∨
        tokens = [.streamEnd] ∧ body = [.blockEnd, .streamEnd]) ∧
      ∀ {below}, Below text below →
        Scanner.BehindEntry below body ∧ below.all isAllowed = true := by
  unfold Token.scan? at hscan
  split at hscan
  · next hall =>
    have hline : ('\n' :: text).all isAllowed = true := hall
    cases h with
    | empty hleads =>
      rw [(Scanner.arrives_start hleads).run_end] at hscan
      refine ⟨_, .inr ⟨(Option.some.inj hscan).symm, rfl⟩, fun hbelow => ?_⟩
      cases hbelow with
      | line => exact ⟨.of_empty (.blank 0 false hleads), hline⟩
      | nothing => exact ⟨.of_empty (.token rfl), rfl⟩
    | key key hshort hafter hleads =>
      have hafter' := atSpace_of_opensValue hafter
      have hlength := hleads.length_le
      rw [List.length_append, List.length_cons] at hlength
      obtain ⟨steps, hsteps⟩ : ∃ fewer, text.length = fewer + 1 := ⟨text.length - 1, by omega⟩
      rw [hsteps, (Scanner.arrives_start hleads).run_key hshort hafter'] at hscan
      obtain ⟨body, hbody, rfl⟩ := Option.map_eq_some_iff.mp hscan
      refine ⟨_, .inl rfl, fun hbelow => ?_⟩
      cases hbelow with
      | line =>
        have hless : steps < ('\n' :: text).length := by rw [List.length_cons]; omega
        exact ⟨.of_key (.blank 0 false hleads) hshort hafter' hbody hless, hline⟩
      | nothing hnothing =>
        have hnil := (hleads.skipToToken true false).symm.trans (hnothing.skipToToken true false)
        exact absurd hnil (by simp)
  · exact nomatch hscan

end ChartSchema.Yaml
