import ChartSchema.Proofs.Schema.BlockDocument
import ChartSchema.Proofs.Schema.ScanLine
import ChartSchema.Yaml.Token.Scan
/-!
# Lines without a token, and plain words

Blank lines and comments have no tokens. They may stand in front of the first token of a text and
behind a scalar that is the last of its line, and there are two ways to get over them: between tokens
they are skipped (`Leads.skipToToken`), and behind a plain scalar they are the gap in which the
scalar might go on (`Leads.readGap`), up to a comment, from where they are skipped again. Both ways
arrive at the same place (`GapOver.skips`), which is why a plain word at the end of a line does not
depend on what stands below it (`readPlain_word`).
-/

namespace ChartSchema.Yaml

open BlockStyle (spaces isKeyChar)

/-! ## Lines -/

/-- The end of a line, perhaps with a carriage return. -/
def lineEnd (withReturn : Bool) : List Char := if withReturn then ['\r', '\n'] else ['\n']

/-- A text within one line. -/
def InLine (s : List Char) : Prop := ∀ c ∈ s, isBreak c = false

/-- Whether a text is at its end or at a character that starts a token. -/
def atToken : List Char → Bool
  | [] => true
  | c :: _ => !(isBreak c || c == '\ufeff' || isBlank c || c == '#')

/-- **A text with lines without a token** in front of one that starts with a token, or in front of
nothing: blank lines and comments, indented by spaces if at all. -/
inductive Leads : List Char → List Char → Prop
  /-- A text that starts with a token. -/
  | token {text : List Char} : atToken text = true → Leads text text
  /-- A blank line that nothing ends. -/
  | lastBlank (indent : Nat) : Leads (spaces indent) []
  /-- A comment that nothing ends. -/
  | lastComment (indent : Nat) {remark : List Char} : InLine remark →
      Leads (spaces indent ++ '#' :: remark) []
  /-- A blank line. -/
  | blank (indent : Nat) (withReturn : Bool) {text rest : List Char} : Leads text rest →
      Leads (spaces indent ++ (lineEnd withReturn ++ text)) rest
  /-- A comment. -/
  | comment (indent : Nat) {remark : List Char} (withReturn : Bool) {text rest : List Char} :
      InLine remark → Leads text rest →
      Leads (spaces indent ++ '#' :: (remark ++ (lineEnd withReturn ++ text))) rest

/-! ## Skipping what is no token -/

theorem skipToToken_of_atToken {s : List Char} (h : atToken s = true)
    (tabsLater tabs lineStart ended : Bool) :
    skipToToken tabsLater tabs false lineStart ended s = (s, ended) := by
  cases s with
  | nil => rfl
  | cons c r =>
    simp only [atToken, isBlank, Bool.not_eq_true', Bool.or_eq_false_iff] at h
    obtain ⟨⟨⟨hbreak, hmark⟩, hspace, htab⟩, hcomment⟩ := h
    simp [skipToToken, hbreak, hmark, hspace, htab, hcomment]

theorem skipToToken_spaces (n : Nat) (lineStart ended : Bool) (s : List Char) :
    ∃ lineStart', skipToToken false false false lineStart ended (spaces n ++ s) =
      skipToToken false false false lineStart' ended s := by
  induction n generalizing lineStart with
  | zero => exact ⟨lineStart, rfl⟩
  | succ n ih => exact ih false

theorem skipToToken_remark {remark : List Char} (h : InLine remark) (lineStart ended : Bool)
    (s : List Char) :
    ∃ lineStart', skipToToken false false true lineStart ended (remark ++ s) =
      skipToToken false false true lineStart' ended s := by
  induction remark generalizing lineStart with
  | nil => exact ⟨lineStart, rfl⟩
  | cons c remark ih =>
    obtain ⟨lineStart', ih⟩ := ih (fun x hx => h x (List.mem_cons_of_mem _ hx)) false
    refine ⟨lineStart', ?_⟩
    rw [List.cons_append, skipToToken, h c List.mem_cons_self]
    exact ih

theorem skipToToken_lineEnd (inComment lineStart ended withReturn : Bool) (s : List Char) :
    skipToToken false false inComment lineStart ended (lineEnd withReturn ++ s) =
      skipToToken false false false true true s := by
  cases withReturn <;> rfl

theorem skipToToken_comment (indent : Nat) {remark : List Char} (h : InLine remark)
    (lineStart ended : Bool) (s : List Char) :
    ∃ lineStart', skipToToken false false false lineStart ended
        (spaces indent ++ '#' :: (remark ++ s)) =
      skipToToken false false true lineStart' ended s := by
  obtain ⟨start, hspaces⟩ := skipToToken_spaces indent lineStart ended ('#' :: (remark ++ s))
  obtain ⟨lineStart', hremark⟩ := skipToToken_remark h false ended s
  exact ⟨lineStart', hspaces.trans hremark⟩

variable {text rest : List Char}

/-- **Lines without a token are skipped**, blank ones and comments, up to the first token or the
end. -/
theorem Leads.skipToToken (h : Leads text rest) (lineStart ended : Bool) :
    (skipToToken false false false lineStart ended text).1 = rest := by
  induction h generalizing lineStart ended with
  | token h => rw [skipToToken_of_atToken h]
  | lastBlank indent =>
    obtain ⟨_, hspaces⟩ := skipToToken_spaces indent lineStart ended []
    rw [List.append_nil] at hspaces
    rw [hspaces, Yaml.skipToToken]
  | lastComment indent hremark =>
    obtain ⟨_, hcomment⟩ := skipToToken_comment indent hremark lineStart ended []
    rw [List.append_nil] at hcomment
    rw [hcomment, Yaml.skipToToken]
  | blank indent withReturn _ ih =>
    obtain ⟨_, hspaces⟩ := skipToToken_spaces indent lineStart ended (lineEnd withReturn ++ _)
    rw [hspaces, skipToToken_lineEnd, ih]
  | comment indent withReturn hremark _ ih =>
    obtain ⟨_, hcomment⟩ := skipToToken_comment indent hremark lineStart ended
      (lineEnd withReturn ++ _)
    rw [hcomment, skipToToken_lineEnd, ih]

/-! ## Going on in a text -/

theorem Cursor.skip_add (m n : Nat) (c : Cursor) : c.skip (m + n) = (c.skip m).skip n := by
  induction m generalizing c with
  | zero => rw [Nat.zero_add, skip]
  | succ m ih =>
    obtain ⟨rest, index, line, column⟩ := c
    rw [Nat.add_right_comm, skip.eq_def (m + n + 1), skip.eq_def (m + 1)]
    dsimp only
    split
    · cases n <;> rfl
    · exact ih _
    · split <;> exact ih _

theorem Cursor.skip_rest (n : Nat) (c : Cursor) : (c.skip n).rest = c.rest.drop n := by
  induction n generalizing c with
  | zero => rfl
  | succ n ih =>
    obtain ⟨rest, index, line, column⟩ := c
    rw [skip.eq_def]
    dsimp only
    split
    · rfl
    · exact ih _
    · split <;> exact ih _

theorem Cursor.moveTo_suffix {c : Cursor} {left : List Char} (h : left <:+ c.rest) :
    (c.moveTo left).rest = left := by
  rw [moveTo, skip_rest]
  exact (List.suffix_iff_eq_drop.mp h).symm

theorem Cursor.moveTo_moveTo {c : Cursor} {left rest : List Char}
    (hleft : left <:+ c.rest) (hrest : rest.length ≤ left.length) :
    (c.moveTo left).moveTo rest = c.moveTo rest := by
  have hlength := hleft.length_le
  rw [moveTo, moveTo_suffix hleft, moveTo, moveTo, ← skip_add]
  congr 1
  omega

theorem Cursor.moveTo_rest (c : Cursor) : c.moveTo c.rest = c := by
  rw [moveTo, Nat.sub_self, skip]

theorem Cursor.skip_inLine {s : List Char} (h : InLine s) (rest : List Char)
    (index line column : Nat) :
    (⟨s ++ rest, index, line, column⟩ : Cursor).skip s.length =
      ⟨rest, index + s.length, line, column + s.length⟩ := by
  induction s generalizing index column with
  | nil => rfl
  | cons c s ih =>
    have hc : isBreak c = false := h c List.mem_cons_self
    have hreturn : c ≠ '\r' := by rintro rfl; exact absurd hc (by decide)
    rw [List.length_cons, List.cons_append, skip.eq_def]
    dsimp only
    split
    · next heq => exact nomatch heq
    · next heq => exact absurd (List.cons.inj heq).1 hreturn
    · next heq =>
      obtain ⟨rfl, rfl⟩ := List.cons.inj heq
      rw [hc, if_neg Bool.false_ne_true, ih (fun x hx => h x (List.mem_cons_of_mem _ hx))]
      simp only [Nat.add_assoc, Nat.add_comm 1]

/-- The end of a line leads to the start of the next one. -/
theorem Cursor.skip_lineEnd (withReturn : Bool) (rest : List Char) (index line column : Nat) :
    (⟨lineEnd withReturn ++ rest, index, line, column⟩ : Cursor).skip (lineEnd withReturn).length =
      ⟨rest, index + (lineEnd withReturn).length, line + 1, 0⟩ := by
  cases withReturn <;> rfl

theorem InLine.spaces (n : Nat) : InLine (BlockStyle.spaces n) := by
  intro c hc
  rw [List.eq_of_mem_replicate hc]
  rfl

theorem InLine.append {a b : List Char} (ha : InLine a) (hb : InLine b) : InLine (a ++ b) := by
  intro c hc
  exact (List.mem_append.mp hc).elim (ha c) (hb c)

theorem InLine.cons {c : Char} {s : List Char} (hc : isBreak c = false) (hs : InLine s) :
    InLine (c :: s) := by
  intro x hx
  rcases List.mem_cons.mp hx with rfl | hx
  · exact hc
  · exact hs x hx

theorem Cursor.skip_line {s : List Char} (h : InLine s) (withReturn : Bool) (rest : List Char)
    (index line column : Nat) : ∃ index',
    (⟨s ++ (lineEnd withReturn ++ rest), index, line, column⟩ : Cursor).skip
      (s.length + (lineEnd withReturn).length) = ⟨rest, index', line + 1, 0⟩ := by
  rw [skip_add, skip_inLine h, skip_lineEnd]
  exact ⟨_, rfl⟩

theorem Cursor.moveTo_line {s : List Char} (h : InLine s) (withReturn : Bool)
    (hle : rest.length ≤ text.length) (index line column : Nat) : ∃ index',
    (⟨s ++ (lineEnd withReturn ++ text), index, line, column⟩ : Cursor).moveTo rest =
      (⟨text, index', line + 1, 0⟩ : Cursor).moveTo rest := by
  obtain ⟨index', hline⟩ := skip_line h withReturn text index line column
  have hlength : (s ++ (lineEnd withReturn ++ text)).length - rest.length =
      s.length + (lineEnd withReturn).length + (text.length - rest.length) := by
    simp only [List.length_append]
    omega
  refine ⟨index', ?_⟩
  rw [moveTo, hlength, skip_add, hline, moveTo]

/-- What lines without a token lead to is the rest of the text. -/
theorem Leads.suffix (h : Leads text rest) : rest <:+ text := by
  induction h with
  | token => exact List.suffix_refl _
  | lastBlank | lastComment => exact List.nil_suffix
  | blank indent withReturn _ ih =>
    exact (ih.trans (List.suffix_append _ _)).trans (List.suffix_append _ _)
  | @comment indent remark withReturn text _ _ _ ih =>
    have hremark := (ih.trans (List.suffix_append (lineEnd withReturn) text)).trans
      (List.suffix_append remark _)
    exact (hremark.trans (List.suffix_cons '#' _)).trans (List.suffix_append _ _)

theorem Leads.length_le (h : Leads text rest) : rest.length ≤ text.length := h.suffix.length_le

/-- **Lines without a token lead to column 0**, unless nothing follows. The last of them may end
without a line break. -/
theorem Leads.moveTo (h : Leads text rest) (index line : Nat) :
    ((⟨text, index, line, 0⟩ : Cursor).moveTo rest).rest = rest ∧
      (rest ≠ [] → ((⟨text, index, line, 0⟩ : Cursor).moveTo rest).column = 0) := by
  have hnil (c : Cursor) : (c.moveTo []).rest = [] := by
    rw [Cursor.moveTo, Cursor.skip_rest]
    exact List.drop_length
  induction h generalizing index line with
  | @token text =>
    have hstay := Cursor.moveTo_rest ⟨text, index, line, 0⟩
    exact ⟨congrArg (·.rest) hstay, fun _ => congrArg (·.column) hstay⟩
  | lastBlank | lastComment => exact ⟨hnil _, (absurd rfl ·)⟩
  | blank indent withReturn h ih =>
    obtain ⟨index', hline⟩ := Cursor.moveTo_line (.spaces indent) withReturn h.length_le index line 0
    rw [hline]
    exact ih index' (line + 1)
  | comment indent withReturn hremark h ih =>
    have hin := (InLine.spaces indent).append (.cons (c := '#') rfl hremark)
    obtain ⟨index', hline⟩ := Cursor.moveTo_line hin withReturn h.length_le index line 0
    rw [List.append_assoc, List.cons_append] at hline
    rw [hline]
    exact ih index' (line + 1)

/-! ## Plain words -/

theorem not_blank_of_not_isBlank {c : Char} (h : Text.isBlank c = false) :
    isBlank c = false ∧ isBreak c = false := by
  refine ⟨Bool.eq_false_iff.mpr fun hblank => ?_, Bool.eq_false_iff.mpr fun hbreak => ?_⟩
  · simp only [isBlank, Bool.or_eq_true, beq_iff_eq] at hblank
    rcases hblank with rfl | rfl <;> exact absurd h (by decide)
  · simp only [isBreak, Bool.or_eq_true, beq_iff_eq] at hbreak
    rcases hbreak with (((rfl | rfl) | rfl) | rfl) | rfl <;> exact absurd h (by decide)

/-- The characters of keys and words mean nothing to the scanner. -/
theorem isKeyChar_plain {c : Char} (h : isKeyChar c = true) :
    isBlank c = false ∧ isBreak c = false ∧ c ≠ ':' ∧ c ≠ '#' := by
  obtain ⟨hblank, hcolon, hcomment⟩ := LineScan.isKeyChar_ne h
  obtain ⟨hblank, hbreak⟩ := not_blank_of_not_isBlank hblank
  exact ⟨hblank, hbreak, hcolon, hcomment⟩

theorem atToken_of_isKeyChar {c : Char} (h : isKeyChar c = true) (r : List Char) :
    atToken (c :: r) = true := by
  obtain ⟨hblank, hbreak, -, hcomment⟩ := isKeyChar_plain h
  have hmark : c ≠ '\ufeff' := by
    rintro rfl
    exact absurd h (by decide)
  simp [atToken, hblank, hbreak, hcomment, hmark]

theorem readPlainWord_append {word s : List Char} (hword : ∀ c ∈ word, isKeyChar c = true)
    (hs : readPlainWord false s = some ([], s)) :
    readPlainWord false (word ++ s) = some (word, s) := by
  induction word with
  | nil => exact hs
  | cons c word ih =>
    obtain ⟨hblank, hbreak, hcolon, -⟩ := isKeyChar_plain (hword c List.mem_cons_self)
    rw [List.cons_append, readPlainWord, ih fun x hx => hword x (List.mem_cons_of_mem _ hx)]
    simp [hblank, hbreak, hcolon]

theorem readGap_spaces (limit n : Nat) {g : Gap} (h : g.hasBreak = true) (s : List Char) :
    readGap limit g (spaces n ++ s) = readGap limit { g with column := g.column + n } s := by
  induction n generalizing g with
  | zero => rfl
  | succ n ih =>
    have hadd : g.addBlank limit ' ' = { g with column := g.column + 1 } := by
      simp [Gap.addBlank, h]
    have hstep : readGap limit g (spaces (n + 1) ++ s) =
        readGap limit (g.addBlank limit ' ') (spaces n ++ s) := rfl
    rw [hstep, hadd, ih (g := { g with column := g.column + 1 }) h]
    simp only [Nat.add_assoc, Nat.add_comm 1]

theorem readGap_lineEnd (limit : Nat) (g : Gap) (withReturn : Bool) (s : List Char) :
    readGap limit g (lineEnd withReturn ++ s) = readGap limit (g.addBreak '\n') s := by
  cases withReturn <;> rfl

theorem readGap_stop (limit : Nat) (g : Gap) {s : List Char}
    (h : atToken s = true ∨ s.head? = some '#') : readGap limit g s = (g, s) := by
  cases s with
  | nil => rfl
  | cons c r =>
    have hplain : isBlank c = false ∧ isBreak c = false := by
      rcases h with h | h
      · simp only [atToken, Bool.not_eq_true', Bool.or_eq_false_iff] at h
        exact ⟨h.1.2, h.1.1.1⟩
      · obtain rfl := Option.some.inj h
        exact ⟨rfl, rfl⟩
    have hreturn : c ≠ '\r' := by
      rintro rfl
      exact absurd hplain.2 (by decide)
    rw [readGap.eq_def]
    split
    · next heq => exact nomatch heq
    · next heq => exact absurd (List.cons.inj heq).1 hreturn
    · next heq =>
      obtain ⟨rfl, rfl⟩ := List.cons.inj heq
      simp [hplain]

/-- **A gap over lines without a token**: it ends in column 0, at the end of the text, or at a
comment, and what is left leads to the same. -/
structure GapOver (text rest : List Char) (g g' : Gap) (left : List Char) : Prop where
  /-- A line ended. -/
  hasBreak : g'.hasBreak = true
  /-- There was no tab. -/
  badTab : g'.badTab = g.badTab
  /-- Where it ends. -/
  stops : g'.column = 0 ∨ left = [] ∨ left.head? = some '#'
  /-- What is left leads to the same. -/
  skips : ∀ lineStart ended, (skipToToken false false false lineStart ended left).1 = rest
  /-- It is a tail of the text. -/
  suffix : left <:+ text
  /-- It is not less than what it leads to. -/
  le_length : rest.length ≤ left.length

theorem Leads.readGap (h : Leads text rest) (limit : Nat) {g : Gap} (hbreak : g.hasBreak = true)
    (hcolumn : g.column = 0) :
    ∃ g' left, readGap limit g text = (g', left) ∧ GapOver text rest g g' left := by
  induction h generalizing g with
  | @token text h =>
    refine ⟨g, text, readGap_stop limit g (.inl h), hbreak, rfl, .inl hcolumn, fun _ _ => ?_,
      List.suffix_refl _, Nat.le_refl _⟩
    rw [skipToToken_of_atToken h]
  | lastBlank indent =>
    have hgap := readGap_spaces limit indent hbreak []
    rw [List.append_nil] at hgap
    exact ⟨_, _, hgap, hbreak, rfl, .inr (.inl rfl), fun _ _ => rfl, List.nil_suffix, Nat.zero_le _⟩
  | @lastComment indent remark hremark =>
    have hgap := (readGap_spaces limit indent hbreak ('#' :: remark)).trans
      (readGap_stop limit _ (.inr rfl))
    exact ⟨_, _, hgap, hbreak, rfl, .inr (.inr rfl), (Leads.lastComment 0 hremark).skipToToken,
      List.suffix_append .., Nat.zero_le _⟩
  | @blank indent withReturn text rest h ih =>
    have hadd : ({ g with column := g.column + indent } : Gap).addBreak '\n' =
        { g with more := g.more ++ ['\n'], column := 0 } := if_pos hbreak
    have hgap := (readGap_spaces limit indent hbreak (lineEnd withReturn ++ text)).trans
      (readGap_lineEnd limit _ withReturn text)
    rw [hadd] at hgap
    obtain ⟨g', left, hread, hover⟩ :=
      ih (g := { g with more := g.more ++ ['\n'], column := 0 }) hbreak rfl
    exact ⟨g', left, hgap.trans hread, { hover with
      suffix := (hover.suffix.trans (List.suffix_append ..)).trans (List.suffix_append ..) }⟩
  | @comment indent remark withReturn text rest hremark h ih =>
    have hgap := (readGap_spaces limit indent hbreak
      ('#' :: (remark ++ (lineEnd withReturn ++ text)))).trans (readGap_stop limit _ (.inr rfl))
    have hskips := (Leads.comment 0 withReturn hremark h).skipToToken
    refine ⟨_, _, hgap, hbreak, rfl, .inr (.inr rfl), hskips, List.suffix_append .., ?_⟩
    have := h.length_le
    simp only [List.length_append, List.length_cons]
    omega

/-- A plain scalar ends at a comment and at the end of the text. -/
theorem readPlain_stop (limit words : Nat) {g : Gap} (hbreak : g.hasBreak = true) {s : List Char}
    (h : s = [] ∨ s.head? = some '#') :
    readPlain false limit g (words + 1) s = some ([], true, s) := by
  rw [readPlain, hbreak]
  rcases h with rfl | h
  · simp [readPlainWord, hbreak, atDocumentMark]
  · rw [h]
    simp

/-- **A word at the end of a line is a plain scalar**, which goes on over the lines without a token
below it. -/
theorem readPlain_word {word : List Char} (hword : ∀ c ∈ word, isKeyChar c = true)
    (hne : word ≠ []) (h : Leads text rest) (words : Nat) :
    ∃ left, readPlain false 1 {} (words + 2) (word ++ '\n' :: text) = some (word, true, left) ∧
      left <:+ text ∧ rest.length ≤ left.length ∧
      ∀ lineStart ended, (skipToToken false false false lineStart ended left).1 = rest := by
  obtain ⟨g, left, hgap, hover⟩ := h.readGap 1 (g := ({} : Gap).addBreak '\n') rfl rfl
  refine ⟨left, ?_, hover.suffix, hover.le_length, hover.skips⟩
  have hend : readPlainWord false (word ++ '\n' :: text) = some (word, '\n' :: text) :=
    readPlainWord_append hword rfl
  have hread : Yaml.readGap 1 {} ('\n' :: text) = (g, left) := hgap
  have hhead : ((word ++ '\n' :: text).head? == some '#') = false := by
    cases word with
    | nil => exact absurd rfl hne
    | cons c word =>
      exact beq_eq_false_iff_ne.mpr fun heq =>
        (isKeyChar_plain (hword c List.mem_cons_self)).2.2.2 (Option.some.inj heq)
  have hempty : word.isEmpty = false := List.isEmpty_eq_false_iff.mpr hne
  have hbad : g.badTab = false := hover.badTab
  rw [readPlain, hhead, if_neg (by simp [Gap.hasBreak])]
  simp only [hend, Option.bind_eq_bind, Option.bind_some, hempty, Bool.false_eq_true, if_false,
    hread, hbad, hover.hasBreak]
  have hgo : (('\n' :: text).isEmpty || !atSpace ('\n' :: text)) = false := rfl
  rw [hgo, if_neg Bool.false_ne_true, Bool.not_false, Bool.true_and, Bool.true_and]
  by_cases hcolumn : g.column < 1
  · rw [if_pos (decide_eq_true hcolumn)]
    rfl
  · have hstop := hover.stops.resolve_left (by omega)
    rw [if_neg (by simp [hcolumn]), readPlain_stop 1 words hover.hasBreak hstop]
    show some (word ++ [], true, left) = _
    rw [List.append_nil]

/-- A key is a plain scalar up to its colon. -/
theorem readPlain_key {word after : List Char} (hword : ∀ c ∈ word, isKeyChar c = true)
    (hne : word ≠ []) (hafter : atSpace after = true) (limit words : Nat) :
    readPlain false limit {} (words + 1) (word ++ ':' :: after) =
      some (word, false, ':' :: after) := by
  have hend : readPlainWord false (word ++ ':' :: after) = some (word, ':' :: after) :=
    readPlainWord_append hword (by simp [readPlainWord, isBlank, isBreak, hafter])
  have hhead : ((word ++ ':' :: after).head? == some '#') = false := by
    cases word with
    | nil => exact absurd rfl hne
    | cons c word =>
      exact beq_eq_false_iff_ne.mpr fun heq =>
        (isKeyChar_plain (hword c List.mem_cons_self)).2.2.2 (Option.some.inj heq)
  have hempty : word.isEmpty = false := List.isEmpty_eq_false_iff.mpr hne
  rw [readPlain, hhead, if_neg (by simp [Gap.hasBreak])]
  simp only [hend, Option.bind_eq_bind, Option.bind_some, hempty, Bool.false_eq_true, if_false]
  rfl

end ChartSchema.Yaml
