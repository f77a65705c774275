import ChartSchema.Proofs.Schema.BlockDocument
import ChartSchema.Proofs.Text.Lines
/-!
# The scanner on one line

What `LineScan.State` does with a line of a document in block style. Behind the indentation of
such a line come the dashes of the sequences that begin on it, and then a key, a scalar or
nothing. `State.goOn` is what the scanner does with a line from some column on, and it obeys one
equation for each of these: a dash enters an item and goes on behind it, a key is recorded, a
scalar changes nothing.

Comment lines and blank lines before the line only leave the comments that wait for its key, and
close the block scalar that may still be open. `State.Arrives` says that the scanner comes to a
column of a line in this manner, with whatever stands above that line.
-/

namespace ChartSchema

namespace LineScan

open Text BlockStyle

/-! ## What starts a node of a block -/

/-- Whether a text starts with a dash or with a letter, as the first line of a mapping or sequence
does behind its indentation and marks. -/
def StartsNode (content : List Char) : Prop :=
  (afterDash? content).isSome = true ∨ ∃ c rest, content = c :: rest ∧ c.isAlpha = true

theorem afterDash?_dash (gap : Nat) (content : List Char) :
    afterDash? (dash gap ++ content) = some (spaces gap ++ content) := rfl

theorem StartsNode.of_dash (gap : Nat) (content : List Char) : StartsNode (dash gap ++ content) :=
  .inl rfl

theorem not_isBlank_of_lt {c : Char} (h : 0x20 < c.toNat) (h' : c.toNat < 0x80) :
    isBlank c = false := by
  simp only [isBlank, Bool.or_eq_false_iff, Bool.and_eq_false_iff, decide_eq_false_iff_not,
    beq_eq_false_iff_ne]
  omega

theorem toNat_of_isAlpha {c : Char} (h : c.isAlpha = true) :
    0x41 ≤ c.toNat ∧ c.toNat ≤ 0x5A ∨ 0x61 ≤ c.toNat ∧ c.toNat ≤ 0x7A := by
  have hcase : c.isUpper = true ∨ c.isLower = true := Bool.or_eq_true_iff.mp h
  refine hcase.imp (fun hupper => ?_) fun hlower => ?_
  · have hrange : 'A'.val ≤ c.val ∧ c.val ≤ 'Z'.val := of_decide_eq_true hupper
    exact hrange
  · obtain ⟨hfirst, hlast⟩ := Bool.and_eq_true_iff.mp hlower
    exact ⟨of_decide_eq_true hfirst, of_decide_eq_true hlast⟩

/-- The characters that keys and dashes start with: no blank, no comment sign, none of the signs
of a scalar. -/
theorem StartsNode.head {content : List Char} (h : StartsNode content) :
    ∃ c rest, content = c :: rest ∧ isBlank c = false ∧ c ∉ ['#', '&', '!', '|', '>', ' '] := by
  rcases h with h | ⟨c, rest, rfl, hc⟩
  · unfold afterDash? at h
    split at h
    · exact ⟨_, _, rfl, by decide, by decide⟩
    · exact ⟨_, _, rfl, by decide, by decide⟩
    · simp at h
  · have hrange := toNat_of_isAlpha hc
    refine ⟨c, rest, rfl, not_isBlank_of_lt (by omega) (by omega), fun hmem => ?_⟩
    simp only [List.mem_cons, List.not_mem_nil, or_false] at hmem
    rcases hmem with rfl | rfl | rfl | rfl | rfl | rfl <;> exact absurd hc (by decide)

theorem StartsNode.isDocumentMarker {content : List Char} (h : StartsNode content) :
    isDocumentMarker content = false := by
  rcases h with h | ⟨c, rest, rfl, hc⟩
  · unfold afterDash? at h
    split at h
    · rfl
    · rfl
    · simp at h
  · have hne : c ≠ '-' ∧ c ≠ '.' ∧ c ≠ '%' :=
      ⟨by rintro rfl; exact absurd hc (by decide), by rintro rfl; exact absurd hc (by decide),
        by rintro rfl; exact absurd hc (by decide)⟩
    simp [LineScan.isDocumentMarker, startsWith, after?, hne.1.symm, hne.2.1.symm, hne.2.2.symm]

theorem opensBlockScalar_cons {c : Char} (h : isBlank c = false)
    (hc : c ∉ ['&', '!', '|', '>']) (rest : List Char) : opensBlockScalar (c :: rest) = false := by
  obtain ⟨word, words, hwords⟩ := words_cons h rest
  simp only [List.mem_cons, List.not_mem_nil, or_false, not_or] at hc
  unfold opensBlockScalar
  dsimp only
  rw [hwords, List.find?_cons_of_pos (by simp [hc])]
  simp [hc]

theorem StartsNode.opensBlockScalar {content : List Char} (h : StartsNode content) :
    opensBlockScalar content = false := by
  obtain ⟨c, rest, rfl, hblank, hc⟩ := h.head
  refine opensBlockScalar_cons hblank (fun hmem => hc ?_) rest
  simp only [List.mem_cons, List.not_mem_nil, or_false] at hmem ⊢
  tauto

theorem StartsNode.trimEnd {content : List Char} (h : StartsNode content) :
    StartsNode (Text.trimEnd content) := by
  rcases h with h | ⟨c, rest, rfl, hc⟩
  · unfold afterDash? at h
    split at h
    · exact .inl rfl
    · next rest =>
      rw [trimEnd_cons_of_not_isBlank (by decide), Text.trimEnd]
      split
      · exact .inl rfl
      · exact .inl rfl
    · simp at h
  · have hrange := toNat_of_isAlpha hc
    rw [trimEnd_cons_of_not_isBlank (not_isBlank_of_lt (by omega) (by omega))]
    exact .inr ⟨c, _, rfl, hc⟩

theorem StartsNode.trimEnd_ne_nil {content : List Char} (h : StartsNode content) :
    Text.trimEnd content ≠ [] := by
  obtain ⟨c, rest, hcons, -, -⟩ := h.trimEnd.head
  rw [hcons]
  exact List.cons_ne_nil c rest

/-! ## Going on behind the indentation -/

namespace State

/-- The path that frames lead along. -/
def pathOf (stack : List Frame) : SourcePath := (stack.map (·.segment)).reverse

/-- Go on with a line from some column, past the indentation: enter the items whose dashes come
first, then record the key behind them. -/
def goOn (s : State) (line column : Nat) (content : List Char) : State :=
  let (s, column, rest) := s.enterItems column content content.length
  match rest with
  | [] => s
  | '#' :: _ => { s with pending := s.pending ++ [String.ofList rest] }
  | _ =>
    match splitKey rest with
    | none => { s with pending := [] }
    | some (key, value) => s.enterKey line column (String.ofList key) value

/-- The frames around an item whose dash stands in a column. -/
def itemStack (stack : List Frame) (column : Nat) : List Frame :=
  match stack.dropWhile (column < ·.column) with
  | ⟨c, .index previous⟩ :: rest =>
    if c = column then ⟨column, .index (previous + 1)⟩ :: rest
    else ⟨column, .index 0⟩ :: ⟨c, .index previous⟩ :: rest
  | outer => ⟨column, .index 0⟩ :: outer

theorem enterItem_eq (s : State) (column : Nat) :
    s.enterItem column = { s with stack := itemStack s.stack column } := by
  unfold enterItem itemStack
  dsimp only
  generalize s.stack.dropWhile (fun frame => decide (column < frame.column)) = outer
  rcases outer with - | ⟨⟨c, name | previous⟩, rest⟩
  · rfl
  · rfl
  · dsimp only
    split <;> rfl

/-- A sequence below a key, or deeper than the item around it, starts at its first item. -/
theorem itemStack_first {frame : Frame} {column : Nat} (hle : frame.column ≤ column)
    (hfirst : ∀ previous, frame ≠ ⟨column, .index previous⟩) (base : List Frame) :
    itemStack (frame :: base) column = ⟨column, .index 0⟩ :: frame :: base := by
  have hdrop : (frame :: base).dropWhile (fun f => decide (column < f.column)) = frame :: base := by
    rw [List.dropWhile_cons, if_neg (by simp; omega)]
  unfold itemStack
  rw [hdrop]
  split
  · next c previous rest heq =>
    injection heq with hframe hrest
    rw [if_neg fun hc => hfirst previous (by rw [hframe, hc]), hframe, hrest]
  · rfl

/-- Past what stands deeper than its dashes, a sequence goes on with its next item. -/
theorem itemStack_next {inner : List Frame} {column : Nat}
    (hinner : ∀ frame ∈ inner, column < frame.column) (index : Nat) (base : List Frame) :
    itemStack (inner ++ ⟨column, .index index⟩ :: base) column =
      ⟨column, .index (index + 1)⟩ :: base := by
  have hdrop : (inner ++ ⟨column, .index index⟩ :: base).dropWhile
      (fun f => decide (column < f.column)) = ⟨column, .index index⟩ :: base := by
    rw [List.dropWhile_append_of_pos fun f hf => decide_eq_true (hinner f hf),
      List.dropWhile_cons, if_neg (by simp)]
  unfold itemStack
  rw [hdrop]
  exact if_pos rfl

/-- Behind the indentation the scanner goes on, unless it sees a comment or a document marker. -/
theorem scanContent_eq_goOn (s : State) (line column : Nat) {content : List Char}
    (hne : content ≠ []) (hcomment : content.head? ≠ some '#')
    (hmarker : isDocumentMarker content = false) :
    s.scanContent line column content = s.goOn line column content := by
  unfold scanContent
  split
  · exact absurd rfl hne
  · exact absurd rfl hcomment
  · rw [if_neg (by simp [hmarker])]
    rfl

/-- The bound on the number of dashes is of no account once it reaches the length of the text. -/
theorem enterItems_of_length_le (s : State) (column : Nat) (content : List Char) {m n : Nat}
    (hm : content.length ≤ m) (hn : content.length ≤ n) :
    s.enterItems column content m = s.enterItems column content n := by
  induction m generalizing s column content n with
  | zero =>
    obtain rfl := List.eq_nil_of_length_eq_zero (Nat.le_zero.mp hm)
    cases n <;> rfl
  | succ m ih =>
    cases n with
    | zero =>
      obtain rfl := List.eq_nil_of_length_eq_zero (Nat.le_zero.mp hn)
      rfl
    | succ n =>
      simp only [enterItems]
      split
      · rfl
      · next after hafter =>
        have hlength : after.length < content.length := by
          unfold afterDash? at hafter
          split at hafter
          · obtain rfl := Option.some.inj hafter
            exact Nat.zero_lt_one
          · obtain rfl := Option.some.inj hafter
            simp only [List.length_cons]
            omega
          · simp at hafter
        have hrest := (List.dropWhile_suffix (· == ' ') (l := after)).length_le
        exact ih _ _ _ (by omega) (by omega)

theorem dropWhile_spaces (n : Nat) {content : List Char} (h : content.head? ≠ some ' ') :
    (spaces n ++ content).dropWhile (· == ' ') = content := by
  induction n with
  | zero =>
    cases content with
    | nil => rfl
    | cons c rest =>
      have hc : (c == ' ') = false := beq_eq_false_iff_ne.mpr fun heq => h (congrArg some heq)
      show (c :: rest).dropWhile (· == ' ') = c :: rest
      rw [List.dropWhile_cons, hc]
      rfl
  | succ n ih => exact ih

/-- A dash enters an item, and the scanner goes on behind the spaces that follow it. A block
scalar that starts there belongs to the dash. -/
theorem goOn_dash (s : State) (line column gap : Nat) {content : List Char}
    (h : content.head? ≠ some ' ') :
    s.goOn line column (dash gap ++ content) =
      (if opensBlockScalar content then { s.enterItem column with scalarOwner? := some column }
        else s.enterItem column).goOn line (column + (dash gap).length) content := by
  have hlength : (dash gap ++ content).length = (gap + 1 + content.length) + 1 := by
    simp [dash]
  have hcolumn : column + ((dash gap ++ content).length - content.length) =
      column + (dash gap).length := by
    rw [List.length_append]
    omega
  unfold goOn
  rw [hlength, enterItems, afterDash?_dash]
  simp only [dropWhile_spaces gap h, hcolumn]
  rw [enterItems_of_length_le _ _ content (Nat.le_add_left _ _) (Nat.le_refl _)]

theorem goOn_bare_dash (s : State) (line column : Nat) :
    s.goOn line column ['-'] = s.enterItem column := rfl

end State

/-! ## Keys -/

theorem isKeyChar_ne {c : Char} (h : isKeyChar c = true) :
    isBlank c = false ∧ c ≠ ':' ∧ c ≠ '#' := by
  simp only [isKeyChar, Char.isAlphanum, Char.isDigit, Bool.or_eq_true, Bool.and_eq_true,
    decide_eq_true_eq, List.contains_eq_mem, List.mem_cons, List.not_mem_nil, or_false,
    UInt32.le_iff_toNat_le, ge_iff_le] at h
  rcases h with (h | h) | rfl | rfl | rfl | rfl
  · have hrange := toNat_of_isAlpha h
    refine ⟨not_isBlank_of_lt (by omega) (by omega), ?_, ?_⟩ <;>
      rintro rfl <;> exact absurd h (by decide)
  · have hrange : 0x30 ≤ c.toNat ∧ c.toNat ≤ 0x39 := h
    refine ⟨not_isBlank_of_lt (by omega) (by omega), ?_, ?_⟩ <;>
      rintro rfl <;> exact absurd hrange (by decide)
  all_goals decide

theorem text_cons (key : Key) : ∃ c rest, key.text = c :: rest ∧ c.isAlpha = true := by
  obtain ⟨text, h⟩ := key
  cases text with
  | nil => exact absurd h (by decide)
  | cons c rest =>
    rw [isKey, Bool.and_eq_true] at h
    exact ⟨c, rest, rfl, h.1⟩

/-- A colon with a blank or nothing behind it ends a plain key. -/
theorem splitPlain_append (done : List Char) {key : List Char}
    (h : ∀ c ∈ key, isKeyChar c = true) {value : List Char} (hvalue : endsKey value = true)
    {full : List Char} (hfull : Text.trimEnd (done.reverse ++ key) = full) (hne : full ≠ []) :
    splitPlain done (key ++ ':' :: value) = some (full, trim value) := by
  induction key generalizing done with
  | nil =>
    rw [List.append_nil] at hfull
    rw [List.nil_append, splitPlain.eq_def]
    dsimp only
    rw [if_neg (by simp), if_pos (by simp [hvalue]), hfull]
    cases full with
    | nil => exact absurd rfl hne
    | cons c full => rfl
  | cons c key ih =>
    obtain ⟨-, hcolon, hcomment⟩ := isKeyChar_ne (h c List.mem_cons_self)
    rw [List.cons_append, splitPlain.eq_def]
    dsimp only
    rw [if_neg (by simp [hcomment]), if_neg (by simp [hcolon])]
    refine ih (c :: done) (fun x hx => h x (List.mem_cons_of_mem _ hx)) ?_
    rw [List.reverse_cons, List.append_assoc]
    exact hfull

theorem splitKey_key (key : Key) {value : List Char} (hvalue : endsKey value = true) :
    splitKey (key.text ++ ':' :: value) = some (key.text, trim value) := by
  obtain ⟨c, rest, hcons, halpha⟩ := text_cons key
  have hplain : splitPlain [] (key.text ++ ':' :: value) = some (key.text, trim value) := by
    refine splitPlain_append [] (fun _ => key.isKeyChar_of_mem) hvalue ?_ (by rw [hcons]; exact List.cons_ne_nil c rest)
    exact trimEnd_of_all_not_isBlank fun x hx => (isKeyChar_ne (key.isKeyChar_of_mem hx)).1
  rw [← hplain, hcons, List.cons_append, splitKey]
  · have hstart : startsNoKey c = false := by
      simp only [startsNoKey, List.contains_eq_mem, decide_eq_false_iff_not, List.mem_cons,
        List.not_mem_nil, or_false, not_or]
      refine ⟨?_, ?_, ?_, ?_, ?_, ?_, ?_, ?_⟩ <;> rintro rfl <;> exact absurd halpha (by decide)
    rw [hstart]
    rfl
  · rintro rfl
    exact absurd halpha (by decide)
  · rintro rfl
    exact absurd halpha (by decide)

/-- Where no dash and no comment comes next, the scanner looks for a key. -/
theorem State.goOn_eq_elim (s : State) (line column : Nat) {content : List Char} (hne : content ≠ [])
    (hhead : ∀ c ∈ content.head?, c ≠ '-' ∧ c ≠ '#') :
    s.goOn line column content = (splitKey content).elim { s with pending := [] }
      fun p => s.enterKey line column (String.ofList p.1) p.2 := by
  have hdash : afterDash? content = none := by
    unfold afterDash?
    split
    · exact absurd rfl (hhead '-' rfl).1
    · exact absurd rfl (hhead '-' rfl).1
    · rfl
  have hitems (n : Nat) : s.enterItems column content n = (s, column, content) := by
    cases n with
    | zero => rfl
    | succ n => rw [enterItems, hdash]
  unfold goOn
  rw [hitems]
  dsimp only
  split
  · exact absurd rfl hne
  · exact absurd rfl (hhead '#' rfl).2
  · cases splitKey content <;> rfl

theorem State.goOn_key (s : State) (line column : Nat) (key : Key) {value : List Char}
    (hvalue : endsKey value = true) :
    s.goOn line column (key.text ++ ':' :: value) =
      s.enterKey line column key.name (trim value) := by
  obtain ⟨c, rest, hcons, halpha⟩ := text_cons key
  have hhead : ∀ d ∈ (key.text ++ ':' :: value).head?, d ≠ '-' ∧ d ≠ '#' := by
    rw [hcons]
    rintro d ⟨⟩
    constructor <;> rintro rfl <;> exact absurd halpha (by decide)
  rw [s.goOn_eq_elim line column (by simp) hhead, splitKey_key key hvalue]
  rfl

/-! ## Scalars -/

/-- A scalar starts with none of the signs that mean something to the scanner, and it holds no
colon. -/
theorem head_cons (value : Scalar) :
    ∃ c rest, value.head = c :: rest ∧ c ∉ [' ', '-', '#', '"', '\''] ∧ ':' ∉ value.head := by
  cases value with
  | plain text h _ =>
    cases text with
    | nil => exact absurd h (by decide)
    | cons c rest =>
      simp only [isPlain, startsNoPlain, Bool.and_eq_true, Bool.not_eq_true',
        List.contains_eq_mem, decide_eq_false_iff_not, List.all_eq_true, bne_iff_ne] at h
      refine ⟨c, rest, rfl, fun hc => ?_, fun hc => (h.2 ':' hc).1 rfl⟩
      have hcomment : c ≠ '#' := (h.2 c List.mem_cons_self).2
      simp only [List.mem_cons, List.not_mem_nil, or_false, not_or] at hc h
      tauto
  | literal indicators h _ =>
    refine ⟨'|', indicators, rfl, by decide, fun hc => ?_⟩
    rcases List.mem_cons.mp hc with hc | hc
    · exact absurd hc (by decide)
    · exact absurd (List.all_eq_true.mp h ':' hc) (by decide)

theorem head?_trimEnd_head (value : Scalar) :
    ∀ c ∈ (Text.trimEnd value.head).head?, c ∉ [' ', '-', '#', '"', '\''] := by
  obtain ⟨c, rest, hcons, hc, -⟩ := head_cons value
  intro d hd
  obtain ⟨tail, htail⟩ := isPrefix_trimEnd value.head
  cases hkept : Text.trimEnd value.head with
  | nil => rw [hkept] at hd; exact absurd hd (by simp)
  | cons e kept =>
    rw [hkept, hcons] at htail
    rw [hkept] at hd
    injection htail with he
    obtain rfl : e = d := Option.some.inj hd
    exact he ▸ hc

theorem splitPlain_of_not_mem (done : List Char) {content : List Char} (h : ':' ∉ content) :
    splitPlain done content = none := by
  induction content generalizing done with
  | nil => rfl
  | cons c rest ih =>
    rw [List.mem_cons, not_or] at h
    have hc : (c == ':') = false := beq_eq_false_iff_ne.mpr fun heq => h.1 heq.symm
    rw [splitPlain.eq_def]
    dsimp only
    rw [hc, Bool.false_and, if_neg Bool.false_ne_true, ih (c :: done) h.2]
    exact ite_self none

theorem splitKey_of_not_mem {content : List Char} (h : ':' ∉ content)
    (hdouble : content.head? ≠ some '"') (hsingle : content.head? ≠ some '\'') :
    splitKey content = none := by
  unfold splitKey
  split
  · rfl
  · exact absurd rfl hdouble
  · exact absurd rfl hsingle
  · rw [splitPlain_of_not_mem [] h]
    split <;> rfl

/-- A scalar leaves the state as it is, if no comment waits for a key. -/
theorem State.goOn_scalar {s : State} (hpending : s.pending = []) (line column : Nat)
    (value : Scalar) : s.goOn line column (Text.trimEnd value.head) = s := by
  have hstart := head?_trimEnd_head value
  obtain ⟨-, -, -, -, hcolon⟩ := head_cons value
  generalize hcontent : Text.trimEnd value.head = content at hstart
  replace hcolon : ':' ∉ content := fun hmem =>
    hcolon ((isPrefix_trimEnd value.head).subset (hcontent ▸ hmem))
  have hclear : { s with pending := [] } = s := by rw [← hpending]
  cases content with
  | nil => rfl
  | cons c rest =>
    have hhead : ∀ d ∈ (c :: rest).head?, d ≠ '-' ∧ d ≠ '#' := by
      intro d hd
      constructor <;> rintro rfl <;> exact absurd (hstart _ hd) (by decide)
    rw [s.goOn_eq_elim line column (List.cons_ne_nil c rest) hhead,
      splitKey_of_not_mem hcolon (fun h => absurd (hstart '"' h) (by decide))
        (fun h => absurd (hstart '\'' h) (by decide))]
    exact hclear

theorem not_isBlank_literal {indicators : List Char} (h : indicators.all isIndicator = true) :
    ∀ c ∈ '|' :: indicators, isBlank c = false := by
  intro c hc
  rcases List.mem_cons.mp hc with rfl | hc
  · decide
  · have hc := List.all_eq_true.mp h c hc
    simp only [isIndicator, Char.isDigit, Bool.or_eq_true, beq_iff_eq, Bool.and_eq_true,
      decide_eq_true_eq, UInt32.le_iff_toNat_le, ge_iff_le] at hc
    rcases hc with (rfl | rfl) | hc
    · decide
    · decide
    · have hrange : 0x30 ≤ c.toNat ∧ c.toNat ≤ 0x39 := hc
      exact not_isBlank_of_lt (by omega) (by omega)

theorem opensBlockScalar_literal {indicators : List Char}
    (h : indicators.all isIndicator = true) :
    opensBlockScalar ('|' :: indicators) = true := by
  unfold opensBlockScalar
  dsimp only
  rw [words_of_forall (not_isBlank_literal h) (List.cons_ne_nil _ _),
    List.find?_cons_of_pos (by simp)]
  exact h

/-! ## A line that ends with a scalar -/

/-- Behind the line of a key or dash in a column, with a scalar for its value: a block scalar that
is taken to be open belongs to that key or dash, and it is open if the scalar goes on below. -/
structure Owns (owner? : Option Nat) (column : Nat) (value : Scalar) : Prop where
  /-- Nothing else owns an open block scalar. -/
  owner : ∀ owner ∈ owner?, owner = column
  /-- A scalar with lines below is an open block scalar. -/
  goesOn : value.tail column ≠ [] → owner? = some column

/-- The scanner looks at the text of a scalar, perhaps with blanks taken off its ends; that of a
literal one has none. -/
theorem Owns.of_text {text : List Char} (column : Nat) (value : Scalar)
    (h : value.tail column ≠ [] → text = value.head) :
    Owns (if opensBlockScalar text then some column else none) column value where
  owner owner howner := by
    split at howner
    · exact (Option.some.inj howner).symm
    · exact absurd howner (by simp)
  goesOn htail := by
    rw [h htail]
    cases value with
    | plain => exact absurd rfl htail
    | literal indicators hind lines =>
      rw [Scalar.head, opensBlockScalar_literal hind]
      rfl

theorem trimEnd_head_of_tail {value : Scalar} {column : Nat} (h : value.tail column ≠ []) :
    Text.trimEnd value.head = value.head := by
  cases value with
  | plain => exact absurd rfl h
  | literal indicators hind lines => exact trimEnd_of_all_not_isBlank (not_isBlank_literal hind)

theorem trim_spaces_head_of_tail {value : Scalar} {column : Nat} (h : value.tail column ≠ [])
    (n : Nat) : trim (Text.trimEnd (spaces n ++ value.head)) = value.head := by
  obtain ⟨c, rest, hcons, -, -⟩ := head_cons value
  rw [trimEnd_append_of_ne_nil _ (by rw [trimEnd_head_of_tail h, hcons]; exact List.cons_ne_nil _ _),
    trimEnd_head_of_tail h]
  have hstart : trimStart (spaces n ++ value.head) = value.head := by
    induction n with
    | zero =>
      cases value with
      | plain => exact absurd rfl h
      | literal indicators hind lines =>
        show List.dropWhile isBlank ('|' :: indicators) = '|' :: indicators
        rw [List.dropWhile_cons, not_isBlank_literal hind '|' List.mem_cons_self]
        rfl
    | succ n ih => exact ih
  rw [trim, hstart, trimEnd_head_of_tail h]

namespace State

/-! ## Whole lines -/

theorem scanLines_append (s : State) (line : Nat) (above below : List (List Char)) :
    s.scanLines line (above ++ below) =
      (s.scanLines line above).scanLines (line + above.length) below := by
  induction above generalizing s line with
  | nil => rfl
  | cons raw rest ih =>
    rw [List.cons_append, scanLines, scanLines, ih, List.length_cons, Nat.add_assoc,
      Nat.add_comm 1]

theorem length_takeWhile_spaces (n : Nat) {content : List Char} (h : content.head? ≠ some ' ') :
    ((spaces n ++ content).takeWhile (· == ' ')).length = n := by
  have hlength := congrArg List.length
    (List.takeWhile_append_dropWhile (p := (· == ' ')) (l := spaces n ++ content))
  rw [dropWhile_spaces n h, List.length_append, List.length_append, List.length_replicate]
    at hlength
  omega

/-- A line that does not stand deeper than the owner of an open block scalar closes it. -/
theorem scanLine_spaces {s : State} (line indent : Nat)
    (howner : ∀ owner ∈ s.scalarOwner?, indent ≤ owner) {content : List Char}
    (h : content.head? ≠ some ' ') (hne : Text.trimEnd content ≠ []) :
    s.scanLine line (spaces indent ++ content) =
      { s with scalarOwner? := none }.scanContent line indent (Text.trimEnd content) := by
  unfold scanLine
  rw [dropWhile_spaces indent h, length_takeWhile_spaces indent h]
  dsimp only
  split
  · next owner hsome =>
    have hle := howner owner hsome
    rw [if_neg (by simp [hne]; omega)]
  · next hnone => rw [← hnone]

/-- A line that stands deeper than the owner of an open block scalar is skipped. -/
theorem scanLine_deeper {s : State} {owner : Nat} (h : s.scalarOwner? = some owner) (line : Nat)
    (content : List Char) : s.scanLine line (spaces (owner + 1) ++ content) = s := by
  have hcolumn : owner < ((spaces (owner + 1) ++ content).takeWhile (· == ' ')).length := by
    rw [List.takeWhile_append_of_pos fun c hc => by simp [List.eq_of_mem_replicate hc],
      List.length_append, List.length_replicate]
    omega
  unfold scanLine
  rw [h]
  dsimp only
  rw [if_pos (by simp only [hcolumn, decide_true, Bool.or_true])]

/-- A blank line changes nothing, if no comment waits for a key. -/
theorem scanLine_blank {s : State} (hpending : s.pending = []) (line : Nat) (blank : BlankLine) :
    s.scanLine line blank.text = s := by
  have hcontent : Text.trimEnd (blank.text.dropWhile (· == ' ')) = [] := by
    refine trimEnd_of_all_isBlank (List.all_eq_true.mpr fun c hc => ?_)
    exact List.all_eq_true.mp blank.blank c ((List.dropWhile_suffix _).subset hc)
  unfold scanLine
  rw [hcontent]
  dsimp only
  split
  · rfl
  · show { s with pending := [] } = s
    rw [← hpending]

theorem scanLines_blanks {s : State} (hpending : s.pending = []) (line : Nat)
    (blanks : List BlankLine) : s.scanLines line (blanks.map (·.text)) = s := by
  induction blanks generalizing line with
  | nil => rfl
  | cons blank rest ih => rw [List.map_cons, scanLines, scanLine_blank hpending, ih]

theorem scanLines_tail {s : State} (hpending : s.pending = []) (line : Nat) {column : Nat}
    {value : Scalar} (h : Owns s.scalarOwner? column value) :
    s.scanLines line ((value.tail column).map (·.text)) = s := by
  cases value with
  | plain => rfl
  | literal indicators hind lines =>
    cases lines with
    | nil => rfl
    | cons first rest =>
      have howner : s.scalarOwner? = some column := h.goesOn (List.cons_ne_nil _ _)
      clear h
      rw [Scalar.tail]
      induction first :: rest generalizing line with
      | nil => rfl
      | cons part rest ih =>
        have hpart : s.scanLine line (part.line column).text = s := by
          cases part with
          | blank blank => exact scanLine_blank hpending line blank
          | text content => exact scanLine_deeper howner line content
        rw [List.map_cons, List.map_cons, scanLines, hpart, ih]

theorem scanLine_comment {s : State} (line indent : Nat)
    (howner : ∀ owner ∈ s.scalarOwner?, indent ≤ owner) (comment : CommentLine) :
    s.scanLine line (spaces indent ++ '#' :: comment.text) =
      { s with scalarOwner? := none, pending := s.pending ++ [comment.written] } := by
  have hkept : Text.trimEnd ('#' :: comment.text) = '#' :: Text.trimEnd comment.text :=
    trimEnd_cons_of_not_isBlank (by decide) comment.text
  rw [scanLine_spaces line indent howner (by simp) (by simp [hkept]), CommentLine.written, hkept]
  rfl

/-- A line whose indentation is followed by the start of a node. -/
theorem scanLine_node {s : State} (line indent : Nat)
    (howner : ∀ owner ∈ s.scalarOwner?, indent ≤ owner) {content : List Char}
    (h : StartsNode content) :
    s.scanLine line (spaces indent ++ content) =
      { s with scalarOwner? := none }.goOn line indent (Text.trimEnd content) := by
  obtain ⟨c, rest, hcons, -, hc⟩ := h.head
  obtain ⟨d, rest', hcons', -, hd⟩ := h.trimEnd.head
  rw [scanLine_spaces line indent howner _ h.trimEnd_ne_nil,
    scanContent_eq_goOn _ _ _ h.trimEnd_ne_nil _ h.trimEnd.isDocumentMarker]
  · rw [hcons']
    rintro heq
    obtain rfl := Option.some.inj heq
    exact hd (by decide)
  · rw [hcons]
    rintro heq
    obtain rfl := Option.some.inj heq
    exact hc (by decide)

/-- Comment lines wait for the key on the line below them, and close a block scalar. -/
theorem scanLines_comments {s : State} (line indent : Nat)
    (howner : ∀ owner ∈ s.scalarOwner?, indent ≤ owner) (comments : List CommentLine)
    {content : List Char} (h : StartsNode content) :
    s.scanLines line (comments.map (fun c => spaces indent ++ '#' :: c.text) ++
        [spaces indent ++ content]) =
      { s with scalarOwner? := none
               pending := s.pending ++ comments.map CommentLine.written }.goOn
        (line + comments.length) indent (Text.trimEnd content) := by
  induction comments generalizing s line with
  | nil =>
    rw [List.map_nil, List.map_nil, List.nil_append, List.append_nil, scanLines, scanLines,
      scanLine_node line indent howner h]
    rfl
  | cons comment rest ih =>
    rw [List.map_cons, List.map_cons, List.cons_append, scanLines,
      scanLine_comment line indent howner, ih _ (by simp), List.append_assoc,
      List.length_cons, Nat.add_assoc, Nat.add_comm 1]
    rfl

/-- A node's first line with the lines above it: blank lines are skipped, the comments wait for
the key on the line. -/
theorem scanLines_above {s : State} (hpending : s.pending = []) (line indent : Nat)
    (howner : ∀ owner ∈ s.scalarOwner?, indent ≤ owner) (above : Above) {content : List Char}
    (h : StartsNode content) :
    s.scanLines line ((above.lines indent).map (·.text) ++ [spaces indent ++ content]) =
      { s with scalarOwner? := none, pending := above.written }.goOn
        (line + (above.lines indent).length) indent (Text.trimEnd content) := by
  have htexts : (above.lines indent).map (·.text) = above.blanks.map (·.text) ++
      above.comments.map fun c => spaces indent ++ '#' :: c.text := by
    rw [Above.lines, List.map_append, List.map_map, List.map_map]
    rfl
  rw [htexts, List.append_assoc, scanLines_append, scanLines_blanks hpending,
    scanLines_comments _ indent howner above.comments h, hpending, List.nil_append,
    Above.lines, List.length_append, List.length_map, List.length_map, List.length_map,
    Nat.add_assoc, Above.written]

/-! ## Arriving at a column of a line -/

/-- **The scanner arrives**: from the state `s` before a group of lines it comes, behind the
indentation and the marks of the last of them, to the state `t` – whatever node starts there and
whatever comments stand above, except that the comments then wait in `t`. -/
def Arrives (s : State) (line indent : Nat) (marks : List Char) (t : State) : Prop :=
  ∀ (above : Above) (content : List Char), StartsNode content →
    s.scanLines line
        ((above.lines indent).map (·.text) ++ [spaces indent ++ (marks ++ content)]) =
      { t with pending := above.written }.goOn (line + (above.lines indent).length)
        (indent + marks.length) (Text.trimEnd content)

/-- Before any marks the scanner arrives with its block scalar closed. -/
theorem arrives {s : State} (hpending : s.pending = []) (line indent : Nat)
    (howner : ∀ owner ∈ s.scalarOwner?, indent ≤ owner) :
    s.Arrives line indent [] { s with scalarOwner? := none } :=
  fun above _ h => scanLines_above hpending line indent howner above h

/-- Behind one more dash the scanner arrives in the item of that dash. -/
theorem Arrives.dash {s t : State} {line indent : Nat} {marks : List Char}
    (h : s.Arrives line indent marks t) (gap : Nat) :
    s.Arrives line indent (marks ++ dash gap) (t.enterItem (indent + marks.length)) := by
  intro above content hcontent
  obtain ⟨c, rest, hcons, -, hc⟩ := hcontent.trimEnd.head
  have hspace : (Text.trimEnd content).head? ≠ some ' ' := by
    rw [hcons]
    intro heq
    obtain rfl := Option.some.inj heq
    exact hc (by decide)
  rw [List.append_assoc, h above (BlockStyle.dash gap ++ content) (.of_dash gap content),
    trimEnd_append_of_ne_nil _ hcontent.trimEnd_ne_nil, goOn_dash _ _ _ gap hspace,
    hcontent.trimEnd.opensBlockScalar, if_neg Bool.false_ne_true, enterItem_eq, enterItem_eq,
    List.length_append, Nat.add_assoc]

end State

end LineScan

end ChartSchema
