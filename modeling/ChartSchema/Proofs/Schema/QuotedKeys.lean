import ChartSchema.Proofs.Schema.ScanBelow
import ChartSchema.Proofs.Yaml.QuotedScalar
/-!
# Keys in quotes

The line scanner takes the marks off a key in quotes by itself. In single quotes it reads what YAML
reads. In double quotes it knows two escapes, for a line feed and for a tab, and takes every other
character behind a backslash for itself. Between the key and its colon it passes over spaces, where
YAML passes over tabs too.

So an entry whose key is in quotes gets the key and the value that YAML reads exactly if its escapes
are among the `sharedEscapes` and no tab stands in front of its colon (`splitKey_text_iff`), and its
line and the comments above it are found under its key in the same cases (`State.get?_scanLine_iff`).
-/

namespace ChartSchema

namespace LineScan

open BlockStyle (spaces)
open Yaml (InLine IsEscape QuotedEntry QuotedText EndsQuoted quoteMark)

variable {body key after : List Char}

/-! ## Single quotes -/

theorem singleQuoted_char {c : Char} (hc : c ≠ '\'') (s : List Char) :
    singleQuoted (c :: s) = (singleQuoted s).map fun p => (c :: p.1, p.2) := by
  rw [singleQuoted.eq_def]
  split
  · next heq => exact nomatch heq
  · next heq => exact absurd (List.cons.inj heq).1 hc
  · next heq => exact absurd (List.cons.inj heq).1 hc
  · next heq =>
    obtain ⟨rfl, rfl⟩ := List.cons.inj heq
    rfl

/-- **The scanner takes single quotes off a key as YAML does.** -/
theorem singleQuoted_of_quotedText (h : QuotedText true body key) (hafter : EndsQuoted true after) :
    singleQuoted (body ++ '\'' :: after) = some (key, after) := by
  induction h with
  | nil =>
    rw [List.nil_append, singleQuoted]
    rintro rest rfl
    exact hafter rfl rfl
  | doubled _ _ ih => rw [List.cons_append, List.cons_append, singleQuoted, ih]; rfl
  | escape hdouble => exact nomatch hdouble
  | char hmark _ _ _ ih => rw [List.cons_append, singleQuoted_char hmark, ih]; rfl

/-! ## Double quotes -/

/-- The character that a character behind a backslash is taken for. -/
def unescaped (c : Char) : Char := if c = 'n' then '\n' else if c = 't' then '\t' else c

/-- The characters behind the backslashes of a text. -/
def escapeLetters : List Char → List Char
  | [] => []
  | '\\' :: c :: rest => c :: escapeLetters rest
  | _ :: rest => escapeLetters rest

/-- The escapes that the scanner reads as YAML does. -/
def sharedEscapes : List Char := ['n', 't', '\t', ' ', '"', '/', '\\']

theorem unescaped_eq_iff {letter c : Char} (h : Yaml.escapedChar? letter = some c) :
    unescaped letter = c ↔ letter ∈ sharedEscapes := by
  unfold Yaml.escapedChar? at h
  split at h <;> cases h <;> decide

theorem not_mem_sharedEscapes {letter : Char} {count : Nat}
    (h : Yaml.hexLength? letter = some count) : letter ∉ sharedEscapes ∧ 0 < count := by
  unfold Yaml.hexLength? at h
  split at h <;> cases h <;> decide

theorem doubleQuoted_slash (c : Char) (s : List Char) :
    doubleQuoted ('\\' :: c :: s) = (doubleQuoted s).map fun p => (unescaped c :: p.1, p.2) := rfl

theorem doubleQuoted_char {c : Char} (hmark : c ≠ '"') (hslash : c ≠ '\\') (s : List Char) :
    doubleQuoted (c :: s) = (doubleQuoted s).map fun p => (c :: p.1, p.2) := by
  rw [doubleQuoted.eq_def]
  split
  · next heq => exact nomatch heq
  · next heq => exact absurd (List.cons.inj heq).1 hmark
  · next heq => exact absurd (List.cons.inj heq).1 hslash
  · next heq => exact absurd (List.cons.inj heq).1 hslash
  · next heq =>
    obtain ⟨rfl, rfl⟩ := List.cons.inj heq
    rfl

theorem escapeLetters_char {c : Char} (hslash : c ≠ '\\') (s : List Char) :
    escapeLetters (c :: s) = escapeLetters s := by
  rw [escapeLetters]
  rintro d rest rfl
  exact absurd rfl hslash

/-- The digits of an escape mean nothing to the scanner. -/
theorem hexDigit_plain {d : Char} (h : (Yaml.hexDigit? d).isSome = true) : d ≠ '"' ∧ d ≠ '\\' := by
  constructor <;> rintro rfl <;> exact nomatch h

theorem doubleQuoted_digits {digits : List Char}
    (h : ∀ d ∈ digits, (Yaml.hexDigit? d).isSome = true) (s : List Char) :
    doubleQuoted (digits ++ s) = (doubleQuoted s).map fun p => (digits ++ p.1, p.2) := by
  induction digits with
  | nil => exact Option.map_id'.symm
  | cons d digits ih =>
    obtain ⟨hd, h⟩ := List.forall_mem_cons.mp h
    obtain ⟨hmark, hslash⟩ := hexDigit_plain hd
    rw [List.cons_append, doubleQuoted_char hmark hslash, ih h, Option.map_map]
    rfl

/-- **The scanner takes double quotes off every key**, and reads it as YAML does exactly if it knows
all escapes of it. An escape with digits makes the key it reads longer. -/
theorem doubleQuoted_of_quotedText (h : QuotedText false body key) (after : List Char) :
    ∃ read, doubleQuoted (body ++ '"' :: after) = some (read, after) ∧ key.length ≤ read.length ∧
      (read = key ↔ ∀ c ∈ escapeLetters body, c ∈ sharedEscapes) := by
  induction h with
  | nil => exact ⟨[], rfl, Nat.le_refl _, by simp [escapeLetters]⟩
  | doubled hsingle => exact nomatch hsingle
  | @escape used c body key _ hescape _ ih =>
    obtain ⟨read, hread, hlength, hiff⟩ := ih
    cases hescape with
    | @letter letter _ _ hx =>
      refine ⟨unescaped letter :: read, ?_, Nat.succ_le_succ hlength, ?_⟩
      · show doubleQuoted ('\\' :: letter :: (body ++ '"' :: after)) = _
        rw [doubleQuoted_slash, hread]
        rfl
      · show _ ↔ ∀ c ∈ letter :: escapeLetters body, c ∈ sharedEscapes
        rw [List.forall_mem_cons, List.cons.injEq, unescaped_eq_iff hx, hiff]
    | @digits letter digits _ hcount hhex _ =>
      have hdigits := Yaml.isSome_hexDigit?_of_readHex hhex
      refine ⟨unescaped letter :: (digits ++ read), ?_, ?_, ?_⟩
      · show doubleQuoted ('\\' :: letter :: ((digits ++ body) ++ '"' :: after)) = _
        rw [doubleQuoted_slash, List.append_assoc, doubleQuoted_digits hdigits, hread]
        rfl
      · simp only [List.length_cons, List.length_append]
        omega
      · show _ ↔ ∀ c ∈ letter :: escapeLetters (digits ++ body), c ∈ sharedEscapes
        obtain ⟨hnot, hpos⟩ := not_mem_sharedEscapes hcount
        refine iff_of_false (fun heq => ?_) fun hall => hnot (hall letter List.mem_cons_self)
        have hlonger := congrArg List.length heq
        simp only [List.length_cons, List.length_append] at hlonger
        omega
  | @char c body key hmark hslash _ _ ih =>
    obtain ⟨read, hread, hlength, hiff⟩ := ih
    refine ⟨c :: read, ?_, Nat.succ_le_succ hlength, ?_⟩
    · rw [List.cons_append, doubleQuoted_char hmark (hslash rfl), hread]
      rfl
    · rw [escapeLetters_char (hslash rfl), List.cons.injEq, hiff, and_iff_right rfl]

/-! ## What stands behind a key -/

/-- Without a tab all blanks are spaces, which are passed over. -/
theorem dropWhile_of_not_tab {blanks s : List Char} (h : ∀ c ∈ blanks, Yaml.isBlank c = true)
    (htab : '\t' ∉ blanks) (hs : s.head? ≠ some ' ') :
    (blanks ++ s).dropWhile (· == ' ') = s := by
  have hspaces : blanks = spaces blanks.length := by
    refine List.eq_replicate_of_mem fun c hc => ?_
    exact (Yaml.isBlank_iff.mp (h c hc)).resolve_right fun heq => htab (heq ▸ hc)
  rw [hspaces]
  exact State.dropWhile_spaces _ hs

theorem head?_dropWhile_of_tab {blanks : List Char} (h : ∀ c ∈ blanks, Yaml.isBlank c = true)
    (htab : '\t' ∈ blanks) (s : List Char) :
    ((blanks ++ s).dropWhile (· == ' ')).head? = some '\t' := by
  induction blanks with
  | nil => exact nomatch htab
  | cons c blanks ih =>
    obtain ⟨hc, hmore⟩ := List.forall_mem_cons.mp h
    rcases Yaml.isBlank_iff.mp hc with rfl | rfl
    · exact ih hmore ((List.mem_cons.mp htab).resolve_left (by decide))
    · rfl

theorem endsKey_value (e : QuotedEntry) : endsKey e.value = true := by
  have hspace := e.atSpace
  cases hcons : e.value with
  | nil => rfl
  | cons c value =>
    have hbreak : Yaml.isBreak c = false := e.inLine c (hcons ▸ List.mem_cons_self)
    rwa [hcons, Yaml.atSpace, hbreak, Bool.or_false] at hspace

theorem afterColon?_behind (e : QuotedEntry) :
    afterColon? e.behind = if '\t' ∈ e.blanks then none else some (Text.trim e.value) := by
  by_cases htab : '\t' ∈ e.blanks
  · obtain ⟨rest, hrest⟩ := List.head?_eq_some_iff.mp
      (head?_dropWhile_of_tab e.isBlank htab (':' :: e.value))
    rw [if_pos htab, afterColon?, QuotedEntry.behind, hrest]
    rfl
  · rw [if_neg htab, afterColon?, QuotedEntry.behind,
      dropWhile_of_not_tab e.isBlank htab (by simp)]
    exact if_pos (endsKey_value e)

/-- The scanner reads an entry as YAML does: it knows the escapes of the key, and no tab stands in
front of the colon. -/
def IsRead (e : QuotedEntry) : Prop :=
  '\t' ∉ e.blanks ∧ (e.single = false → ∀ c ∈ escapeLetters e.body, c ∈ sharedEscapes)

/-- **What the scanner reads of an entry with a key in quotes**: nothing if a tab stands in front of the
colon, else the value that YAML reads, and a key that is YAML's if the escapes are shared. -/
theorem exists_splitKey_text (e : QuotedEntry) :
    ∃ read, splitKey e.text = (if '\t' ∈ e.blanks then none else some (read, Text.trim e.value)) ∧
      (read = e.key ↔ (e.single = false → ∀ c ∈ escapeLetters e.body, c ∈ sharedEscapes)) := by
  have hends : EndsQuoted e.single e.behind := by
    have hbehind := e.endsQuoted_behind []
    rwa [List.append_nil] at hbehind
  have hvalue (key : List Char) : (afterColon? e.behind).bind (fun value => some (key, value)) =
      if '\t' ∈ e.blanks then none else some (key, Text.trim e.value) := by
    rw [afterColon?_behind]
    split <;> rfl
  have hquoted := e.quoted
  rw [QuotedEntry.text]
  cases hsingle : e.single with
  | true =>
    rw [hsingle] at hends hquoted
    refine ⟨e.key, ?_, iff_of_true rfl fun h => absurd h (by decide)⟩
    rw [← hvalue]
    show (singleQuoted (e.body ++ '\'' :: e.behind)).bind _ = _
    rw [singleQuoted_of_quotedText hquoted hends]
    rfl
  | false =>
    rw [hsingle] at hquoted
    obtain ⟨read, hread, -, hiff⟩ := doubleQuoted_of_quotedText hquoted e.behind
    refine ⟨read, ?_, hiff.trans ⟨fun h _ => h, fun h => h rfl⟩⟩
    rw [← hvalue]
    show (doubleQuoted (e.body ++ '"' :: e.behind)).bind _ = _
    rw [hread]
    rfl

/-- **An entry with a key in quotes has the key and the value that YAML reads** exactly if no tab stands
in front of its colon and its escapes are the same for both. -/
theorem splitKey_text_iff (e : QuotedEntry) :
    splitKey e.text = some (e.key, Text.trim e.value) ↔ IsRead e := by
  obtain ⟨read, hsplit, hread⟩ := exists_splitKey_text e
  rw [hsplit, IsRead, ← hread]
  by_cases htab : '\t' ∈ e.blanks
  · rw [if_pos htab]
    exact iff_of_false (by simp) fun h => h.1 htab
  · simp [htab]

/-- **Wherever YAML reads a key in quotes on a line**, with a colon behind it and a blank or nothing
behind the colon, the scanner reads the same key and value under that condition. -/
theorem exists_splitKey_iff {single : Bool} {s value : List Char} (hline : InLine s)
    (hread : Yaml.readQuoted single false (s.length + 1) s = some (key, after))
    (hcolon : after.dropWhile Yaml.isBlank = ':' :: value) (hvalue : Yaml.atSpace value = true) :
    ∃ e : QuotedEntry, e.text = quoteMark single :: s ∧ e.key = key ∧ e.value = value ∧
      (splitKey (quoteMark single :: s) = some (key, Text.trim value) ↔ IsRead e) := by
  obtain ⟨e, htext, -, rfl, -, rfl⟩ := Yaml.exists_quotedEntry hline hread hcolon hvalue
  exact ⟨e, htext, rfl, rfl, htext ▸ splitKey_text_iff e⟩

/-! ## Recording a key -/

/-- The entry without the blanks at its end. -/
def trimmed (e : QuotedEntry) : QuotedEntry :=
  { e with
    value := Text.trimEnd e.value
    atSpace := by
      have hspace := e.atSpace
      obtain ⟨tail, htail⟩ := Text.isPrefix_trimEnd e.value
      cases hkept : Text.trimEnd e.value with
      | nil => rfl
      | cons c kept => rwa [← htail, hkept] at hspace
    inLine := fun c hc => e.inLine c ((Text.isPrefix_trimEnd e.value).subset hc) }

theorem trimEnd_text (e : QuotedEntry) : Text.trimEnd e.text = (trimmed e).text := by
  have hcolon : Text.trimEnd (':' :: e.value) = ':' :: Text.trimEnd e.value :=
    Text.trimEnd_cons_of_not_isBlank (by decide) e.value
  have hsplit (value : List Char) : quoteMark e.single :: (e.body ++ quoteMark e.single ::
      (e.blanks ++ ':' :: value)) = (quoteMark e.single :: (e.body ++ quoteMark e.single ::
        e.blanks)) ++ ':' :: value := by simp
  show Text.trimEnd (quoteMark e.single :: (e.body ++ quoteMark e.single ::
    (e.blanks ++ ':' :: e.value))) = quoteMark e.single :: (e.body ++ quoteMark e.single ::
      (e.blanks ++ ':' :: Text.trimEnd e.value))
  rw [hsplit, hsplit, Text.trimEnd_append_of_ne_nil _ (hcolon ▸ List.cons_ne_nil _ _), hcolon]

/-- An entry starts with its quote mark, which means nothing else to the scanner. -/
theorem head?_text (e : QuotedEntry) :
    ∀ c ∈ e.text.head?, c ≠ ' ' ∧ c ≠ '-' ∧ c ≠ '#' := by
  rintro c ⟨⟩
  cases e.single <;> decide

theorem isDocumentMarker_text (e : QuotedEntry) : isDocumentMarker e.text = false := by
  rw [QuotedEntry.text]
  cases e.single <;> rfl

namespace State

variable {s : State}

/-- On the line of an entry the scanner looks for the key. -/
theorem scanLine_text (line indent : Nat) (howner : ∀ owner ∈ s.scalarOwner?, indent ≤ owner)
    (e : QuotedEntry) :
    s.scanLine line (spaces indent ++ e.text) =
      (splitKey (trimmed e).text).elim { s with scalarOwner? := none, pending := [] } fun p =>
        { s with scalarOwner? := none }.enterKey line indent (String.ofList p.1) p.2 := by
  have hne : (trimmed e).text ≠ [] := List.cons_ne_nil _ _
  have hhead := head?_text (trimmed e)
  rw [scanLine_spaces line indent howner (fun h => (head?_text e ' ' h).1 rfl)
      (trimEnd_text e ▸ hne), trimEnd_text, scanContent_eq_goOn _ _ _ hne
      (fun h => (hhead '#' h).2.2 rfl) (isDocumentMarker_text _),
    goOn_eq_elim _ _ _ hne fun c hc => (hhead c hc).2]

/-- The path of a key in a column of the line behind a state. -/
def keyPath (s : State) (column : Nat) (key : List Char) : SourcePath :=
  pathOf (⟨column, .key (String.ofList key)⟩ :: s.stack.dropWhile (column ≤ ·.column))

theorem keyPath_inj {column : Nat} {key key' : List Char} :
    s.keyPath column key = s.keyPath column key' ↔ key = key' := by
  simp [keyPath, pathOf, String.ofList_inj]

/-- **A key in quotes is found again under the key that YAML reads**, with its line and the comments
above it, exactly if no tab stands in front of its colon and its escapes are shared. -/
theorem get?_scanLine_iff (line indent : Nat) (howner : ∀ owner ∈ s.scalarOwner?, indent ≤ owner)
    (e : QuotedEntry) (hnew : s.map.get? (s.keyPath indent e.key) = none) :
    (s.scanLine line (spaces indent ++ e.text)).map.get? (s.keyPath indent e.key) =
      some ⟨line, s.pending⟩ ↔ IsRead e := by
  obtain ⟨read, hsplit, hread⟩ : ∃ read, splitKey (trimmed e).text =
      (if '\t' ∈ e.blanks then none else some (read, Text.trim (trimmed e).value)) ∧
      (read = e.key ↔ (e.single = false → ∀ c ∈ escapeLetters e.body, c ∈ sharedEscapes)) :=
    exists_splitKey_text (trimmed e)
  rw [scanLine_text line indent howner, hsplit, IsRead]
  by_cases htab : '\t' ∈ e.blanks
  · rw [if_pos htab]
    show s.map.get? _ = _ ↔ _
    rw [hnew]
    exact iff_of_false nofun fun h => h.1 htab
  · rw [if_neg htab, and_iff_right htab, ← hread]
    show (s.map.record (s.keyPath indent read) ⟨line, s.pending⟩).get? (s.keyPath indent e.key) =
      _ ↔ _
    rw [SourceMap.get?_record, hnew, Option.none_or]
    by_cases heq : read = e.key
    · rw [heq, if_pos rfl]
      exact iff_of_true rfl rfl
    · rw [if_neg fun h => heq (keyPath_inj.mp h).symm]
      exact iff_of_false nofun heq

end State

/-- The letter of an escape with digits is taken for a part of the key. -/
example : splitKey "\"\\x41\": 1".toList = some ("x41".toList, "1".toList) := by decide

/-- YAML reads it as one character. -/
example : Yaml.readQuoted false false 8 "\\x41\": 1".toList = some ("A".toList, ": 1".toList) := by
  decide

end LineScan

end ChartSchema
