/-!
# Positions in a YAML text

A `Cursor` is the rest of a text with the place where it starts. YAML counts five characters
as line breaks; a carriage return and a line feed together are one break, and the breaks of
older systems are read as a line feed.
-/

namespace ChartSchema.Yaml

/-- The line breaks of YAML. -/
def isBreak (c : Char) : Bool :=
  c == '\n' || c == '\r' || c == '\x85' || c == '\u2028' || c == '\u2029'

/-- The blanks inside a line. -/
def isBlank (c : Char) : Bool :=
  c == ' ' || c == '\t'

/-- Whether a text is at its end, at a line break or at a blank. -/
def atSpace : List Char → Bool
  | [] => true
  | c :: _ => isBlank c || isBreak c

/-- Whether a text is at its end or at a line break. -/
def atLineEnd : List Char → Bool
  | [] => true
  | c :: _ => isBreak c

/-- The break a text starts with, as it is read, and what follows it. -/
def takeBreak? : List Char → Option (Char × List Char)
  | '\r' :: '\n' :: r => some ('\n', r)
  | c :: r =>
    if c = '\u2028' ∨ c = '\u2029' then some (c, r)
    else if isBreak c then some ('\n', r)
    else none
  | [] => none

/-- Characters that a name, a handle or an anchor may hold. -/
def isWordChar (c : Char) : Bool :=
  (c.toNat < 128 && c.isAlphanum) || c == '_' || c == '-'

/-- The characters a YAML text may hold. -/
def isAllowed (c : Char) : Bool :=
  let n := c.toNat
  n == 0x09 || n == 0x0A || n == 0x0D || (0x20 ≤ n && n ≤ 0x7E) || n == 0x85 ||
    (0xA0 ≤ n && n ≤ 0xD7FF) || (0xE000 ≤ n && n ≤ 0xFFFD) || 0x10000 ≤ n

/-- A place in a text. -/
structure Cursor where
  /-- What is still to be read. -/
  rest : List Char
  /-- How many characters were read. -/
  index : Nat := 0
  /-- How many line breaks were read. -/
  line : Nat := 0
  /-- How many characters were read since the last break. -/
  column : Nat := 0
  deriving Repr

namespace Cursor

/-- The place after the next `count` characters. -/
def skip : (count : Nat) → Cursor → Cursor
  | 0, c => c
  | count + 1, c =>
    match c.rest with
    | [] => c
    | '\r' :: '\n' :: r =>
      skip count { c with rest := '\n' :: r, index := c.index + 1, column := c.column + 1 }
    | x :: r =>
      if isBreak x then skip count ⟨r, c.index + 1, c.line + 1, 0⟩
      else skip count ⟨r, c.index + 1, c.line, c.column + 1⟩

/-- The place where only `rest`, a tail of the text, is still to be read. -/
def moveTo (c : Cursor) (rest : List Char) : Cursor :=
  c.skip (c.rest.length - rest.length)

end Cursor

/-- The rest of a text after blanks, line breaks and comments, and whether a line was ended.
`tabs` says whether a tab counts as a blank before the first break; `tabsLater` says the same
of the lines after it. A comment runs to the end of its line. A byte order mark is passed over
where a line starts, as `lineStart` says of the start of the text. -/
def skipToToken (tabsLater : Bool) (tabs inComment lineStart ended : Bool) :
    List Char → List Char × Bool
  | [] => ([], ended)
  | c :: r =>
    if isBreak c then skipToToken tabsLater tabsLater false true true r
    else if inComment then skipToToken tabsLater tabs true false ended r
    else if c == '\ufeff' && lineStart then skipToToken tabsLater tabs false false ended r
    else if c == ' ' || (c == '\t' && tabs) then skipToToken tabsLater tabs false false ended r
    else if c == '#' then skipToToken tabsLater tabs true false ended r
    else (c :: r, ended)

/-- The part of a line up to its end. -/
def lineRest (s : List Char) : List Char := s.takeWhile (!isBreak ·)

/-- Whether a text starts with one of the markers between documents, with a blank behind it. -/
def atDocumentMark : List Char → Bool
  | '-' :: '-' :: '-' :: r => atSpace r
  | '.' :: '.' :: '.' :: r => atSpace r
  | _ => false

end ChartSchema.Yaml
