import ChartSchema.Text.Basic
import ChartSchema.Yaml.Cursor
import ChartSchema.Yaml.Value
/-!
# How a text is written as a YAML scalar

A text is written plainly if it reads back as itself that way, between single quotes if only its
signs or its look stand against it, and between double quotes, with escapes, if it holds
characters that must not be seen. A text of several lines is written as a literal block, one
line a line, unless a blank before a line break or at the end would be lost from sight.
-/

namespace ChartSchema.Yaml

/-- The ways to write a scalar. -/
inductive Style where
  /-- The text itself. -/
  | plain
  /-- The text between single quotes. -/
  | singleQuoted
  /-- The text between double quotes, with escapes. -/
  | doubleQuoted
  /-- The lines of the text, deeper than what is around them. -/
  | literal
  deriving Repr, DecidableEq

namespace Style

/-! ## Which way a text can be written -/

/-- The characters that need no escape. -/
def isPrintable (c : Char) : Bool :=
  let n := c.toNat
  n == 0x0A || (0x20 ≤ n && n ≤ 0x7E) || (0xA0 ≤ n && n ≤ 0xD7FF) ||
    (0xE000 ≤ n && n ≤ 0xFFFD && n != 0xFEFF) || 0x10000 ≤ n

/-- Whether somewhere in a text a character of one class stands before one of another. -/
def hasPair (first second : Char → Bool) : List Char → Bool
  | a :: b :: r => (first a && second b) || hasPair first second (b :: r)
  | _ => false

/-- Whether a line break stands before a space. -/
def breakThenSpace (s : List Char) : Bool := hasPair isBreak (· == ' ') s

/-- Whether a space stands before a line break. -/
def spaceThenBreak (s : List Char) : Bool := hasPair (· == ' ') isBreak s

/-- The signs that mean something at the start of a scalar. -/
def isLeadingSign (c : Char) : Bool :=
  ['#', ',', '[', ']', '\x7b', '\x7d', '&', '*', '!', '|', '>', '\'', '"', '%', '@',
    '\x60'].contains c

/-- Whether a text starts with a sign that means something there. -/
def startsWithSign (s : List Char) : Bool :=
  match s with
  | [] => false
  | c :: r =>
    isLeadingSign c || ((c == '?' || c == '-') && atSpace r) ||
      Text.startsWith ['-', '-', '-'] s || Text.startsWith ['.', '.', '.'] s

/-- Whether a text holds a colon before a blank, or a number sign behind one. -/
def holdsSign : List Char → Bool
  | [] => false
  | c :: r =>
    (c == ':' && atSpace r) ||
      ((isBlank c || isBreak c) && Text.startsWith ['#'] r) || holdsSign r

/-- Whether a text begins or ends with a space or a line break. -/
def hasOuterSpace (s : List Char) : Bool :=
  let outer (c? : Option Char) : Bool :=
    match c? with
    | some c => c == ' ' || isBreak c
    | none => false
  outer s.head? || outer s.getLast?

/-- Whether a text can stand between single quotes. -/
def allowsSingle (s : List Char) : Bool :=
  s.all isPrintable && !breakThenSpace s && !spaceThenBreak s

/-- Whether a text can stand without quotes. -/
def allowsPlain (s : List Char) : Bool :=
  allowsSingle s && !hasOuterSpace s && !s.any isBreak && !startsWithSign s && !holdsSign s

/-- Whether a text can be written as a literal block. -/
def allowsLiteral (s : List Char) : Bool :=
  !s.isEmpty && s.all isPrintable && !spaceThenBreak s && s.getLast? != some ' '

/-- Whether a plain scalar of this text is a text again, and does not look like a number. -/
def readsAsText (text : String) : Bool :=
  match Scalar.ofPlain? text with
  | some (.string _) => !Scalar.hasLeadingZero text.toList
  | _ => false

/-- The way in which a text is written. -/
def ofText (text : String) : Style :=
  let s := text.toList
  if s.contains '\n' then (if allowsLiteral s then .literal else .doubleQuoted)
  else if readsAsText text && allowsPlain s then .plain
  else if allowsSingle s then .singleQuoted
  else .doubleQuoted

/-! ## Writing it -/

/-- The text with `pad` before each line that is not empty. `atStart` says whether the text
starts at the start of a line. -/
def indentLines (pad : List Char) (atStart : Bool) : List Char → List Char
  | [] => []
  | c :: r =>
    (if atStart && !isBreak c then pad else []) ++ c :: indentLines pad (isBreak c) r

/-- The digits of a number in base 16, `width` of them. -/
def hexDigits (n : Nat) : (width : Nat) → List Char
  | 0 => []
  | width + 1 => hexDigits (n / 16) width ++ [(Nat.digitChar (n % 16)).toUpper]

/-- How a character stands between double quotes. -/
def escape (c : Char) : List Char :=
  let short? : Option Char :=
    match c with
    | '\x00' => some '0'
    | '\x07' => some 'a'
    | '\x08' => some 'b'
    | '\t' => some 't'
    | '\n' => some 'n'
    | '\x0b' => some 'v'
    | '\x0c' => some 'f'
    | '\r' => some 'r'
    | '\x1b' => some 'e'
    | '"' => some '"'
    | '\\' => some '\\'
    | '\x85' => some 'N'
    | '\u2028' => some 'L'
    | '\u2029' => some 'P'
    | _ => none
  match short? with
  | some sign => ['\\', sign]
  | none =>
    let n := c.toNat
    if isPrintable c then [c]
    else if n ≤ 0xFF then ['\\', 'x'] ++ hexDigits n 2
    else if n ≤ 0xFFFF then ['\\', 'u'] ++ hexDigits n 4
    else ['\\', 'U'] ++ hexDigits n 8

/-- The header of a literal block: how deep its lines are, where their first character does not
show it, and whether the last line break belongs to the text, alone or with others. -/
def header (s : List Char) : List Char :=
  let depth := match s with
    | c :: _ => if c == ' ' || isBreak c then ['2'] else []
    | [] => []
  let chomping := match s.reverse with
    | last :: before :: _ =>
      if !isBreak last then ['-'] else if isBreak before then ['+'] else []
    | [last] => if isBreak last then ['+'] else ['-']
    | [] => ['-']
  '|' :: (depth ++ chomping)

/-- The text as it is written, without a line break behind it unless the text is a block that
ends in one. `pad` goes before the lines of a text that has several. -/
def write (pad : List Char) (text : String) : List Char :=
  let s := text.toList
  match ofText text with
  | .plain => s
  | .singleQuoted =>
    let quoted := s.flatMap fun c => if c = '\'' then ['\'', '\''] else [c]
    '\'' :: indentLines pad false (quoted ++ ['\''])
  | .doubleQuoted => '"' :: (s.flatMap escape ++ ['"'])
  | .literal => header s ++ '\n' :: indentLines pad true s

end Style
end ChartSchema.Yaml
