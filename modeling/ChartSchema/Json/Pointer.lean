import ChartSchema.Json.Basic
import ChartSchema.Text.Basic
/-!
# Pointers into JSON

A pointer names the steps from a value to a value inside it, each after a slash. In a step `~1`
stands for a slash and `~0` for a tilde.
-/

namespace ChartSchema.Json.Pointer

/-- A step as it is written. -/
def escape (s : List Char) : List Char :=
  s.flatMap fun c => if c = '~' then ['~', '0'] else if c = '/' then ['~', '1'] else [c]

/-- The step that a text writes. A tilde before another character stands for itself. -/
def unescape : List Char → List Char
  | [] => []
  | '~' :: '0' :: r => '~' :: unescape r
  | '~' :: '1' :: r => '/' :: unescape r
  | c :: r => c :: unescape r

/-- Whether every tilde of a text is one that stands for something else. -/
def tildesFit : List Char → Bool
  | [] => true
  | '~' :: '0' :: r | '~' :: '1' :: r => tildesFit r
  | c :: r => c != '~' && tildesFit r

/-- Whether a text is a pointer. -/
def isPointer (s : List Char) : Bool :=
  (s.isEmpty || s.head? == some '/') && tildesFit s

/-- Whether a text is a pointer that starts so many levels up: a number without needless zeros,
then a pointer or a number sign. -/
def isRelative (s : List Char) : Bool :=
  let digits := s.takeWhile Char.isDigit
  let rest := s.dropWhile Char.isDigit
  !digits.isEmpty && (digits.length == 1 || digits.head? != some '0')
    && (rest == ['#'] || isPointer rest)

/-- The position in a list that a step writes. -/
def index? (s : List Char) : Option Nat :=
  let digits := match s with
    | '+' :: r => r
    | r => r
  if digits.isEmpty || !digits.all Char.isDigit then none
  else some (digits.foldl (fun n c => n * 10 + (c.toNat - '0'.toNat)) 0)

/-- The value one step inside a value. -/
def step? (v : Json) (s : List Char) : Option Json :=
  match v with
  | .array items => (index? s).bind (items[·]?)
  | .object members => findKey? (String.ofList (unescape s)) members
  | _ => none

end ChartSchema.Json.Pointer
