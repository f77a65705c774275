import ChartSchema.Number.Layout
/-!
# Numbers of documents

A number in a document is an integer of 64 bits, signed or unsigned, or a binary64 number.
Which of the two it is belongs to the value: `1` and `1.0` are different values with different
texts. Where values are measured against each other, as bounds are, `Number.compare?` puts both
kinds on the rational line.
-/

namespace ChartSchema

/-- A number of a document. -/
inductive Number where
  /-- An integer between `-2 ^ 63` and `2 ^ 64 - 1`. -/
  | int (value : Int)
  /-- A number written or computed as a float. -/
  | float (value : Binary64)
  deriving DecidableEq, Repr, Inhabited

namespace Number

/-- Whether an integer fits a signed or an unsigned 64-bit word. -/
def fitsWord (n : Int) : Bool :=
  -(Nat.pow 2 63 : Int) ≤ n && n < Nat.pow 2 64

/-- The rational a number stands for, if it is finite. -/
def toRat? : Number → Option Rat
  | .int n => some n
  | .float x => x.toRat?

/-- The number as a binary64 number, rounded if it is a large integer. -/
def toBinary64 : Number → Binary64
  | .int n => Binary64.ofInt n
  | .float x => x

/-- The order of two finite numbers by value, whatever their kinds. -/
def compare? (a b : Number) : Option Ordering :=
  match a.toRat?, b.toRat? with
  | some x, some y => some (if x < y then .lt else if y < x then .gt else .eq)
  | _, _ => none

/-- Equality of values: both integers or both floats, and equal as such. -/
def same : Number → Number → Bool
  | .int a, .int b => a == b
  | .float x, .float y => x.eq y
  | _, _ => false

/-- Equality by what is measured: integers are compared as such, and other numbers by the nearest
floats. -/
def equivalent : Number → Number → Bool
  | .int a, .int b => a == b
  | a, b => a.toBinary64.eq b.toBinary64

/-- Whether two numbers are nearer to each other than one is to the next larger float. -/
def isClose (a b : Number) : Bool :=
  (a.toBinary64.sub b.toBinary64).abs.lt Binary64.epsilon

/-- Whether the number is a zero below zero. -/
def isNegativeZero : Number → Bool
  | .float (.finite true 0 _) => true
  | _ => false

/-- Whether the number is an integer by value: an integer or an integral float. -/
def isInteger : Number → Bool
  | .int _ => true
  | .float x => x.isIntegral

/-- The text of a number in a layout for floats. -/
def render (layout : FloatLayout) : Number → String
  | .int n => toString n
  | .float x => layout.render x

end Number
end ChartSchema
