/-!
# Binary64 numbers

Floating-point numbers of double width as exact values: a finite one is
`± mantissa · 2 ^ exponent`, beside the two infinities and the one NaN that a text can name.
A finite number is kept in **canonical form**: the mantissa has at most 53 bits, and it has
all 53 unless the exponent is the least one, `-1074`. Zero keeps its sign.

Arithmetic goes through the rationals. `Binary64.toRat?` says which rational a number is,
`Binary64.ofRat` rounds a rational to the nearest number (a tie goes to the even mantissa,
what is too large becomes infinite), and an operation is the rational one between the two.
-/

namespace ChartSchema

/-- A binary64 number. -/
inductive Binary64 where
  /-- `mantissa · 2 ^ exponent`, negated if `negative`. -/
  | finite (negative : Bool) (mantissa : Nat) (exponent : Int)
  /-- An infinity. -/
  | infinite (negative : Bool)
  /-- Not a number. -/
  | nan
  deriving DecidableEq, Repr, Inhabited

namespace Binary64

/-- The exponent of the smallest positive number. -/
def minExponent : Int := -1074

/-- The exponent of the largest finite numbers. -/
def maxExponent : Int := 971

/-- Zero of the given sign. -/
def zero (negative : Bool) : Binary64 := .finite negative 0 minExponent

/-- The quotient rounded to the nearest integer, a tie to the even one. -/
def roundQuotient (num den : Nat) : Nat :=
  let q := num / den
  let r := num % den
  if 2 * r < den ∨ (2 * r = den ∧ q % 2 = 0) then q else q + 1

/-- `num / (den · 2 ^ exponent)` as a pair of naturals. -/
def scaleQuotient (num den : Nat) (exponent : Int) : Nat × Nat :=
  if 0 ≤ exponent then (num, den * Nat.pow 2 exponent.toNat)
  else (num * Nat.pow 2 (-exponent).toNat, den)

/-- The exponent at which the integral part of `num / den` has 53 bits, or the least one. -/
def exponentOfQuotient (num den : Nat) : Int :=
  let guess : Int := (Nat.log2 num : Int) - (Nat.log2 den : Int) - 52
  let (n, d) := scaleQuotient num den guess
  let fitted := if n / d < Nat.pow 2 52 then guess - 1 else guess
  max fitted minExponent

/-- The number nearest to `± num / den`, for a positive `den`. -/
def ofQuotient (negative : Bool) (num den : Nat) : Binary64 :=
  if num = 0 then zero negative
  else
    let exponent := exponentOfQuotient num den
    let (n, d) := scaleQuotient num den exponent
    let mantissa := roundQuotient n d
    let (mantissa, exponent) :=
      if mantissa = Nat.pow 2 53 then (Nat.pow 2 52, exponent + 1) else (mantissa, exponent)
    if maxExponent < exponent then .infinite negative
    else .finite negative mantissa exponent

/-- The number nearest to a rational. -/
def ofRat (r : Rat) : Binary64 :=
  ofQuotient (decide (r.num < 0)) r.num.natAbs r.den

/-- The number nearest to an integer. -/
def ofInt (n : Int) : Binary64 :=
  ofQuotient (decide (n < 0)) n.natAbs 1

/-- The number nearest to `± digits · 10 ^ power`, where `digits` was written with at most
`width` digits. Powers far outside the range are answered without being computed. -/
def ofDecimal (negative : Bool) (digits width : Nat) (power : Int) : Binary64 :=
  if digits = 0 then zero negative
  else if 400 < power then .infinite negative
  else if power + width < -400 then zero negative
  else if 0 ≤ power then ofQuotient negative (digits * Nat.pow 10 power.toNat) 1
  else ofQuotient negative digits (Nat.pow 10 (-power).toNat)

/-- The rational a finite number stands for. -/
def toRat? : Binary64 → Option Rat
  | .finite negative mantissa exponent =>
    let magnitude : Rat :=
      if 0 ≤ exponent then ((mantissa * Nat.pow 2 exponent.toNat : Nat) : Rat)
      else mkRat mantissa (Nat.pow 2 (-exponent).toNat)
    some (if negative then -magnitude else magnitude)
  | .infinite _ | .nan => none

/-- Whether the number is neither infinite nor NaN. -/
def isFinite : Binary64 → Bool
  | .finite .. => true
  | .infinite _ | .nan => false

/-- Whether the number is finite without a fractional part. -/
def isIntegral (x : Binary64) : Bool :=
  match x.toRat? with
  | some r => r.den == 1
  | none => false

/-- The order of two numbers; there is none if one of them is NaN. -/
def compare? : Binary64 → Binary64 → Option Ordering
  | .nan, _ | _, .nan => none
  | .infinite a, .infinite b => some (Ord.compare b a)
  | .infinite negative, .finite .. => some (if negative then .lt else .gt)
  | .finite .., .infinite negative => some (if negative then .gt else .lt)
  | x@(.finite ..), y@(.finite ..) =>
    match x.toRat?, y.toRat? with
    | some a, some b => some (if a < b then .lt else if b < a then .gt else .eq)
    | _, _ => none

/-- Whether `x < y`. -/
def lt (x y : Binary64) : Bool := compare? x y == some .lt

/-- Whether `x = y` as numbers: zeros of both signs are equal and NaN is equal to nothing. -/
def eq (x y : Binary64) : Bool := compare? x y == some .eq

/-- An operation on the rationals, rounded; NaN unless both numbers are finite. -/
def lift (op : Rat → Rat → Rat) (x y : Binary64) : Binary64 :=
  match x.toRat?, y.toRat? with
  | some a, some b => ofRat (op a b)
  | _, _ => .nan

/-- The rounded difference of two finite numbers. -/
def sub (x y : Binary64) : Binary64 := lift (· - ·) x y

/-- The rounded product of two finite numbers. -/
def mul (x y : Binary64) : Binary64 := lift (· * ·) x y

/-- The rounded quotient of two finite numbers, the second of them not zero. -/
def div (x y : Binary64) : Binary64 := lift (· / ·) x y

/-- The number without its sign. -/
def abs : Binary64 → Binary64
  | .finite _ mantissa exponent => .finite false mantissa exponent
  | .infinite _ => .infinite false
  | .nan => .nan

/-- The distance from one to the next larger number, `2 ^ -52`. -/
def epsilon : Binary64 := .finite false (Nat.pow 2 52) (-104)

end Binary64
end ChartSchema
