import ChartSchema.Number.Binary64
/-!
# The shortest decimal of a binary64 number

The decimals that read back as a given number form an interval around it: they lie at most
half-way to its two neighbours, the ends included if the mantissa is even. `Binary64.shortest`
finds the decimal with the fewest digits in that interval, and of two such decimals the nearer
one. A tie between two equally near ones is a matter of the format that is written, and so an
argument.

For a given count of digits only two decimals need to be tried: if any decimal of that many
digits lies in the interval, so does one of the two between which the number stands.
-/

namespace ChartSchema.Binary64

/-- Which of two equally near decimals is written. -/
inductive DecimalTie where
  /-- The one with the even last digit. -/
  | toEven
  /-- The larger one. -/
  | up
  deriving DecidableEq, Repr

/-- A positive decimal `digits · 10 ^ power`, without trailing zeros in `digits`. -/
structure ShortDecimal where
  /-- The significant digits, as a number. -/
  digits : Nat
  /-- The power of ten of the last digit. -/
  power : Int
  deriving DecidableEq, Repr

/-- A positive number with the interval that rounds to it, all as multiples of `1 / den`. -/
structure RoundingInterval where
  /-- The lower end. -/
  lower : Nat
  /-- The number itself. -/
  value : Nat
  /-- The upper end. -/
  upper : Nat
  /-- The common denominator. -/
  den : Nat
  /-- Whether the ends belong to the interval. -/
  closed : Bool

/-- The interval of a positive number in canonical form. Below a power of two the neighbour is
half as far away as above it. -/
def roundingInterval (mantissa : Nat) (exponent : Int) : RoundingInterval :=
  let up := Nat.pow 2 exponent.toNat
  let below := if mantissa = Nat.pow 2 52 ∧ minExponent < exponent then 1 else 2
  { lower := (4 * mantissa - below) * up
    value := 4 * mantissa * up
    upper := (4 * mantissa + 2) * up
    den := 4 * Nat.pow 2 (-exponent).toNat
    closed := mantissa % 2 == 0 }

/-- Whether `num / den` lies in the interval. -/
def RoundingInterval.contains (i : RoundingInterval) (num den : Nat) : Bool :=
  let x := num * i.den
  let low := i.lower * den
  let high := i.upper * den
  if i.closed then low ≤ x && x ≤ high else low < x && x < high

/-- The decimal exponent of a positive quotient: the least `k` with `num / den < 10 ^ k`. -/
def decimalExponent (num den : Nat) : Int :=
  let estimate : Int := (((Nat.log2 num : Int) - (Nat.log2 den : Int)) * 30103) / 100000
  let below (k : Int) : Bool :=
    if 0 ≤ k then num < den * Nat.pow 10 k.toNat else num * Nat.pow 10 (-k).toNat < den
  if below (estimate - 1) then estimate - 1
  else if below estimate then estimate
  else if below (estimate + 1) then estimate + 1
  else estimate + 2

/-- The better of the two decimals on the grid `10 ^ power` around the number, if one of them
lies in the interval. -/
def RoundingInterval.onGrid? (i : RoundingInterval) (tie : DecimalTie) (power : Int) :
    Option Nat :=
  let up := Nat.pow 10 power.toNat
  let down := Nat.pow 10 (-power).toNat
  let low := (i.value * down) / (i.den * up)
  let twiceRest := 2 * ((i.value * down) % (i.den * up))
  let lowIn := i.contains (low * up) down
  let highIn := i.contains ((low + 1) * up) down
  let preferHigh : Bool :=
    if twiceRest = i.den * up then
      (match tie with | .toEven => low % 2 == 1 | .up => true)
    else i.den * up < twiceRest
  if lowIn && highIn then some (if preferHigh then low + 1 else low)
  else if lowIn then some low
  else if highIn then some (low + 1)
  else none

/-- The first grid that has a decimal in the interval, from one digit on; `steps` bounds the
count of digits. -/
def RoundingInterval.search (i : RoundingInterval) (tie : DecimalTie) (exponent : Int) :
    (steps : Nat) → (count : Nat) → ShortDecimal
  | 0, count => ⟨i.value / i.den, exponent - count⟩
  | steps + 1, count =>
    match i.onGrid? tie (exponent - count) with
    | some digits => ⟨digits, exponent - count⟩
    | none => i.search tie exponent steps (count + 1)

/-- A decimal without the zeros at the end of its digits; `steps` bounds their number. -/
def ShortDecimal.stripZeros (d : ShortDecimal) : (steps : Nat) → ShortDecimal
  | 0 => d
  | steps + 1 =>
    if d.digits ≠ 0 ∧ d.digits % 10 = 0 then
      ShortDecimal.stripZeros ⟨d.digits / 10, d.power + 1⟩ steps
    else d

/-- The shortest decimal of the positive number `mantissa · 2 ^ exponent`. -/
def shortest (tie : DecimalTie) (mantissa : Nat) (exponent : Int) : ShortDecimal :=
  let i := roundingInterval mantissa exponent
  (i.search tie (decimalExponent i.value i.den) 18 1).stripZeros 18

end ChartSchema.Binary64
