import ChartSchema.Number.Shortest
/-!
# Written forms of binary64 numbers

A `FloatLayout` says how the shortest digits of a number are set: where the point stands
among the digits and where an exponent takes over, whether an integral number keeps `.0`,
and the texts of the infinities and of NaN. The library writes numbers in three layouts:
`FloatLayout.json`, `FloatLayout.yaml` and `FloatLayout.positional`.
-/

namespace ChartSchema

/-- How the digits of a number are set. -/
structure FloatLayout where
  /-- Which of two equally near decimals is written. -/
  tie : Binary64.DecimalTie
  /-- The decimal exponents from which on the number is written with an exponent, if any. -/
  exponentFrom : Option Int
  /-- The decimal exponents up to which the number is written with an exponent, if any. -/
  exponentUpTo : Option Int
  /-- What stands before the digits of a positive exponent. -/
  exponentSign : String
  /-- What an integral number has behind its digits. -/
  integralTail : String
  /-- The text of the positive infinity; a minus sign goes before it for the other. -/
  infinity : String
  /-- The text of NaN. -/
  nan : String

namespace FloatLayout

/-- JSON: positional from `1e-5` to below `1e16`, then an exponent with its sign. JSON has no
text for the numbers that are not finite, and `null` stands for them. -/
def json : FloatLayout where
  tie := .toEven
  exponentFrom := some 17
  exponentUpTo := some (-5)
  exponentSign := "+"
  integralTail := ".0"
  infinity := "null"
  nan := "null"

/-- YAML: as JSON, with a bare exponent and with texts for the infinities and NaN. -/
def yaml : FloatLayout where
  tie := .toEven
  exponentFrom := some 17
  exponentUpTo := some (-5)
  exponentSign := ""
  integralTail := ".0"
  infinity := ".inf"
  nan := ".nan"

/-- Plain positional notation of any size, an integral number as an integer. -/
def positional : FloatLayout where
  tie := .up
  exponentFrom := none
  exponentUpTo := none
  exponentSign := ""
  integralTail := ""
  infinity := "inf"
  nan := "NaN"

/-- The digits of a positive decimal without an exponent. -/
def positionalText (layout : FloatLayout) (digits : String) (power : Int) : String :=
  if 0 ≤ power then
    digits ++ String.ofList (List.replicate power.toNat '0') ++ layout.integralTail
  else
    let point : Int := digits.length + power
    if 0 < point then
      String.ofList (digits.toList.take point.toNat) ++ "." ++
        String.ofList (digits.toList.drop point.toNat)
    else "0." ++ String.ofList (List.replicate (-point).toNat '0') ++ digits

/-- The digits of a positive decimal with an exponent: one digit before the point, and the
point only if a digit follows. -/
def exponentText (layout : FloatLayout) (digits : String) (power : Int) : String :=
  let exponent : Int := power + digits.length - 1
  let lead := String.ofList (digits.toList.take 1)
  let rest := String.ofList (digits.toList.drop 1)
  let sign := if 0 ≤ exponent then layout.exponentSign else "-"
  lead ++ (if rest.isEmpty then "" else "." ++ rest) ++ "e" ++ sign ++ toString exponent.natAbs

/-- The text of a positive decimal. -/
def decimalText (layout : FloatLayout) (d : Binary64.ShortDecimal) : String :=
  let digits := toString d.digits
  let top : Int := d.power + digits.length
  let large := match layout.exponentFrom with | some e => decide (e ≤ top) | none => false
  let small := match layout.exponentUpTo with | some e => decide (top ≤ e) | none => false
  if large || small then layout.exponentText digits d.power
  else layout.positionalText digits d.power

/-- The text of a number. -/
def render (layout : FloatLayout) : Binary64 → String
  | .finite negative mantissa exponent =>
    let magnitude :=
      if mantissa = 0 then "0" ++ layout.integralTail
      else layout.decimalText (Binary64.shortest layout.tie mantissa exponent)
    (if negative then "-" else "") ++ magnitude
  | .infinite negative => (if negative then "-" else "") ++ layout.infinity
  | .nan => layout.nan

end FloatLayout
end ChartSchema
