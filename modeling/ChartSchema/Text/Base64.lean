/-!
# Bytes as text

Base64 writes three bytes as four of sixty-four characters, and ends with one or two `=` where
one or two bytes remain. Each row of bytes has exactly one written form: the bits that a last
character has to spare are zero, and the `=` may not be left out.
-/

namespace ChartSchema.Text.Base64

/-- The six bits that a character stands for. -/
def digit? (c : Char) : Option Nat :=
  if c.isUpper then some (c.toNat - 'A'.toNat)
  else if c.isLower then some (c.toNat - 'a'.toNat + 26)
  else if c.isDigit then some (c.toNat - '0'.toNat + 52)
  else if c = '+' then some 62
  else if c = '/' then some 63
  else none

/-- A byte of a number that has bits to spare above it. -/
def byte (n : Nat) : UInt8 := UInt8.ofNat (n % 256)

/-- The bytes that a text writes. -/
def decode? : List Char → Option (List UInt8)
  | [] => some []
  | [a, b, '=', '='] => do
    let n := (← digit? a) * 64 + (← digit? b)
    if n % 16 = 0 then return [byte (n / 16)] else none
  | [a, b, c, '='] => do
    let n := ((← digit? a) * 64 + (← digit? b)) * 64 + (← digit? c)
    if n % 4 = 0 then return [byte (n / 1024), byte (n / 4)] else none
  | a :: b :: c :: d :: rest => do
    let n := (((← digit? a) * 64 + (← digit? b)) * 64 + (← digit? c)) * 64 + (← digit? d)
    return byte (n / 65536) :: byte (n / 256) :: byte n :: (← decode? rest)
  | _ => none

end ChartSchema.Text.Base64
