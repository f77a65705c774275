/-!
# Names in ASCII

Punycode writes a row of characters in ASCII: first the characters of ASCII, then, behind a
hyphen, where to put the others. These come in increasing order, each as the number of places
that are passed over since the one before. A number is written in digits of base 36, the least
first, whose thresholds follow the size of the numbers so far.
-/

namespace ChartSchema.Net.Punycode

/-- The digit of a value below 36. -/
def digitChar (d : Nat) : Char :=
  if d < 26 then Char.ofNat ('a'.toNat + d) else Char.ofNat ('0'.toNat + (d - 26))

/-- The value of a digit. -/
def digit? (c : Char) : Option Nat :=
  if c.isLower then some (c.toNat - 'a'.toNat)
  else if c.isUpper then some (c.toNat - 'A'.toNat)
  else if c.isDigit then some (c.toNat - '0'.toNat + 26)
  else none

/-- The value below which the digit at a position ends its number; positions count in steps of
36. -/
def threshold (bias position : Nat) : Nat :=
  if position ≤ bias then 1 else if bias + 26 ≤ position then 26 else position - bias

/-- Divide by 35 until at most 455 is left, and count 36 for each time. -/
def shrink (n count : Nat) : Nat × Nat :=
  if 455 < n then shrink (n / 35) (count + 36) else (n, count)
termination_by n
decreasing_by exact Nat.div_lt_self (by omega) (by omega)

/-- The bias after a number was written where there are `length` characters in the end. -/
def adapt (n length : Nat) (first : Bool) : Nat :=
  let n := if first then n / 700 else n / 2
  let (n, count) := shrink (n + n / length) 0
  count + 36 * n / (n + 38)

/-! ## Reading -/

/-- The number at the start of a text, added to `sum`; `weight` is what a digit counts here. -/
def number? (bias position weight sum : Nat) : List Char → Option (Nat × List Char)
  | [] => none
  | c :: r => do
    let d ← digit? c
    let t := threshold bias position
    let sum := sum + d * weight
    if d < t then return (sum, r) else number? bias (position + 36) (weight * (36 - t)) sum r

/-- Put the characters that a text writes among those that are there. `char` is the least
character that may come next, and `place` the first place where it may be put. -/
def insertAll (steps bias char place : Nat) (first : Bool) (done : List Char) (s : List Char) :
    Option (List Char) :=
  match steps, s with
  | _, [] => some done
  | 0, _ => none
  | steps + 1, s => do
    let (sum, r) ← number? bias 36 1 place s
    let length := done.length + 1
    let char := char + sum / length
    if char < 0xD800 ∨ (0xDFFF < char ∧ char < 0x110000) then
      let bias := adapt (sum - place) length first
      let place := sum % length
      insertAll steps bias char (place + 1) false
        (done.take place ++ Char.ofNat char :: done.drop place) r
    else none

/-- The characters that a text of ASCII writes. -/
def decode? (s : List Char) : Option (List Char) :=
  let behind := (s.reverse.takeWhile (· != '-')).reverse
  let before := s.take (s.length - behind.length)
  insertAll (s.length + 1) 72 128 0 true before.dropLast behind

/-! ## Writing -/

/-- The digits of a number. -/
def digits (bias position n : Nat) : List Char :=
  let t := threshold bias position
  if n < t then [digitChar n]
  else digitChar (t + (n - t) % (36 - t)) :: digits bias (position + 36) ((n - t) / (36 - t))
termination_by n
decreasing_by
  have h : 1 ≤ threshold bias position := by unfold threshold; split <;> (try split) <;> omega
  have := Nat.div_le_self (n - threshold bias position) (36 - threshold bias position)
  omega

/-- What is written while all the places of one character are passed: how many places were
passed over since the last number, how many characters there are, and the text so far. -/
structure Progress where
  /-- The places passed over. -/
  gap : Nat := 0
  /-- The bias for the next number. -/
  bias : Nat := 72
  /-- The characters that are in their places. -/
  length : Nat
  /-- Whether no number was written. -/
  first : Bool := true
  /-- The numbers written. -/
  text : List Char := []

/-- Pass a place of the text while the places of `char` are looked for. -/
def pass (char : Nat) (p : Progress) (c : Char) : Progress :=
  if c.toNat < char then { p with gap := p.gap + 1 }
  else if c.toNat = char then
    { gap := 0, bias := adapt p.gap (p.length + 1) p.first, length := p.length + 1
      first := false, text := p.text ++ digits p.bias 36 p.gap }
  else p

/-- Write the places of all characters of `chars`, which are in increasing order. `reached` is
the character whose places come next. -/
def writeAll (s : List Char) (reached : Nat) : List Nat → Progress → Progress
  | [], p => p
  | char :: rest, p =>
    let p := s.foldl (pass char) { p with gap := p.gap + (char - reached) * (p.length + 1) }
    writeAll s (char + 1) rest { p with gap := p.gap + 1 }

/-- The ASCII text that writes a row of characters. -/
def encode (s : List Char) : List Char :=
  let basic := s.filter fun c => c.toNat < 128
  let others := ((s.filter fun c => 128 ≤ c.toNat).map Char.toNat).mergeSort.eraseDups
  basic ++ (if basic.isEmpty then [] else ['-']) ++
    (writeAll s 128 others { length := basic.length }).text

end ChartSchema.Net.Punycode
