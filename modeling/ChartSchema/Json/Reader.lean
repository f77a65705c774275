import ChartSchema.Json.Basic
/-!
# Reading JSON text

`Json.parse?` reads a JSON text, blanks around it allowed; the members of an object keep the
order of the text.

An integer that fits 64 bits is read as an integer, `-0` and every other number as a float.
The significand of a float is collected in 64 bits, the digits of a fraction that no longer fit
being dropped, and scaled by powers of ten in binary64 arithmetic; a number whose digits are
few is therefore the nearest one.
-/

namespace ChartSchema.Json

/-- The blanks of JSON. -/
def isSpace (c : Char) : Bool :=
  c == ' ' || c == '\n' || c == '\t' || c == '\r'

/-- The text without leading blanks. -/
def skipSpace (s : List Char) : List Char := s.dropWhile isSpace

/-! ## Numbers -/

/-- The digits at the start of a text, with what follows them. -/
def digits (s : List Char) : List Char × List Char :=
  (s.takeWhile Char.isDigit, s.dropWhile Char.isDigit)

/-- The value of a digit. -/
def digitValue (c : Char) : Nat := c.toNat - '0'.toNat

/-- The value of a row of digits. -/
def natOfDigits (ds : List Char) : Nat :=
  ds.foldl (fun n c => n * 10 + digitValue c) 0

/-- The largest significand. -/
def maxSignificand : Nat := Nat.pow 2 64 - 1

/-- Digits are appended to a significand as long as it fits 64 bits: the significand and how
many digits were left over. -/
def fillSignificand (start : Nat) : List Char → Nat × Nat
  | [] => (start, 0)
  | c :: r =>
    let next := start * 10 + digitValue c
    if maxSignificand < next then (start, r.length + 1) else fillSignificand next r

/-- A power of ten as a binary64 number. -/
def powerOfTen (n : Nat) : Binary64 := Binary64.ofDecimal false 1 1 n

/-- Scale by a power of ten in steps of at most `10 ^ 308`; `none` if the result is infinite. -/
def scale (x : Binary64) (power : Int) : Option Binary64 :=
  if power.natAbs ≤ 308 then
    if 0 ≤ power then
      let y := x.mul (powerOfTen power.natAbs)
      if y.isFinite then some y else none
    else some (x.div (powerOfTen power.natAbs))
  else if x.eq (Binary64.zero false) then some x
  else if 0 ≤ power then none
  else
    let y := x.div (powerOfTen 308)
    if power.natAbs ≤ 616 then some (y.div (powerOfTen (power.natAbs - 308)))
    else some (Binary64.zero false)

/-- The float `± significand · 10 ^ power`. -/
def floatOfParts (negative : Bool) (significand : Nat) (power : Int) : Option Number :=
  (scale (Binary64.ofInt significand) power).map fun x =>
    .float (match x with
      | .finite _ m e => .finite negative m e
      | other => other)

/-- An exponent behind a significand, if there is one. -/
def readExponent (negative : Bool) (significand : Nat) (power : Int) :
    List Char → Option (Number × List Char)
  | 'e' :: r | 'E' :: r =>
    let (minus, r) := match r with
      | '+' :: r => (false, r)
      | '-' :: r => (true, r)
      | r => (false, r)
    let (ds, r) := digits r
    if ds.isEmpty then none
    else
      let e : Int := natOfDigits ds
      (floatOfParts negative significand (if minus then power - e else power + e)).map (·, r)
  | r => (floatOfParts negative significand power).map (·, r)

/-- A number behind its sign. -/
def readUnsigned (negative : Bool) (s : List Char) : Option (Number × List Char) :=
  let (whole, r) := digits s
  if whole.isEmpty || (whole.head? == some '0' && whole.length != 1) then none
  else
    let (significand, dropped) := fillSignificand 0 whole
    match r with
    | '.' :: r =>
      let (fraction, r) := digits r
      if fraction.isEmpty then none
      else
        let (significand, unused) := fillSignificand significand fraction
        let kept : Int := (fraction.length - unused : Nat)
        readExponent negative significand ((dropped : Int) - kept) r
    | 'e' :: _ | 'E' :: _ => readExponent negative significand dropped r
    | r =>
      if dropped = 0 ∧ negative = false then some (.int significand, r)
      else if dropped = 0 ∧ 0 < significand ∧ significand ≤ Nat.pow 2 63 then
        some (.int (-(significand : Int)), r)
      else (floatOfParts negative significand dropped).map (·, r)

/-- A number. -/
def readNumber : List Char → Option (Number × List Char)
  | '-' :: r => readUnsigned true r
  | r => readUnsigned false r

/-! ## Strings -/

/-- The value of a hexadecimal digit. -/
def hexValue? (c : Char) : Option Nat :=
  if c.isDigit then some (c.toNat - '0'.toNat)
  else if 'a' ≤ c ∧ c ≤ 'f' then some (c.toNat - 'a'.toNat + 10)
  else if 'A' ≤ c ∧ c ≤ 'F' then some (c.toNat - 'A'.toNat + 10)
  else none

/-- The value of four hexadecimal digits. -/
def hexUnit? (a b c d : Char) : Option Nat := do
  let a ← hexValue? a
  let b ← hexValue? b
  let c ← hexValue? c
  let d ← hexValue? d
  return ((a * 16 + b) * 16 + c) * 16 + d

/-- The character of a one-letter escape. -/
def escaped? : Char → Option Char
  | '"' => some '"'
  | '\\' => some '\\'
  | '/' => some '/'
  | 'b' => some '\x08'
  | 'f' => some '\x0c'
  | 'n' => some '\n'
  | 'r' => some '\r'
  | 't' => some '\t'
  | _ => none

/-- The rest of a string behind its opening quote; `done` holds what was read, last character
first. A code point beyond 16 bits is written as two escapes. -/
def readString (done : List Char) : List Char → Option (String × List Char)
  | '"' :: r => some (String.ofList done.reverse, r)
  | '\\' :: 'u' :: a :: b :: c :: d :: '\\' :: 'u' :: e :: f :: g :: h :: r =>
    match hexUnit? a b c d, hexUnit? e f g h with
    | some high, some low =>
      if 0xD800 ≤ high ∧ high < 0xDC00 then
        if 0xDC00 ≤ low ∧ low < 0xE000 then
          let code := 0x10000 + (high - 0xD800) * 0x400 + (low - 0xDC00)
          readString (Char.ofNat code :: done) r
        else none
      else if 0xDC00 ≤ high ∧ high < 0xE000 then none
      else readString (Char.ofNat high :: done) ('\\' :: 'u' :: e :: f :: g :: h :: r)
    | _, _ => none
  | '\\' :: 'u' :: a :: b :: c :: d :: r =>
    match hexUnit? a b c d with
    | some code => if 0xD800 ≤ code ∧ code < 0xE000 then none
                   else readString (Char.ofNat code :: done) r
    | none => none
  | '\\' :: c :: r =>
    match escaped? c with
    | some x => readString (x :: done) r
    | none => none
  | c :: r => if c.toNat < 32 then none else readString (c :: done) r
  | [] => none
termination_by s => s.length

/-! ## Values -/

mutual

/-- A value; `fuel` bounds the number of calls, and the length of the text is enough. -/
def readValue : (fuel : Nat) → List Char → Option (Json × List Char)
  | 0, _ => none
  | fuel + 1, s =>
    match skipSpace s with
    | 'n' :: 'u' :: 'l' :: 'l' :: r => some (.null, r)
    | 't' :: 'r' :: 'u' :: 'e' :: r => some (.bool true, r)
    | 'f' :: 'a' :: 'l' :: 's' :: 'e' :: r => some (.bool false, r)
    | '"' :: r => (readString [] r).map fun (text, r) => (.string text, r)
    | '[' :: r =>
      match skipSpace r with
      | ']' :: r => some (.array [], r)
      | r => (readItems fuel r).map fun (items, r) => (.array items, r)
    | '\x7b' :: r =>
      match skipSpace r with
      | '\x7d' :: r => some (.object [], r)
      | r => (readMembers fuel r).map fun (members, r) => (.object members, r)
    | r => (readNumber r).map fun (n, r) => (.number n, r)

/-- The items of an array up to its closing bracket. -/
def readItems : (fuel : Nat) → List Char → Option (List Json × List Char)
  | 0, _ => none
  | fuel + 1, s => do
    let (v, r) ← readValue fuel s
    match skipSpace r with
    | ',' :: r => do
      let (rest, r) ← readItems fuel r
      return (v :: rest, r)
    | ']' :: r => return ([v], r)
    | _ => none

/-- The members of an object up to its closing bracket. -/
def readMembers : (fuel : Nat) → List Char → Option (List (String × Json) × List Char)
  | 0, _ => none
  | fuel + 1, s =>
    match skipSpace s with
    | '"' :: r => do
      let (key, r) ← readString [] r
      match skipSpace r with
      | ':' :: r => do
        let (v, r) ← readValue fuel r
        match skipSpace r with
        | ',' :: r => do
          let (rest, r) ← readMembers fuel r
          return ((key, v) :: rest, r)
        | '\x7d' :: r => return ([(key, v)], r)
        | _ => none
      | _ => none
    | _ => none

end

/-- The value of a JSON text. -/
def parse? (text : String) : Option Json :=
  let s := text.toList
  match readValue (s.length + 1) s with
  | some (v, r) => if (skipSpace r).isEmpty then some v else none
  | none => none

end ChartSchema.Json
