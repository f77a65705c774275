import ChartSchema.Text.Basic
import ChartSchema.Text.Timestamp
/-!
# Moments, leniently written

`Text.isMoment` holds of the texts that a cluster takes for a moment in time. They write what a
timestamp writes, `2024-01-31T12:00:00Z`, with more freedom: blanks may stand before a number
and before the marks between numbers, numbers need not be padded, a year may carry a sign and
more than four digits, a space may stand for the `T`, and universal time may be named `UTC`.
Every minute may have a sixtieth second.

A reader takes a text and returns what it found together with the rest of the text.
-/

namespace ChartSchema.Text

/-- The number that decimal digits write. -/
def digitsValue (digits : List Char) : Nat :=
  digits.foldl (fun n c => n * 10 + (c.toNat - '0'.toNat)) 0

/-- A number of at least one and at most `width` digits, after blanks. -/
def number? (width : Nat) (s : List Char) : Option (Nat × List Char) :=
  let digits := ((trimStart s).take width).takeWhile Char.isDigit
  if digits.isEmpty then none
  else some (digitsValue digits, (trimStart s).drop digits.length)

/-- A number of any length, with no blanks before it. -/
def longNumber? (s : List Char) : Option (Nat × List Char) :=
  let digits := s.takeWhile Char.isDigit
  if digits.isEmpty then none else some (digitsValue digits, s.dropWhile Char.isDigit)

/-- A year: four digits at most, or any number of them after a sign. -/
def year? (s : List Char) : Option (Int × List Char) :=
  match trimStart s with
  | '+' :: r => (longNumber? r).map fun (n, r) => ((n : Int), r)
  | '-' :: r => (longNumber? r).map fun (n, r) => (-(n : Int), r)
  | r => (number? 4 r).map fun (n, r) => ((n : Int), r)

/-- A mark between numbers, after blanks; what follows it. -/
def afterMark? (mark : Char) (s : List Char) : Option (List Char) :=
  match trimStart s with
  | c :: r => if c = mark then some r else none
  | [] => none

/-- The first year and the last year that have dates. -/
def yearBounds : Int × Int := (-262143, 262142)

/-- A date. -/
def date? (s : List Char) : Option ((Int × Nat × Nat) × List Char) := do
  let (year, s) ← year? s
  let (month, s) ← number? 2 (← afterMark? '-' s)
  let (day, s) ← number? 2 (← afterMark? '-' s)
  if yearBounds.1 ≤ year ∧ year ≤ yearBounds.2 ∧ 1 ≤ month ∧ month ≤ 12 ∧ 1 ≤ day ∧
      day ≤ daysOfMonth (year % 400).toNat month then
    return ((year, month, day), s)
  else none

/-- A time of a day, in minutes. -/
def timeOfDay? (s : List Char) : Option (Nat × List Char) := do
  let (hour, s) ← number? 2 s
  let (minute, s) ← number? 2 (← afterMark? ':' s)
  let (second, s) ← number? 2 (← afterMark? ':' s)
  let s ← afterFraction? s
  if hour ≤ 23 ∧ minute ≤ 59 ∧ second ≤ 60 then return (hour * 60 + minute, s) else none

/-- How many minutes a time is ahead of universal time, with less than a day between them. -/
def zone? (s : List Char) : Option (Int × List Char) :=
  let signed (ahead : Bool) : List Char → Option (Int × List Char)
    | h :: i :: r =>
      match r.dropWhile fun c => c == ':' || isBlank c with
      | m :: n :: r =>
        let minutes := digitsValue [h, i] * 60 + digitsValue [m, n]
        if [h, i, m, n].all Char.isDigit && m ≤ '5' && minutes < 1440 then
          some (if ahead then minutes else -(minutes : Int), r)
        else none
      | _ => none
    | _ => none
  match trimStart s with
  | 'Z' :: r | 'z' :: r => some (0, r)
  | '+' :: r => signed true r
  | '-' :: r | '\u2212' :: r => signed false r
  | u :: t :: c :: r => if [u, t, c].map Char.toUpper == ['U', 'T', 'C'] then some (0, r) else none
  | _ => none

/-- Whether a text is a moment: nothing but blanks follows its zone, and its day in universal
time has a date too. -/
def isMoment (s : List Char) : Bool :=
  match date? s with
  | some ((year, month, day), 'T' :: r)
  | some ((year, month, day), 't' :: r)
  | some ((year, month, day), ' ' :: r) =>
    match timeOfDay? r with
    | some (minutes, r) =>
      match zone? r with
      | some (offset, r) =>
        let universal := (minutes : Int) - offset
        (trimStart r).isEmpty
          && !(universal < 0 && (year, month, day) == (yearBounds.1, 1, 1))
          && !(1440 ≤ universal && (year, month, day) == (yearBounds.2, 12, 31))
      | none => false
    | none => false
  | _ => false

end ChartSchema.Text
