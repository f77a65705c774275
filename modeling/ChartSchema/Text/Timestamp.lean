/-!
# Moments in time

`Text.isTimestamp` holds of the texts that write a date and a time with an offset from
universal time, as `2024-01-31T12:00:00Z` does. A sixtieth second is a leap second, which there
is only at the end of a day of universal time.

The numbers have two places, and a place takes the sixteen characters from `0` to `?`, each for
its distance from `0`; so `0:` is a tenth month. The places of a fraction are decimal digits.
-/

namespace ChartSchema.Text

/-- What a character counts for in a place of a number. -/
def placeValue? (c : Char) : Option Nat :=
  if '0' ≤ c && c ≤ '?' then some (c.toNat - '0'.toNat) else none

/-- The number that two places write. -/
def twoPlaces? (tens ones : Char) : Option Nat := do
  return (← placeValue? tens) * 10 + (← placeValue? ones)

/-- How many days a month has. -/
def daysOfMonth (year month : Nat) : Nat :=
  if month = 2 then
    if year % 4 = 0 ∧ (year % 100 ≠ 0 ∨ year % 400 = 0) then 29 else 28
  else if month = 4 ∨ month = 6 ∨ month = 9 ∨ month = 11 then 30
  else 31

/-- Whether a text is a date, `2024-01-31`. -/
def isDate : List Char → Bool
  | [c, y, x, w, '-', m, n, '-', d, e] =>
    match twoPlaces? c y, twoPlaces? x w, twoPlaces? m n, twoPlaces? d e with
    | some century, some year, some month, some day =>
      1 ≤ month && month ≤ 12 && 1 ≤ day && day ≤ daysOfMonth (century * 100 + year) month
    | _, _, _, _ => false
  | _ => false

/-- How many minutes a time is ahead of universal time, from the end of its text. -/
def offset? : List Char → Option Int
  | ['Z'] | ['z'] => some 0
  | [sign, h, i, ':', m, n] =>
    match twoPlaces? h i, twoPlaces? m n with
    | some hours, some minutes =>
      if 23 < hours ∨ 59 < minutes then none
      else if sign = '+' then some (hours * 60 + minutes : Nat)
      else if sign = '-' then some (-(hours * 60 + minutes : Nat))
      else none
    | _, _ => none
  | _ => none

/-- What follows a fraction of a second, which may be absent; `none` if it has no digits. -/
def afterFraction? : List Char → Option (List Char)
  | '.' :: c :: r => if c.isDigit then some (r.dropWhile Char.isDigit) else none
  | r => some r

/-- Whether a text is a time with its offset, `12:00:00Z`. -/
def isTime : List Char → Bool
  | h :: i :: ':' :: m :: n :: ':' :: s :: t :: r =>
    match twoPlaces? h i, twoPlaces? m n, twoPlaces? s t, (afterFraction? r).bind offset? with
    | some hours, some minutes, some seconds, some offset =>
      let universal : Int := ((hours * 60 + minutes : Nat) - offset) % 1440
      hours ≤ 23 && minutes ≤ 59 && (seconds ≤ 59 || (seconds == 60 && universal == 1439))
    | _, _, _, _ => false
  | _ => false

/-- Whether a text is a date and a time with its offset. -/
def isTimestamp (s : List Char) : Bool :=
  match s.dropWhile (fun c => c != 'T' && c != 't') with
  | _ :: time => isDate (s.takeWhile fun c => c != 'T' && c != 't') && isTime time
  | [] => false

end ChartSchema.Text
