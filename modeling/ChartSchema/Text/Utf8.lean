/-!
# Characters of a row of bytes

A character takes up to four bytes, of which the first says how many there are. Of the rows that
would stand for one number only the shortest counts, and rows for numbers that are no characters
do not count at all.

`notText?` finds the first place where a row of bytes stops being text.
-/

namespace ChartSchema.Text

/-- The bounds of the byte behind the first byte of a character, if there has to be one. -/
def secondByte? (first : UInt8) : Option (UInt8 × UInt8) :=
  if first = 0xE0 then some (0xA0, 0xBF)
  else if first = 0xED then some (0x80, 0x9F)
  else if first = 0xF0 then some (0x90, 0xBF)
  else if first = 0xF4 then some (0x80, 0x8F)
  else if 0xC2 ≤ first && first ≤ 0xF4 then some (0x80, 0xBF)
  else none

/-- How many bytes the character at the start of a row takes. Otherwise, how many bytes there
belong to no character; none if the row ends inside a character. -/
def characterWidth : List UInt8 → Except (Option Nat) Nat
  | [] => .error none
  | a :: r =>
    if a < 0x80 then .ok 1
    else
      match secondByte? a with
      | none => .error (some 1)
      | some (low, high) =>
        let more := if a < 0xE0 then 1 else if a < 0xF0 then 2 else 3
        let fitting := match r with
          | [] => 0
          | b :: rest =>
            if low ≤ b && b ≤ high then
              1 + (rest.takeWhile fun b => 0x80 ≤ b && b ≤ 0xBF).length
            else 0
        if more ≤ fitting then .ok (more + 1)
        else .error (if fitting = r.length then none else some (fitting + 1))

/-- Where a row of bytes stops being text: how many bytes are text, and how many bytes behind them
belong to no character, none if the row ends inside a character. `done` bytes were text before
the row, which is not longer than `steps`. -/
def notTextFrom? (steps done : Nat) (bytes : List UInt8) : Option (Nat × Option Nat) :=
  match steps, bytes with
  | 0, _ | _, [] => none
  | steps + 1, bytes =>
    match characterWidth bytes with
    | .ok width => notTextFrom? steps (done + width) (bytes.drop width)
    | .error bad? => some (done, bad?)

/-- Where a row of bytes stops being text, in the same sense. -/
def notText? (bytes : List UInt8) : Option (Nat × Option Nat) := notTextFrom? bytes.length 0 bytes

end ChartSchema.Text
