/-!
# Tables over code points

Facts about characters are kept as texts and looked up by code point. A table of runs says
something about every code point: `Zs1Po3` says that the first one is `Zs` and the next three are
`Po`. A table of ranges lists the code points of a set in hexadecimal digits, as `41-5A AA`.

Both are arrays with increasing first code points, so a code point is found by halving.
-/

namespace ChartSchema.Unicode

/-- How many of the numbers from position `low` to position `high` of an increasing array, and of
those before, are not above `n`. -/
def rankBetween (starts : Array Nat) (n low high : Nat) : Nat :=
  if low < high then
    let middle := (low + high) / 2
    match starts[middle]? with
    | some start =>
      if start ≤ n then rankBetween starts n (middle + 1) high
      else rankBetween starts n low middle
    | none => low
  else low
termination_by high - low

/-- How many numbers of an increasing array are not above `n`. -/
def rank (starts : Array Nat) (n : Nat) : Nat := rankBetween starts n 0 starts.size

/-! ## Runs -/

/-- A function on code points that is constant on runs of neighbours. -/
structure Runs (α : Type) where
  /-- The first code points of the runs. -/
  starts : Array Nat
  /-- The values on the runs. -/
  values : Array α

namespace Runs

/-- The runs that a text lists, each with its first code point. `label` and `count` are what was
read of the run that starts at `start`. -/
def entries (start : Nat) (label : List Char) (count : Nat) : List Char → List (Nat × String)
  | [] => [(start, String.ofList label)]
  | c :: rest =>
    if c.isDigit then entries start label (count * 10 + (c.toNat - '0'.toNat)) rest
    else if count = 0 then entries start (label ++ [c]) 0 rest
    else (start, String.ofList label) :: entries (start + count) [c] 0 rest

/-- The runs that a text lists, whose labels stand for values. -/
def ofText {α : Type} (value : String → α) (text : String) : Runs α :=
  let all := entries 0 [] 0 text.toList
  ⟨(all.map (·.1)).toArray, (all.map fun entry => value entry.2).toArray⟩

/-- The value on the run of a code point. -/
def value? {α : Type} (runs : Runs α) (n : Nat) : Option α := runs.values[rank runs.starts n - 1]?

/-- The runs whose values pass a test, as ranges with both ends. The last run has no end but that
of all code points. -/
def rangesFrom {α : Type} (test : α → Bool) (limit : Nat) : List (Nat × α) → List (Nat × Nat)
  | [] => []
  | [(start, v)] => if test v then [(start, limit)] else []
  | (start, v) :: (next, w) :: rest =>
    let more := rangesFrom test limit ((next, w) :: rest)
    if test v then (start, next - 1) :: more else more

end Runs

/-! ## Ranges -/

/-- The last code point. -/
def lastCodePoint : Nat := 1114111

/-- Ranges in order, where those that touch or overlap are one. -/
def coalesce : List (Nat × Nat) → List (Nat × Nat)
  | [] => []
  | [range] => [range]
  | (a, b) :: (c, d) :: rest =>
    if c ≤ b + 1 then coalesce ((a, max b d) :: rest) else (a, b) :: coalesce ((c, d) :: rest)
termination_by ranges => ranges.length

/-- The ranges between others from a code point on, up to the last code point. -/
def gapsFrom (start : Nat) : List (Nat × Nat) → List (Nat × Nat)
  | [] => if start ≤ lastCodePoint then [(start, lastCodePoint)] else []
  | (a, b) :: rest => if start < a then (start, a - 1) :: gapsFrom (b + 1) rest
    else gapsFrom (b + 1) rest

/-- A set of code points: ranges with both ends, in order and apart from each other. -/
structure Ranges where
  /-- The ranges. -/
  toList : List (Nat × Nat)
  /-- The first code points of the ranges. -/
  starts : Array Nat
  /-- The last code points of the ranges. -/
  ends : Array Nat

namespace Ranges

/-- The set with ranges that are in order and apart. -/
def ofOrdered (ranges : List (Nat × Nat)) : Ranges :=
  ⟨ranges, (ranges.map (·.1)).toArray, (ranges.map (·.2)).toArray⟩

/-- The set with some ranges. -/
def ofList (ranges : List (Nat × Nat)) : Ranges :=
  ofOrdered (coalesce (ranges.mergeSort fun a b => decide (a.1 ≤ b.1)))

/-- The value of a hexadecimal digit. -/
def digit (c : Char) : Nat :=
  if c.isDigit then c.toNat - '0'.toNat else c.toNat - 'A'.toNat + 10

/-- The ranges that a text lists. `first?` is the start of a range whose end is being read, and
`n` is the number read so far. -/
def entries (first? : Option Nat) (n : Nat) : List Char → List (Nat × Nat)
  | [] => [(first?.getD n, n)]
  | ' ' :: rest => (first?.getD n, n) :: entries none 0 rest
  | '-' :: rest => entries (some n) 0 rest
  | c :: rest => entries first? (n * 16 + digit c) rest

/-- The set whose ranges a text lists in order. -/
def ofText (text : String) : Ranges := ofOrdered (entries none 0 text.toList)

/-- The set of the code points on runs whose values pass a test. -/
def ofRuns {α : Type} (runs : Runs α) (test : α → Bool) : Ranges :=
  ofOrdered (coalesce
    (Runs.rangesFrom test lastCodePoint (runs.starts.toList.zip runs.values.toList)))

/-- Whether a code point is in the set. -/
def contains (ranges : Ranges) (n : Nat) : Bool :=
  match ranges.ends[rank ranges.starts n - 1]? with
  | some last => rank ranges.starts n != 0 && decide (n ≤ last)
  | none => false

/-- No code point. -/
def empty : Ranges := ofOrdered []

/-- All code points. -/
def all : Ranges := ofOrdered [(0, lastCodePoint)]

/-- The code points of either set. -/
def union (a b : Ranges) : Ranges := ofList (a.toList ++ b.toList)

/-- The code points that a set lacks. -/
def complement (a : Ranges) : Ranges := ofOrdered (gapsFrom 0 a.toList)

/-- The code points of both sets. -/
def inter (a b : Ranges) : Ranges := (a.complement.union b.complement).complement

/-- The code points of the first set that the second one lacks. -/
def diff (a b : Ranges) : Ranges := (a.complement.union b).complement

/-- The code points of some sets. -/
def unionAll (sets : List Ranges) : Ranges := ofList (sets.flatMap (·.toList))

end Ranges
end ChartSchema.Unicode
