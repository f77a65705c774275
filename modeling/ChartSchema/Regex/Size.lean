import ChartSchema.Regex.Basic
/-!
# The size of an expression

An expression without hard forms is laid out as a machine whose states read one byte each, and
the machine may not take more than ten mebibytes. A counted repetition is laid out as often as it
counts, which is what makes an expression too large. The machine is laid out twice, for reading
forwards and backwards; only the first one keeps where groups start and end.

A set of characters becomes paths of byte ranges. Forwards, paths share the states of their equal
ends; backwards, those of their equal starts.
-/

namespace ChartSchema.Regex

/-! ## Paths of bytes -/

/-- The bytes of a code point in UTF-8. -/
def utf8 (n : Nat) : List Nat :=
  if n < 128 then [n]
  else if n < 2048 then [192 + n / 64, 128 + n % 64]
  else if n < 65536 then [224 + n / 4096, 128 + n / 64 % 64, 128 + n % 64]
  else [240 + n / 262144, 128 + n / 4096 % 64, 128 + n / 64 % 64, 128 + n % 64]

/-- The ranges of bytes, one after another, that a range of code points becomes. -/
abbrev BytePath := List (Nat × Nat)

/-- A range cut at the places where code points get another number of bytes or are no
characters. -/
def cutRange (first last : Nat) : List (Nat × Nat) :=
  [(0, 127), (128, 2047), (2048, 55295), (57344, 65535), (65536, 1114111)].filterMap fun piece =>
    let low := max first piece.1
    let high := min last piece.2
    if low ≤ high then some (low, high) else none

/-- The paths of a range whose code points have equally many bytes. `blocks` are the sizes of the
blocks that share all bytes but the last ones. -/
def pathsFrom : (fuel : Nat) → (blocks : List Nat) → (first last : Nat) → List BytePath
  | 0, _, _, _ => []
  | fuel + 1, [], first, last =>
    if fuel = 0 then [] else [(utf8 first).zip (utf8 last)]
  | fuel + 1, block :: blocks, first, last =>
    if first / block = last / block then pathsFrom fuel blocks first last
    else if first % block != 0 then
      pathsFrom fuel (block :: blocks) first (first / block * block + block - 1) ++
        pathsFrom fuel (block :: blocks) (first / block * block + block) last
    else if last % block != block - 1 then
      pathsFrom fuel (block :: blocks) first (last / block * block - 1) ++
        pathsFrom fuel (block :: blocks) (last / block * block) last
    else pathsFrom fuel blocks first last

/-- The paths of a set. -/
def bytePaths (set : CharSet) : List BytePath :=
  set.points.toList.flatMap fun range =>
    (cutRange range.1 range.2).flatMap fun piece =>
      let blocks :=
        if piece.2 < 128 then [] else if piece.2 < 2048 then [64]
        else if piece.2 < 65536 then [64, 4096] else [64, 4096, 262144]
      pathsFrom 16 blocks piece.1 piece.2

/-- The different items of a list in which equal items are neighbours. -/
def runs {α : Type} [BEq α] : List α → List α
  | a :: b :: rest => if a == b then runs (b :: rest) else a :: runs (b :: rest)
  | rest => rest

/-- The different items of a list. -/
def kinds {α : Type} [BEq α] (xs : List α) : List α :=
  xs.foldl (fun found x => if found.contains x then found else x :: found) []

/-- The starts of some paths, of each length. -/
def pathStarts (paths : List BytePath) : List BytePath :=
  [1, 2, 3, 4].flatMap fun n => runs ((paths.filter fun p => n ≤ p.length).map (·.take n))

/-- What can follow each start of so many ranges. -/
def continuations (paths : List BytePath) (n : Nat) : List (List BytePath) :=
  let long := paths.filter fun p => n < p.length
  (runs (long.map (·.take n))).map fun start =>
    (long.filter fun p => p.take n == start).map (·.drop n)

/-! ## Costs -/

/-- The bytes that a machine takes, for reading forwards and backwards. -/
structure Cost where
  /-- Forwards. -/
  forwards : Nat
  /-- Backwards. -/
  backwards : Nat
  deriving Repr

namespace Cost

/-- The same cost both ways. -/
def both (n : Nat) : Cost := ⟨n, n⟩

/-- One cost after another. -/
def add (a b : Cost) : Cost := ⟨a.forwards + b.forwards, a.backwards + b.backwards⟩

/-- A cost so many times. -/
def times (n : Nat) (a : Cost) : Cost := ⟨n * a.forwards, n * a.backwards⟩

end Cost

/-- The bytes of a state. -/
def stateSize : Nat := 32

/-- The bytes of a state that leads to two others. -/
def forkSize : Nat := stateSize + 8

/-- The cost of a set of characters. -/
def setCost (set : CharSet) : Cost :=
  match set.points.toList with
  | [] => .both stateSize
  | (first, last) :: rest =>
    if rest.isEmpty ∧ first = last then .both (stateSize * (utf8 first).length)
    else if (((first, last) :: rest).getLast?.map (·.2)).getD 0 < 128 then
      .both (2 * stateSize + 8 * (rest.length + 1))
    else
      let paths := bytePaths set
      let inner := kinds ([1, 2, 3].flatMap (continuations paths))
      let ways (tails : List BytePath) : Nat := (runs (tails.map (·.take 1))).length
      ⟨2 * stateSize + 8 * ways paths +
          (inner.map fun tails => stateSize + 8 * ways tails).foldl (· + ·) 0,
        stateSize * (2 + (pathStarts paths).length) + 4 * paths.length⟩

/-- The set of an expression that matches one character, written as a set or as alternatives. -/
def asSet? : Regex → Option CharSet
  | .char set => some set
  | .alt a b => do return (← a.asSet?).union (← b.asSet?)
  | .group none r => r.asSet?
  | _ => none

/-- Whether an expression matches the empty text only. -/
def isWidthless (r : Regex) : Bool := r.length == (0, true)

/-- The cost of a repetition of something that costs `once`. -/
def repetitionCost (once : Cost) (widthless : Bool) (minLength least : Nat) (most? : Option Nat) :
    Cost :=
  let least := if widthless then min least 1 else least
  let most? := if widthless then some (min (most?.getD 1) 1) else most?
  match least, most? with
  | 0, some 0 => .both stateSize
  | 0, some 1 => once.add (.both (forkSize + stateSize))
  | 0, none =>
    once.add (.both (if minLength = 0 then 2 * forkSize + stateSize else forkSize))
  | least, none => (once.times least).add (.both forkSize)
  | least, some most =>
    let prior := if least = 0 then .both stateSize else once.times least
    if most ≤ least then prior
    else (prior.add (.both stateSize)).add ((once.add (.both forkSize)).times (most - least))

/-- The cost of an expression without hard forms. -/
def cost : Regex → Cost
  | .char set => setCost set
  | .seq a b => a.cost.add b.cost
  | .alt a b =>
    match (Regex.alt a b).asSet? with
    | some set => setCost set
    | none =>
      let join := match b with
        | .alt .. => 4
        | _ => 2 * stateSize + 8
      (a.cost.add b.cost).add (.both join)
  | .repeated r least most? _ =>
    repetitionCost r.cost r.isWidthless r.length.1 least most?
  | .group none r => r.cost
  | .group (some _) r => r.cost.add ⟨2 * stateSize, 0⟩
  | _ => .both stateSize

/-- The bytes that a machine may take. -/
def sizeLimit : Nat := 10485760

/-- Whether the machine of an expression without hard forms is not too large. The start and the
end of a match take some more states. -/
def isCompact (r : Regex) : Bool :=
  r.cost.forwards + 208 ≤ sizeLimit && r.cost.backwards + 144 ≤ sizeLimit

/-- Whether no part of an expression that has a machine of its own is too large: what is looked
for at a place or taken as a whole, where it has no hard forms. -/
def hasCompactParts (numbers : List Nat) : Regex → Bool
  | .seq a b | .alt a b => a.hasCompactParts numbers && b.hasCompactParts numbers
  | .repeated r _ _ _ | .group _ r => r.hasCompactParts numbers
  | .ahead _ r | .behind _ r | .whole r =>
    (r.isHard numbers || r.isCompact) && r.hasCompactParts numbers
  | .provided c a b =>
    c.hasCompactParts numbers && a.hasCompactParts numbers && b.hasCompactParts numbers
  | _ => true

end ChartSchema.Regex
