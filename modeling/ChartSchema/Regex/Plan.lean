import ChartSchema.Regex.Basic
/-!
# Plans

A `Plan` says in which order the ways to match an expression are gone through. An expression is
easy if it is not hard: sets and repetitions can say it. Much of what is easy is matched in one
go and left with its first match, `Plan.first`, so that there is nothing in it to go back to; what
is hard, and what is between hard things, is taken apart.

In a sequence the easy pieces of fixed length at either end are matched in one go. Where nothing
behind the sequence can ask for another way, all easy pieces at its end are.
-/

namespace ChartSchema.Regex

/-- How the ways to match an expression are gone through. -/
inductive Plan where
  /-- The first match of an easy expression, which is not gone back to. -/
  | first (r : Regex)
  /-- One after the other. -/
  | seq (a b : Plan)
  /-- One of two, the first one first. -/
  | alt (a b : Plan)
  /-- Several times, at least and at most so often, more times before fewer if it is greedy. If it
  is watched, it is not gone through again where it led nowhere. -/
  | many (p : Plan) (least : Nat) (most? : Option Nat) (greedy watched : Bool)
  /-- The empty text where the plan leads to a match, or does not if not `here`, of what follows. -/
  | ahead (here : Bool) (p : Plan)
  /-- The empty text where the plan leads to a match, or does not if not `here`, of what is before,
  from so many characters before. -/
  | behind (here : Bool) (count : Nat) (p : Plan)
  /-- The first match, which is not gone back to. -/
  | whole (p : Plan)
  /-- A numbered group. -/
  | group (number : Nat) (p : Plan)
  /-- The text that a group matched. -/
  | reference (number : Nat)
  /-- The empty text if a group was reached. -/
  | reached (number : Nat)
  /-- The first match of a condition and what follows it, or another plan. -/
  | provided (condition a b : Plan)

/-- Where an expression stands. -/
inductive Part where
  /-- On its own. -/
  | alone
  /-- At the end of a sequence, behind pieces that are matched in one go. -/
  | leading
  /-- At the end of a sequence, behind other pieces. -/
  | inner
  /-- At the end of alternatives. -/
  | choice
  deriving DecidableEq

/-- Whether an expression is matched in one go: an easy one whose ways need not stay open, or
which has no others. -/
def isSwift (numbers : List Nat) (opened inSequence : Bool) (r : Regex) : Bool :=
  !r.isHard numbers && (!opened || (inSequence && r.length.2))

/-- The plan for an expression. The ways to match it stay open if it is `opened`, and `numbers` are
those of the groups that are referred to. -/
def plan (numbers : List Nat) : Regex → (opened : Bool) → Part → Plan
  | .seq a b, opened, part =>
    if isSwift numbers opened true (.seq a b) then .first (.seq a b)
    else
      let leads := part != .inner && isSwift numbers true true a
      .seq (if leads then .first a else a.plan numbers true .alone)
        (b.plan numbers opened (if leads then .leading else .inner))
  | r, opened, part =>
    let inSequence := part = .leading || part = .inner
    if part != .choice && isSwift numbers opened inSequence r then .first r
    else
      let opened := opened || inSequence
      match r with
      | .alt a b => .alt (a.plan numbers opened .alone) (b.plan numbers opened .choice)
      | .repeated r least most? greedy =>
        let watched := most?.isNone && r.length.1 == 0
        let opened := opened || (!(least = 0 && most? = some 1) && r.isHard numbers)
        .many (r.plan numbers opened .alone) least most? greedy watched
      | .ahead here r => .ahead here (r.plan numbers false .alone)
      | .behind here r => .behind here r.length.1 (r.plan numbers false .alone)
      | .whole r => .whole (r.plan numbers false .alone)
      | .group (some number) r => .group number (r.plan numbers opened .alone)
      | .group none r => r.plan numbers opened .alone
      | .reference number => .reference number
      | .reached number => .reached number
      | .provided c a b =>
        .provided (c.plan numbers opened .alone) (a.plan numbers opened .alone)
          (b.plan numbers opened .alone)
      | r => .first r

end ChartSchema.Regex
