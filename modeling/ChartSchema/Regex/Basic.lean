import ChartSchema.Regex.CharSet
/-!
# Regular expressions

An expression describes texts. Most of its forms describe a text by what it is made of: sets of
characters, sequences, alternatives, repetitions. Others say something about the place that was
reached: that it is an edge of the text or of a word, or that something does or does not stand
ahead of it or behind it. A numbered group keeps the text that it matched, and a reference
matches this text again.

What an expression can match depends on the order of its choices where it is taken as a whole:
then it counts with the first way to match it, and no other one is tried.
-/

namespace ChartSchema

/-- A place in a text that an expression can ask for. -/
inductive Regex.Place where
  /-- The start of the text. -/
  | textStart
  /-- The end of the text. -/
  | textEnd
  /-- The start of a line. -/
  | lineStart
  /-- The end of a line. -/
  | lineEnd
  /-- A place between a character of a word and another one or an end of the text. -/
  | wordEdge
  /-- A place that is no edge of a word. -/
  | noWordEdge
  /-- The start of a word. -/
  | wordStart
  /-- The end of a word. -/
  | wordEnd
  deriving Repr, DecidableEq

/-- A regular expression. -/
inductive Regex where
  /-- The empty text. -/
  | empty
  /-- One character of a set. -/
  | char (set : CharSet)
  /-- One expression after another. -/
  | seq (a b : Regex)
  /-- One of two expressions, the first of which is tried first. -/
  | alt (a b : Regex)
  /-- An expression several times, at least and at most so often. If it is greedy, more times are
  tried before fewer. -/
  | repeated (r : Regex) (least : Nat) (most? : Option Nat) (greedy : Bool)
  /-- The empty text at a certain place. -/
  | place (p : Regex.Place)
  /-- The empty text where the expression matches, or does not match if not `here`, what follows. -/
  | ahead (here : Bool) (r : Regex)
  /-- The empty text where the expression matches, or does not match if not `here`, what is
  before. -/
  | behind (here : Bool) (r : Regex)
  /-- An expression taken as a whole. -/
  | whole (r : Regex)
  /-- An expression in parentheses, which may have a number. -/
  | group (number? : Option Nat) (r : Regex)
  /-- The text that the group with a number matched. -/
  | reference (number : Nat)
  /-- The empty text if the group with a number was reached. -/
  | reached (number : Nat)
  /-- An expression taken as a whole and what follows it, or another one where it does not
  match. -/
  | provided (condition a b : Regex)

namespace Regex

/-- An expression without parentheses that have no number. -/
def bare : Regex → Regex
  | .group none r => r.bare
  | r => r

/-- Whether an expression has a form that sets and repetitions alone cannot say, or a group of
one of the numbers. -/
def isHard (numbers : List Nat) : Regex → Bool
  | .empty | .char _ => false
  | .place p => [.wordEdge, .noWordEdge, .wordStart, .wordEnd].contains p
  | .seq a b | .alt a b => a.isHard numbers || b.isHard numbers
  | .repeated r _ _ _ => r.isHard numbers
  | .group number? r =>
    (match number? with
      | some number => numbers.contains number
      | none => false) || r.isHard numbers
  | .ahead .. | .behind .. | .whole _ | .reference _ | .reached _ | .provided .. => true

/-! ## Lengths -/

/-- The alternatives of an expression. Those of an expression in parentheses are its own. -/
def alternatives : Regex → List Regex
  | .alt a b => a :: b.alternatives
  | r => [r]

/-- The least number of characters that an expression matches, and whether it matches no other
number of them. -/
def length : Regex → Nat × Bool
  | .empty | .place _ | .ahead .. | .behind .. | .reached _ => (0, true)
  | .char _ => (1, true)
  | .seq a b => (a.length.1 + b.length.1, a.length.2 && b.length.2)
  | .alt a b =>
    (min a.length.1 b.length.1, a.length.2 && b.length.2 && a.length.1 == b.length.1)
  | .repeated r least most? _ => (r.length.1 * least, r.length.2 && most? == some least)
  | .whole r | .group _ r => r.length
  | .reference _ => (0, false)
  | .provided c a b =>
    (c.length.1 + min a.length.1 b.length.1,
      c.length.2 && a.length.2 && b.length.2 && c.length.1 + a.length.1 == b.length.1)

/-- Whether some repetition has a greatest count below its least one. -/
def hasInvertedCount : Regex → Bool
  | .empty | .char _ | .place _ | .reference _ | .reached _ => false
  | .seq a b | .alt a b => a.hasInvertedCount || b.hasInvertedCount
  | .repeated r least most? _ =>
    (match most? with
      | some most => decide (most < least)
      | none => false) || r.hasInvertedCount
  | .ahead _ r | .behind _ r | .whole r | .group _ r => r.hasInvertedCount
  | .provided c a b => c.hasInvertedCount || a.hasInvertedCount || b.hasInvertedCount

/-- The expression that looks for each of some alternatives before a place: one of them is there,
or none of them. -/
def behindEach (here : Bool) : List Regex → Regex
  | [] => .empty
  | [r] => .behind here r
  | r :: rs =>
    if here then .alt (.behind here r) (behindEach here rs)
    else .seq (.behind here r) (behindEach here rs)

/-- The expression in which alternatives of different lengths that are looked for before a place
are looked for one by one. -/
def spread : Regex → Regex
  | .seq a b => .seq a.spread b.spread
  | .alt a b => .alt a.spread b.spread
  | .repeated r least most? greedy => .repeated r.spread least most? greedy
  | .ahead here r => .ahead here r.spread
  | .behind here r =>
    if r.length.2 then .behind here r.spread
    else behindEach here r.spread.bare.alternatives
  | .whole r => .whole r.spread
  | .group number? r => .group number? r.spread
  | .provided c a b => .provided c.spread a.spread b.spread
  | r => r

/-- Whether an expression can be used: what it looks for before a place has fixed lengths, and
counts are in order in what is taken as a whole. `numbers` are those of the groups that are
referred to. -/
def isUsable (numbers : List Nat) : Regex → Bool
  | .empty | .char _ | .place _ | .reference _ | .reached _ => true
  | .seq a b | .alt a b => a.isUsable numbers && b.isUsable numbers
  | .repeated r _ _ _ | .group _ r => r.isUsable numbers
  | .ahead _ r | .whole r =>
    r.isUsable numbers && (r.isHard numbers || !r.hasInvertedCount)
  | .behind _ r =>
    r.isUsable numbers && (r.isHard numbers || !r.hasInvertedCount) && r.length.2
  | .provided c a b => c.isUsable numbers && a.isUsable numbers && b.isUsable numbers

end Regex
end ChartSchema
