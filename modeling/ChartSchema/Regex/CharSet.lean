import ChartSchema.Unicode.Property
/-!
# Sets of characters

A set of characters is what one place of a regular expression can stand for: a range, a class
such as the digits, or what is made of those by union, intersection and complement. Regardless of
case, a set has all case variants of its members.
-/

namespace ChartSchema

/-- A set of characters. -/
structure CharSet where
  /-- Their code points. -/
  points : Unicode.Ranges

namespace CharSet

/-- Whether a character belongs to the set. -/
def contains (s : CharSet) (c : Char) : Bool := s.points.contains c.toNat

/-- The set without members. -/
def none : CharSet := ⟨.empty⟩

/-- Every character. -/
def all : CharSet := ⟨.all⟩

/-- The characters from one to another, both included. -/
def range (first last : Char) : CharSet := ⟨.ofList [(first.toNat, last.toNat)]⟩

/-- One character. -/
def single (c : Char) : CharSet := range c c

/-- The characters of a list. -/
def ofList (cs : List Char) : CharSet := ⟨.ofList (cs.map fun c => (c.toNat, c.toNat))⟩

/-- The characters of either set. -/
def union (a b : CharSet) : CharSet := ⟨a.points.union b.points⟩

/-- The characters of both sets. -/
def inter (a b : CharSet) : CharSet := ⟨a.points.inter b.points⟩

/-- The characters of the first set that the second one lacks. -/
def diff (a b : CharSet) : CharSet := ⟨a.points.diff b.points⟩

/-- The characters of exactly one of two sets. -/
def symmDiff (a b : CharSet) : CharSet := (a.diff b).union (b.diff a)

/-- The characters that a set lacks. -/
def complement (s : CharSet) : CharSet := ⟨s.points.complement⟩

/-- The complement of a set, if it is asked for. -/
def negatedIf (negated : Bool) (s : CharSet) : CharSet := if negated then s.complement else s

/-- The characters of a set with all their case variants. -/
def anyCase (s : CharSet) : CharSet := ⟨Unicode.anyCase s.points⟩

/-- The set with all case variants, if they are asked for. -/
def anyCaseIf (ignoreCase : Bool) (s : CharSet) : CharSet := if ignoreCase then s.anyCase else s

/-! ## Classes -/

/-- The decimal digits of all scripts. -/
def digit : CharSet := ⟨Unicode.decimalDigit⟩

/-- Letters, marks, digits and what joins them. -/
def word : CharSet := ⟨Unicode.word⟩

/-- Spaces and line breaks of all scripts. -/
def space : CharSet := ⟨Unicode.whiteSpace⟩

/-- Every character but the line feed. -/
def dot : CharSet := complement (single '\n')

/-- The class that a letter behind a backslash stands for; a capital letter stands for what the
class lacks. -/
def ofLetter? (c : Char) : Option CharSet :=
  match c with
  | 'd' => some digit
  | 'D' => some digit.complement
  | 'w' => some word
  | 'W' => some word.complement
  | 's' => some space
  | 'S' => some space.complement
  | _ => Option.none

/-- The ASCII classes that have names. -/
def ofName? (name : String) : Option CharSet :=
  let ranges : Option String := match name with
    | "alnum" => some "30-39 41-5A 61-7A"
    | "alpha" => some "41-5A 61-7A"
    | "ascii" => some "0-7F"
    | "blank" => some "9 20"
    | "cntrl" => some "0-1F 7F"
    | "digit" => some "30-39"
    | "graph" => some "21-7E"
    | "lower" => some "61-7A"
    | "print" => some "20-7E"
    | "punct" => some "21-2F 3A-40 5B-60 7B-7E"
    | "space" => some "9-D 20"
    | "upper" => some "41-5A"
    | "word" => some "30-39 41-5A 5F 61-7A"
    | "xdigit" => some "30-39 41-46 61-66"
    | _ => Option.none
  ranges.map fun text => ⟨.ofText text⟩

end CharSet
end ChartSchema
