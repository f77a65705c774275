import ChartSchema.Regex.CharSet
/-!
# Classes in brackets

What stands between brackets is a class: ranges, named classes and further classes in brackets,
joined by `&&`, `--` and `~~`. A class is read as a tree first. The set that it stands for is
found by name, and a name may be unknown.
-/

namespace ChartSchema.Regex

/-- A class that has a name. -/
inductive NamedClass where
  /-- The class of a letter behind a backslash. -/
  | letter (c : Char)
  /-- An ASCII class such as `alpha`, or what it lacks. -/
  | ascii (negated : Bool) (name : String)
  /-- The characters with a property, or without it. The text says which one. -/
  | property (negated : Bool) (text : String)
  deriving Repr

/-- A class in brackets. -/
inductive BracketClass where
  /-- No character. -/
  | empty
  /-- A range of characters. -/
  | range (first last : Char)
  /-- A named class. -/
  | named (name : NamedClass)
  /-- A class in brackets of its own. -/
  | nested (negated : Bool) (inner : BracketClass)
  /-- The characters of either class. -/
  | union (a b : BracketClass)
  /-- The characters of both classes. -/
  | inter (a b : BracketClass)
  /-- The characters of the first class only. -/
  | diff (a b : BracketClass)
  /-- The characters of exactly one class. -/
  | symmDiff (a b : BracketClass)
  deriving Repr

/-- The name before the first of some marks in a text, and what follows the mark. -/
def splitAtMark? (mark : List Char) : (before : List Char) → List Char →
    Option (List Char × List Char)
  | _, [] => none
  | before, c :: r =>
    if mark.isPrefixOf (c :: r) then some (before.reverse, (c :: r).drop mark.length)
    else splitAtMark? mark (c :: before) r

/-- The set of characters that a text says the property of: a name, or a name and a value. -/
def propertySet? (text : String) : Option CharSet :=
  let s := text.toList
  let pair? := (splitAtMark? ['!', '='] [] s).map (fun p => (true, p)) <|>
    (splitAtMark? [':'] [] s).map (fun p => (false, p)) <|>
    (splitAtMark? ['='] [] s).map (fun p => (false, p))
  match pair? with
  | some (negated, name, value) =>
    (Unicode.ofNameAndValue? (String.ofList name) (String.ofList value)).map fun points =>
      CharSet.negatedIf negated ⟨points⟩
  | none => (Unicode.ofName? text).map fun points => ⟨points⟩

/-- The set of a named class, if the name is known. Case variants are added before the complement
is taken. -/
def NamedClass.set? (ignoreCase : Bool) : NamedClass → Option CharSet
  | .letter c => CharSet.ofLetter? c
  | .ascii negated name =>
    (CharSet.ofName? name).map fun set => (set.anyCaseIf ignoreCase).negatedIf negated
  | .property negated text =>
    (propertySet? text).map fun set => (set.anyCaseIf ignoreCase).negatedIf negated

/-- The set of a class, if all names in it are known. Case variants are added before a complement
is taken, and before classes are joined. -/
def BracketClass.set? (ignoreCase : Bool) : BracketClass → Option CharSet
  | .empty => some CharSet.none
  | .range first last => some (.range first last)
  | .named name => name.set? ignoreCase
  | .nested negated inner =>
    (inner.set? ignoreCase).map fun set => (set.anyCaseIf ignoreCase).negatedIf negated
  | .union a b => do return (← a.set? ignoreCase).union (← b.set? ignoreCase)
  | .inter a b => do
    return ((← a.set? ignoreCase).anyCaseIf ignoreCase).inter
      ((← b.set? ignoreCase).anyCaseIf ignoreCase)
  | .diff a b => do
    return ((← a.set? ignoreCase).anyCaseIf ignoreCase).diff
      ((← b.set? ignoreCase).anyCaseIf ignoreCase)
  | .symmDiff a b => do
    return ((← a.set? ignoreCase).anyCaseIf ignoreCase).symmDiff
      ((← b.set? ignoreCase).anyCaseIf ignoreCase)

end ChartSchema.Regex
