import ChartSchema.Text.Basic
/-!
# Templates of references

A template is a reference with expressions in braces: variables between commas, perhaps behind
an operator, each perhaps with a length or a star. Letters in variables and escapes are small.
-/

namespace ChartSchema.Net.UriTemplate

/-- Whether two characters write an escape behind a per cent sign. -/
def isEscape (a b : Char) : Bool :=
  [a, b].all fun c => c.isDigit || ('a' ≤ c && c ≤ 'f')

/-- Whether a character may stand outside of expressions. -/
def isLiteral (c : Char) : Bool :=
  ' ' < c && !"\"'<>%\\^\x60\x7b|\x7d".toList.contains c

/-- What follows the name of a variable, if there is a name. `found` says whether a part of it was
read. -/
def afterName? (found : Bool) : List Char → Option (List Char)
  | '%' :: a :: b :: r => if isEscape a b then afterName? true r else none
  | c :: r =>
    if c.isLower || c.isDigit || c == '_' then afterName? true r
    else if found then some (c :: r)
    else none
  | [] => if found then some [] else none

/-- Whether a text is a variable with what is said about it. -/
def isVariable (s : List Char) : Bool :=
  match afterName? false s with
  | none => false
  | some [] | some ['*'] => true
  | some (':' :: d :: ds) =>
    d.isDigit && d != '0' && ds.length ≤ 3 && ds.all Char.isDigit
  | some _ => false

/-- Whether a text may stand between braces. -/
def isExpression (s : List Char) : Bool :=
  let listed := match s with
    | c :: r => if "+#./;?&=,!@|".toList.contains c then r else s
    | [] => s
  (Text.splitOn (· == ',') listed).all isVariable

/-- Whether a text is a template. `open?` has what was read of an expression, last character
first. -/
def fits (open? : Option (List Char)) : List Char → Bool
  | [] => open?.isNone
  | '%' :: a :: b :: r =>
    match open? with
    | some content => fits (some ('%' :: content)) (a :: b :: r)
    | none => isEscape a b && fits none r
  | c :: r =>
    match open? with
    | some content =>
      if c = '\x7d' then isExpression content.reverse && fits none r
      else fits (some (c :: content)) r
    | none => if c = '\x7b' then fits (some []) r else isLiteral c && fits none r

end UriTemplate

/-- Whether a text is a template of references. -/
def isUriTemplate (s : List Char) : Bool := UriTemplate.fits none s

end ChartSchema.Net
