import ChartSchema.Json.Basic
import ChartSchema.Text.Basic
import ChartSchema.Yaml.Document
/-!
# Values of YAML

What the nodes of a document mean. A scalar in quotes is a text; one without quotes is null, a
truth value or a number if it has the form of one, and a text otherwise. The core tags ask for
one of these kinds whatever the quotes; a tag that starts with `!` is kept around the value.

There are two readings of a document. `Value.ofNode?` keeps everything, refuses a mapping with
two equal keys, and gives a `Value`. `jsonOfNode?` gives a `Json`: keys are texts, the last of
equal keys wins, and there are no tags.
-/

namespace ChartSchema.Yaml

/-- A value of a YAML document. -/
inductive Value where
  /-- The null value. -/
  | null
  /-- A truth value. -/
  | bool (value : Bool)
  /-- A number. -/
  | number (value : Number)
  /-- A text. -/
  | string (value : String)
  /-- A list of values. -/
  | sequence (items : List Value)
  /-- Pairs of a key and a value, in the order of the text. -/
  | mapping (entries : List (Value × Value))
  /-- A value under a tag of its own. -/
  | tagged (tag : String) (value : Value)
  deriving Repr, Inhabited

/-! ## Scalars -/

/-- A scalar's meaning. -/
inductive Scalar where
  /-- The null value. -/
  | null
  /-- A truth value. -/
  | bool (value : Bool)
  /-- A number. -/
  | number (value : Number)
  /-- A text. -/
  | string (value : String)
  deriving Repr

namespace Scalar

/-- The words for null. -/
def isNull (s : String) : Bool := ["null", "Null", "NULL", "~"].contains s

/-- The truth value that a word stands for. -/
def bool? (s : String) : Option Bool :=
  if ["true", "True", "TRUE"].contains s then some true
  else if ["false", "False", "FALSE"].contains s then some false
  else none

/-- The value of a digit in bases up to sixteen. -/
def digit? (base : Nat) (c : Char) : Option Nat := do
  let d ← hexDigit? c
  if d < base then some d else none

/-- The number that a non-empty row of digits writes. -/
def natOfDigits? (base : Nat) (ds : List Char) : Option Nat :=
  if ds.isEmpty then none
  else ds.foldlM (fun n c => (digit? base c).map (n * base + ·)) 0

/-- Whether a text is a row of decimal digits, perhaps behind a sign, with a needless zero
before them. Such a text is not a number. -/
def hasLeadingZero (s : List Char) : Bool :=
  let ds := match s with
    | '+' :: r | '-' :: r => r
    | r => r
  match ds with
  | '0' :: r => !r.isEmpty && r.all Char.isDigit
  | _ => false

/-- The sign of a number and what follows it. -/
def splitSign : List Char → Bool × List Char
  | '+' :: r => (false, r)
  | '-' :: r => (true, r)
  | r => (false, r)

/-- The integer that a text writes, in decimal or in base 16, 8 or 2 behind `0x`, `0o`, `0b`. -/
def int? (s : List Char) : Option Int :=
  let (negative, magnitude) := splitSign s
  let value? := match magnitude with
    | '0' :: 'x' :: r => natOfDigits? 16 r
    | '0' :: 'o' :: r => natOfDigits? 8 r
    | '0' :: 'b' :: r => natOfDigits? 2 r
    | r => if hasLeadingZero s then none else natOfDigits? 10 r
  value?.map fun n => if negative then -(n : Int) else n

/-- An exponent, perhaps absent, at the end of a number. -/
def exponent? : List Char → Option Int
  | [] => some 0
  | 'e' :: r | 'E' :: r =>
    let (negative, ds) := splitSign r
    if ds.all Char.isDigit then
      (natOfDigits? 10 ds).map fun n => if negative then -(n : Int) else n
    else none
  | _ => none

/-- The decimal float that a text writes: digits on at least one side of the point, perhaps an
exponent. -/
def decimal? (s : List Char) : Option Binary64 :=
  let (negative, magnitude) := splitSign s
  let whole := magnitude.takeWhile Char.isDigit
  let r := magnitude.dropWhile Char.isDigit
  let (fraction, r) := match r with
    | '.' :: r => (r.takeWhile Char.isDigit, r.dropWhile Char.isDigit)
    | r => ([], r)
  if whole.isEmpty && fraction.isEmpty then none
  else do
    let exponent ← exponent? r
    let ds := whole ++ fraction
    let digits ← natOfDigits? 10 ds
    return Binary64.ofDecimal negative digits ds.length (exponent - fraction.length)

/-- The float that a text writes: a decimal in range, an infinity, or NaN. -/
def float? (s : String) : Option Binary64 :=
  if [".inf", ".Inf", ".INF", "+.inf", "+.Inf", "+.INF"].contains s then some (.infinite false)
  else if ["-.inf", "-.Inf", "-.INF"].contains s then some (.infinite true)
  else if [".nan", ".NaN", ".NAN"].contains s then some .nan
  else
    match decimal? s.toList with
    | some x => if x.isFinite then some x else none
    | none => none

/-- The integer that a text writes, as a value: one that fits no 64-bit word is refused
(`some none`), and one that does not even fit 128 bits is no integer (`none`). -/
def word? (s : String) : Option (Option Scalar) :=
  match int? s.toList with
  | none => none
  | some n =>
    if Number.fitsWord n then some (some (.number (.int n)))
    else if -(Nat.pow 2 127 : Int) ≤ n ∧ n < Nat.pow 2 128 then some none
    else none

/-- The meaning of a scalar without quotes. -/
def ofPlain? (s : String) : Option Scalar :=
  if s.isEmpty || isNull s then some .null
  else
    match bool? s with
    | some b => some (.bool b)
    | none =>
      match word? s with
      | some value? => value?
      | none =>
        if hasLeadingZero s.toList then some (.string s)
        else
          match float? s with
          | some x => some (.number (.float x))
          | none => some (.string s)

/-- What the core tags start with. -/
def coreTag (name : String) : String := "tag:yaml.org,2002:" ++ name

/-- The meaning of a scalar under a tag that is not kept. -/
def ofTagged? (tag text : String) : Option Scalar :=
  if tag = coreTag "bool" then (bool? text).map .bool
  else if tag = coreTag "int" then (word? text).getD none
  else if tag = coreTag "float" then (float? text).map fun x => .number (.float x)
  else if tag = coreTag "null" then (if isNull text then some .null else none)
  else some (.string text)

/-- The meaning of a scalar whose own tag, if it has one, is not kept. A tag that is not text
counts for nothing. -/
def ofNode? (tag? : Option String) (form : ScalarForm) (text : String) : Option Scalar :=
  let untagged := if form = .plain then ofPlain? text else some (.string text)
  match tag? with
  | some tag => if tag.isEmpty then untagged else ofTagged? tag text
  | none => untagged

end Scalar

/-! ## The reading that keeps everything -/

/-- A scalar as a value. -/
def Value.ofScalar : Scalar → Value
  | .null => .null
  | .bool b => .bool b
  | .number n => .number n
  | .string s => .string s

/-- Equality of numbers as keys: NaN is equal to itself. -/
def sameNumber : Number → Number → Bool
  | .float .nan, .float .nan => true
  | a, b => a.same b

mutual

/-- Equality of values as keys. The order of entries does not matter. -/
def Value.same (a b : Value) : Bool :=
  match a, b with
  | .null, .null => true
  | .bool x, .bool y => x == y
  | .number x, .number y => sameNumber x y
  | .string x, .string y => x == y
  | .sequence xs, .sequence ys => sameItems xs ys
  | .mapping xs, .mapping ys => xs.length == ys.length && sameEntries xs ys
  | .tagged t x, .tagged u y => t == u && x.same y
  | _, _ => false
termination_by structural a

/-- `Value.same` item by item. -/
def Value.sameItems (xs ys : List Value) : Bool :=
  match xs, ys with
  | [], [] => true
  | x :: xs, y :: ys => x.same y && sameItems xs ys
  | _, _ => false
termination_by structural xs

/-- Whether every entry of `xs` is one of `ys`. -/
def Value.sameEntries (xs ys : List (Value × Value)) : Bool :=
  match xs with
  | [] => true
  | (k, v) :: rest => (ys.any fun (l, w) => k.same l && v.same w) && sameEntries rest ys
termination_by structural xs

end

/-- The tag that is kept around a value: one that starts with `!`, without that sign unless it
is all of the tag. -/
def localTag? (tag? : Option String) : Option String := do
  let tag ← tag?
  let name ← Text.afterPrefix? "!" tag
  return if name.isEmpty then tag else name

/-- A value under the tag that is kept. -/
def Value.under (tag? : Option String) (v : Value) : Value :=
  match localTag? tag? with
  | some tag => .tagged tag v
  | none => v

/-- Whether no two keys of the entries are equal. -/
def Value.distinctKeys : List (Value × Value) → Bool
  | [] => true
  | (k, _) :: rest => (rest.all fun (l, _) => !k.same l) && distinctKeys rest

mutual

/-- The value a node without aliases means. -/
def Value.ofNode? (node : Node) : Option Value :=
  match node with
  | .alias _ => none
  | .scalar tag? form text =>
    let own? := if (localTag? tag?).isSome then none else tag?
    (Scalar.ofNode? own? form text).map fun s => Value.under tag? (.ofScalar s)
  | .sequence tag? items => (ofItems? items).map fun items => Value.under tag? (.sequence items)
  | .mapping tag? entries =>
    (ofEntries? entries).bind fun entries =>
      if Value.distinctKeys entries then some (Value.under tag? (.mapping entries)) else none
termination_by structural node

/-- The values of the items of a sequence. -/
def Value.ofItems? (items : List Node) : Option (List Value) :=
  match items with
  | [] => some []
  | item :: rest => do
    let v ← Value.ofNode? item
    let vs ← ofItems? rest
    return v :: vs
termination_by structural items

/-- The keys and values of the entries of a mapping. -/
def Value.ofEntries? (entries : List (Node × Node)) : Option (List (Value × Value)) :=
  match entries with
  | [] => some []
  | (key, value) :: rest => do
    let k ← Value.ofNode? key
    let v ← Value.ofNode? value
    let others ← ofEntries? rest
    return (k, v) :: others
termination_by structural entries

end

/-- The value of a text; a text without a document means null. -/
def Value.parse? (text : String) : Option Value :=
  match Document.parse? text with
  | none => none
  | some none => some .null
  | some (some document) => document.expanded?.bind Value.ofNode?

/-- What a value is under all its tags. -/
def Value.untagged (v : Value) : Value :=
  match v with
  | .tagged _ inner => inner.untagged
  | v => v
termination_by structural v

/-! ## The reading as JSON -/

/-- A scalar as JSON; numbers that JSON does not have become null. -/
def jsonOfScalar : Scalar → Json
  | .null => .null
  | .bool b => .bool b
  | .number (.int n) => .number (.int n)
  | .number (.float x) => if x.isFinite then .number (.float x) else .null
  | .string s => .string s

/-- The text of a key. -/
def keyText? : Node → Option String
  | .scalar _ _ text => some text
  | _ => none

mutual

/-- The JSON value a node without aliases means. -/
def jsonOfNode? (node : Node) : Option Json :=
  match node with
  | .alias _ => none
  | .scalar tag? form text =>
    if (localTag? tag?).isSome then none
    else (Scalar.ofNode? tag? form text).map jsonOfScalar
  | .sequence tag? items =>
    if (localTag? tag?).isSome then none else (jsonOfItems? items).map .array
  | .mapping tag? entries =>
    if (localTag? tag?).isSome then none
    else (jsonOfEntries? entries).map fun members => .object (sortKeys members)
termination_by structural node

/-- The values of the items of a sequence. -/
def jsonOfItems? (items : List Node) : Option (List Json) :=
  match items with
  | [] => some []
  | item :: rest => do
    let v ← jsonOfNode? item
    let vs ← jsonOfItems? rest
    return v :: vs
termination_by structural items

/-- The members that the entries of a mapping write, in the order of the text. -/
def jsonOfEntries? (entries : List (Node × Node)) : Option (List (String × Json)) :=
  match entries with
  | [] => some []
  | (key, value) :: rest => do
    let k ← keyText? key
    let v ← jsonOfNode? value
    let others ← jsonOfEntries? rest
    return (k, v) :: others
termination_by structural entries

end

/-- The JSON value of a YAML text; a text without a document means null. -/
def parseJson? (text : String) : Option Json :=
  match Document.parse? text with
  | none => none
  | some none => some .null
  | some (some document) => document.expanded?.bind jsonOfNode?

end ChartSchema.Yaml
