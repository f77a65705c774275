import ChartSchema.Yaml.Cursor
import ChartSchema.Text.Basic
/-!
# Reading scalars

The three ways to write a scalar, each as a function from the text behind its first character
to the scalar's content and the rest of the text.

A scalar in quotes or without them may go over several lines. The blanks and breaks between two
of its words form a `Gap`: without a break the blanks are kept, a single break stands for a
blank, and of several breaks all but the first are kept. A block scalar keeps its lines, or
folds them in the same manner, and its header says what becomes of the breaks at its end.
-/

namespace ChartSchema.Yaml

/-! ## Gaps between words -/

/-- Blanks and breaks between two words of a scalar. -/
structure Gap where
  /-- The blanks, as long as no break was met. -/
  blanks : List Char := []
  /-- The first break, if there is one. -/
  first? : Option Char := none
  /-- Whether the gap starts after a break already, an escaped one. -/
  escaped : Bool := false
  /-- The breaks after the first one. -/
  more : List Char := []
  /-- The column after the last break. -/
  column : Nat := 0
  /-- Whether a tab stands left of the column `limit` in a line after a break. -/
  badTab : Bool := false
  deriving Repr

namespace Gap

/-- Whether the gap holds a break. -/
def hasBreak (g : Gap) : Bool := g.escaped || g.first?.isSome

/-- What the gap contributes to the scalar's content. -/
def text (g : Gap) : List Char :=
  match g.first? with
  | some '\n' => if g.more.isEmpty then [' '] else g.more
  | some c => c :: g.more
  | none => if g.escaped then g.more else g.blanks

/-- The gap with one more break. -/
def addBreak (g : Gap) (c : Char) : Gap :=
  if g.hasBreak then { g with more := g.more ++ [c], column := 0 }
  else { g with blanks := [], first? := some c, column := 0 }

/-- The gap with one more blank. A tab must not take the place of indentation, which is what
stands left of the column `limit`. -/
def addBlank (g : Gap) (limit : Nat) (c : Char) : Gap :=
  if g.hasBreak then
    { g with column := g.column + 1, badTab := g.badTab || (c == '\t' && g.column < limit) }
  else { g with blanks := g.blanks ++ [c] }

end Gap

/-- Read a gap. -/
def readGap (limit : Nat) (g : Gap) : List Char → Gap × List Char
  | [] => (g, [])
  | '\r' :: '\n' :: r => readGap limit (g.addBreak '\n') r
  | c :: r =>
    if isBlank c then readGap limit (g.addBlank limit c) r
    else if isBreak c then
      readGap limit (g.addBreak (if c = '\u2028' ∨ c = '\u2029' then c else '\n')) r
    else (g, c :: r)

/-! ## Scalars without quotes -/

/-- The brackets and commas of flow collections. -/
def isFlowIndicator (c : Char) : Bool :=
  c == ',' || c == '[' || c == ']' || c == '\x7b' || c == '\x7d'

/-- Whether a text is at a bracket, a comma or a question mark. -/
def atFlowStop : List Char → Bool
  | [] => false
  | c :: _ => isFlowIndicator c || c == '?'

/-- A word of a plain scalar and what follows it. A colon ends it before a blank; in a flow
collection the indicators end it too, and a colon just before one is refused. -/
def readPlainWord (inFlow : Bool) : List Char → Option (List Char × List Char)
  | [] => some ([], [])
  | c :: r =>
    if isBlank c || isBreak c then some ([], c :: r)
    else if inFlow && c == ':' && atFlowStop r then none
    else if (c == ':' && atSpace r) || (inFlow && isFlowIndicator c) then some ([], c :: r)
    else (readPlainWord inFlow r).map fun (word, rest) => (c :: word, rest)

/-- The rest of a plain scalar: its content, whether a line ended behind its last word, and the
rest of the text. `limit` is the least column at which the scalar may go on in a later line;
`words` bounds the number of words. -/
def readPlain (inFlow : Bool) (limit : Nat) (gap : Gap) :
    (words : Nat) → List Char → Option (List Char × Bool × List Char)
  | 0, s => some ([], gap.hasBreak, s)
  | words + 1, s =>
    if (gap.hasBreak && gap.column == 0 && atDocumentMark s) || s.head? == some '#' then
      some ([], gap.hasBreak, s)
    else do
      let (word, r) ← readPlainWord inFlow s
      let lead := if word.isEmpty then [] else gap.text
      let carried := if word.isEmpty then gap else {}
      if r.isEmpty || !atSpace r then return (lead ++ word, carried.hasBreak, r)
      else
        let (gap, r) := readGap limit carried r
        if gap.badTab then none
        else if !inFlow && gap.hasBreak && gap.column < limit then
          return (lead ++ word, true, r)
        else
          let (text, ended, r) ← readPlain inFlow limit gap words r
          return (lead ++ word ++ text, ended, r)

/-! ## Scalars in quotes -/

/-- The value of a hexadecimal digit. -/
def hexDigit? (c : Char) : Option Nat :=
  if '0' ≤ c ∧ c ≤ '9' then some (c.toNat - '0'.toNat)
  else if 'a' ≤ c ∧ c ≤ 'f' then some (c.toNat - 'a'.toNat + 10)
  else if 'A' ≤ c ∧ c ≤ 'F' then some (c.toNat - 'A'.toNat + 10)
  else none

/-- The number that the next `count` hexadecimal digits write, and the rest. -/
def readHex (value : Nat) : (count : Nat) → List Char → Option (Nat × List Char)
  | 0, s => some (value, s)
  | _ + 1, [] => none
  | count + 1, c :: r => do
    let d ← hexDigit? c
    readHex (value * 16 + d) count r

/-- The character of a one-letter escape. -/
def escapedChar? (c : Char) : Option Char :=
  match c with
  | '0' => some '\x00'
  | 'a' => some '\x07'
  | 'b' => some '\x08'
  | 't' | '\t' => some '\t'
  | 'n' => some '\n'
  | 'v' => some '\x0b'
  | 'f' => some '\x0c'
  | 'r' => some '\r'
  | 'e' => some '\x1b'
  | ' ' => some ' '
  | '"' => some '"'
  | '/' => some '/'
  | '\\' => some '\\'
  | 'N' => some '\x85'
  | '_' => some '\xa0'
  | 'L' => some '\u2028'
  | 'P' => some '\u2029'
  | _ => none

/-- How many digits a numeric escape has. -/
def hexLength? (c : Char) : Option Nat :=
  match c with
  | 'x' => some 2
  | 'u' => some 4
  | 'U' => some 8
  | _ => none

/-- What stands behind a backslash: the character it writes and the rest. -/
def readEscape? : List Char → Option (Char × List Char)
  | [] => none
  | c :: r =>
    match hexLength? c with
    | some count => do
      let (code, r) ← readHex 0 count r
      if (0xD800 ≤ code ∧ code ≤ 0xDFFF) ∨ 0x10FFFF < code then none
      else some (Char.ofNat code, r)
    | none => (escapedChar? c).map (·, r)

/-- The rest of a scalar in quotes: its content and the rest of the text. `single` tells the two
kinds of quotes apart, `atStart` whether a line has just begun; `steps` bounds the number of
characters and gaps. -/
def readQuoted (single : Bool) (atStart : Bool) :
    (steps : Nat) → List Char → Option (List Char × List Char)
  | 0, _ => none
  | steps + 1, s =>
    if atStart && atDocumentMark s then none
    else
      match s with
      | [] => none
      | c :: r =>
        let quoteMark := if single then '\'' else '"'
        if single && c == '\'' && r.head? == some '\'' then
          (readQuoted single false steps r.tail).map fun (text, r) => ('\'' :: text, r)
        else if c == quoteMark then some ([], r)
        else if !single && c == '\\' then
          match takeBreak? r with
          | some (_, r) =>
            let (gap, r) := readGap 0 { escaped := true } r
            (readQuoted single (gap.column == 0) steps r).map fun (text, r) =>
              (gap.text ++ text, r)
          | none => do
            let (x, r) ← readEscape? r
            let (text, r) ← readQuoted single false steps r
            return (x :: text, r)
        else if isBlank c || isBreak c then
          let (gap, r) := readGap 0 {} s
          (readQuoted single (gap.hasBreak && gap.column == 0) steps r).map fun (text, r) =>
            (gap.text ++ text, r)
        else (readQuoted single false steps r).map fun (text, r) => (c :: text, r)

/-! ## Block scalars -/

/-- What becomes of the line breaks at the end of a block scalar. -/
inductive Chomping where
  /-- All are dropped. -/
  | strip
  /-- One is kept. -/
  | clip
  /-- All are kept. -/
  | keep
  deriving Repr, DecidableEq

/-- The header of a block scalar: its chomping, its indentation if it is given, and the rest of
the line. -/
def readBlockHeader : List Char → Option (Chomping × Option Nat × List Char)
  | c :: d :: r =>
    let chomping? (x : Char) : Option Chomping :=
      if x = '+' then some .keep else if x = '-' then some .strip else none
    match chomping? c with
    | some chomping =>
      if d.isDigit then
        if d = '0' then none else some (chomping, some (d.toNat - '0'.toNat), r)
      else some (chomping, none, d :: r)
    | none =>
      if c.isDigit then
        if c = '0' then none
        else
          match chomping? d with
          | some chomping => some (chomping, some (c.toNat - '0'.toNat), r)
          | none => some (.clip, some (c.toNat - '0'.toNat), d :: r)
      else some (.clip, none, c :: d :: r)
  | [c] =>
    if c = '+' then some (.keep, none, [])
    else if c = '-' then some (.strip, none, [])
    else if c.isDigit then (if c = '0' then none else some (.clip, some (c.toNat - '0'.toNat), []))
    else some (.clip, none, [c])
  | [] => some (.clip, none, [])

/-- The empty lines before a line of a block scalar. -/
structure BlankLines where
  /-- Their breaks. -/
  breaks : List Char := []
  /-- The indentation of the line after them. -/
  column : Nat := 0
  /-- The deepest indentation met. -/
  deepest : Nat := 0
  /-- The rest of the text. -/
  rest : List Char := []

/-- Read empty lines. Blanks count as indentation left of the column `indent`, or everywhere if
it is zero; a tab there is refused. -/
def readBlankLines (indent : Nat) (column deepest : Nat) (breaks : List Char) :
    List Char → Option BlankLines
  | [] => some ⟨breaks, column, max deepest column, []⟩
  | c :: r =>
    let inside := indent == 0 || column < indent
    if inside && c == ' ' then readBlankLines indent (column + 1) deepest breaks r
    else if inside && c == '\t' then none
    else if c == '\r' && r.head? == some '\n' then
      readBlankLines indent column (max deepest column) breaks r
    else if isBreak c then
      readBlankLines indent 0 (max deepest column)
        (breaks ++ [if c = '\u2028' ∨ c = '\u2029' then c else '\n']) r
    else some ⟨breaks, column, max deepest column, c :: r⟩

/-- The lines of a block scalar from the place behind its empty lines on. `lineBreak` is the
break of the line before, `afterBlank` says whether that line started with a blank; `steps`
bounds the number of lines. The answer is the content without what stands at its end, the last
line's break, the breaks of the empty lines after it, and the rest of the text. -/
def readBlockLines (literal : Bool) (indent : Nat) (lineBreak : List Char) (afterBlank : Bool)
    (blank : BlankLines) :
    (steps : Nat) → Option (List Char × List Char × List Char × List Char)
  | 0 => none
  | steps + 1 =>
    if blank.column ≠ indent ∨ blank.rest = [] then
      some ([], lineBreak, blank.breaks, blank.rest)
    else do
      let startsBlank := match blank.rest with | c :: _ => isBlank c | [] => false
      let lead :=
        if !literal && lineBreak.head? == some '\n' && !afterBlank && !startsBlank then
          if blank.breaks.isEmpty then [' '] else []
        else lineBreak
      let content := lineRest blank.rest
      let r := blank.rest.dropWhile (!isBreak ·)
      let (newBreak, r) := match takeBreak? r with
        | some (c, r) => ([c], r)
        | none => ([], r)
      let next ← readBlankLines indent 0 0 [] r
      let (text, lastBreak, trailing, r) ←
        readBlockLines literal indent newBreak startsBlank next steps
      return (lead ++ blank.breaks ++ content ++ text, lastBreak, trailing, r)

/-- A block scalar behind its indicator: its content and the rest of the text. `parent` is the
indentation of what holds it. -/
def readBlock (literal : Bool) (parent : Int) (s : List Char) :
    Option (List Char × List Char) := do
  let (chomping, given?, r) ← readBlockHeader s
  let r := r.dropWhile isBlank
  let r := if r.head? == some '#' then r.dropWhile (!isBreak ·) else r
  if !atLineEnd r then none
  else
    let r := match takeBreak? r with | some (_, r) => r | none => r
    let given : Nat := match given? with
      | some n => (if 0 ≤ parent then parent else 0).toNat + n
      | none => 0
    let blank ← readBlankLines given 0 0 [] r
    let indent :=
      if given ≠ 0 then given else max (max blank.deepest (parent + 1).toNat) 1
    let (text, lastBreak, trailing, r) ←
      readBlockLines literal indent [] false blank (s.length + 1)
    let ending := match chomping with
      | .strip => []
      | .clip => lastBreak
      | .keep => lastBreak ++ trailing
    return (text ++ ending, r)

end ChartSchema.Yaml
