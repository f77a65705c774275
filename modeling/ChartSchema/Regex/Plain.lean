import ChartSchema.Regex.Class
import ChartSchema.Text.Basic
/-!
# The plain grammar

The plain grammar is that of expressions without look-around and references. `plain` says whether
a text keeps to it, and if not, what stops the reading first: something that is wrong in any
grammar, something that is beyond this one, or a control letter such as `\cA`.

Where the flag `x` is set, blanks and comments count for nothing.
-/

namespace ChartSchema.Regex

/-- Why a text is not read to its end by the plain grammar. -/
inductive Stop where
  /-- The text is wrong. -/
  | invalid
  /-- The text looks around or refers to a group. -/
  | beyond
  /-- There is a control letter; `rest` is what follows the backslash and the `c`. -/
  | control (rest : List Char)
  deriving Repr

/-- What was read, and what follows it. -/
abbrev Step (α : Type) := Except Stop (α × List Char)

/-! ## Blanks -/

/-- A text without the blanks and comments that it starts with; `comment` says that it starts
inside of a comment. -/
def skipFrom (comment : Bool) : List Char → List Char
  | [] => []
  | c :: r =>
    if comment then skipFrom (c != '\n') r
    else if CharSet.space.contains c then skipFrom false r
    else if c = '#' then skipFrom true r
    else c :: r

/-- A text without the blanks and comments that it starts with, if they count for nothing. -/
def skip (blankless : Bool) (s : List Char) : List Char :=
  if blankless then skipFrom false s else s

/-! ## Escapes -/

/-- What an escape stands for. -/
inductive Escape where
  /-- One character. -/
  | char (c : Char)
  /-- The bell, as a letter. -/
  | bell
  /-- A class. -/
  | named (name : NamedClass)
  /-- A place in the text. -/
  | place

/-- The value of a hexadecimal digit. -/
def hexDigit? (c : Char) : Option Nat :=
  if c.isDigit then some (c.toNat - '0'.toNat)
  else if 'a' ≤ c.toLower ∧ c.toLower ≤ 'f' then some (10 + (c.toLower.toNat - 'a'.toNat))
  else none

/-- The character of a number that hexadecimal digits write. -/
def charOfHex? (ds : List Nat) : Option Char :=
  let n := ds.foldl (fun n d => n * 16 + d) 0
  if !ds.isEmpty && n.isValidChar then some (Char.ofNat n) else none

/-- Exactly so many hexadecimal digits. -/
def hexDigits? (blankless : Bool) : (count : Nat) → List Char → Option (List Nat × List Char)
  | 0, s => some ([], s)
  | count + 1, s =>
    match skip blankless s with
    | c :: r => do
      let d ← hexDigit? c
      let (ds, r) ← hexDigits? blankless count r
      return (d :: ds, r)
    | [] => none

/-- The hexadecimal digits up to a closing brace, and what follows it. -/
def hexInBraces? (blankless : Bool) : (fuel : Nat) → List Char → Option (List Nat × List Char)
  | 0, _ => none
  | fuel + 1, s =>
    match skip blankless s with
    | '\x7d' :: r => some ([], r)
    | c :: r => do
      let d ← hexDigit? c
      let (ds, r) ← hexInBraces? blankless fuel r
      return (d :: ds, r)
    | [] => none

/-- The character of a hexadecimal escape, behind its letter, and what follows it. -/
def hexEscape (blankless : Bool) (count : Nat) (s : List Char) : Step Escape :=
  let digits := match skip blankless s with
    | '\x7b' :: r => hexInBraces? blankless (r.length + 1) r
    | r => hexDigits? blankless count r
  match digits.bind fun (ds, r) => (charOfHex? ds).map (·, r) with
  | some (c, r) => .ok (.char c, r)
  | none => .error .invalid

/-- The text up to a closing brace, and what follows it. -/
def untilBrace? (blankless : Bool) : (fuel : Nat) → List Char → Option (List Char × List Char)
  | 0, _ => none
  | fuel + 1, s =>
    match skip blankless s with
    | '\x7d' :: r => some ([], r)
    | c :: r => (untilBrace? blankless fuel r).map fun (cs, r) => (c :: cs, r)
    | [] => none

/-- The class of a property, behind `p` or `P`, and what follows it. -/
def propertyEscape (blankless negated : Bool) (s : List Char) : Step Escape :=
  match skip blankless s with
  | '\x7b' :: r =>
    match untilBrace? blankless (r.length + 1) r with
    | some (name, r) => .ok (.named (.property negated (String.ofList name)), r)
    | none => .error .invalid
  | '\\' :: _ | [] => .error .invalid
  | c :: r => .ok (.named (.property negated c.toString), skip blankless r)

/-- What an escape stands for, behind the backslash, and what follows it. -/
def escape (blankless : Bool) : List Char → Step Escape
  | [] => .error .invalid
  | c :: r =>
    if c.isDigit then .error .beyond
    else if c = 'x' then hexEscape blankless 2 r
    else if c = 'u' then hexEscape blankless 4 r
    else if c = 'U' then hexEscape blankless 8 r
    else if c = 'p' ∨ c = 'P' then propertyEscape blankless (c == 'P') r
    else if ['d', 'D', 's', 'S', 'w', 'W'].contains c then .ok (.named (.letter c), r)
    else if ['A', 'z', 'b', 'B', '<', '>'].contains c then
      if c = 'b' ∧ (r.head?.map (· == '\x7b')).getD false then .error .invalid else .ok (.place, r)
    else
      match c with
      | 'a' => .ok (.bell, r)
      | 'f' => .ok (.char '\x0c', r)
      | 'n' => .ok (.char '\n', r)
      | 'r' => .ok (.char '\r', r)
      | 't' => .ok (.char '\t', r)
      | 'v' => .ok (.char '\x0b', r)
      | 'c' => .error (.control r)
      | c => if c.isAlphanum || 128 ≤ c.toNat then .error .invalid else .ok (.char c, r)

/-! ## Classes in brackets -/

/-- The ASCII class such as `[:alpha:]` at the start of a text, and what follows it. -/
def asciiClass? (s : List Char) : Option (NamedClass × List Char) := do
  let r ← Text.after? ['[', ':'] s
  let (negated, r) := match r with
    | '^' :: r => (true, r)
    | r => (false, r)
  let name := String.ofList (r.takeWhile (· != ':'))
  let r ← Text.after? [':', ']'] (r.dropWhile (· != ':'))
  let _ ← CharSet.ofName? name
  return (.ascii negated name, r)

/-- One item of a class, and what follows it. -/
def classItem (blankless : Bool) : List Char → Step Escape
  | '\\' :: r => escape blankless r
  | c :: r => .ok (.char c, r)
  | [] => .error .invalid

/-- The class of one item. -/
def Escape.toClass : Escape → Except Stop BracketClass
  | .char c => .ok (.range c c)
  | .bell => .ok (.range '\x07' '\x07')
  | .named name => .ok (.named name)
  | .place => .error .invalid

/-- The character that one item is. -/
def Escape.toChar : Escape → Except Stop Char
  | .char c => .ok c
  | .bell => .ok '\x07'
  | _ => .error .invalid

/-- One item or one range of a class, and what follows it. A hyphen before a closing bracket or
another hyphen makes no range. -/
def classRange (blankless : Bool) (s : List Char) : Step BracketClass :=
  match classItem blankless s with
  | .error stop => .error stop
  | .ok (first, r) =>
    let r := skip blankless r
    let alone := first.toClass.map (·, r)
    match r with
    | [] => .error .invalid
    | '-' :: tail =>
      let next := skip blankless tail
      if next.head? = some ']' ∨ next.head? = some '-' then alone
      else
        match classItem blankless next with
        | .error stop => .error stop
        | .ok (last, r) =>
          match first.toChar, last.toChar with
          | .ok low, .ok high =>
            if low ≤ high then .ok (.range low high, r) else .error .invalid
          | _, _ => .error .invalid
    | _ => alone

/-- An operation on classes. -/
abbrev ClassOp := BracketClass → BracketClass → BracketClass

/-- The operation at the start of a text, and what follows it. -/
def classOp? : List Char → Option (ClassOp × List Char)
  | '&' :: '&' :: r => some (.inter, r)
  | '-' :: '-' :: r => some (.diff, r)
  | '~' :: '~' :: r => some (.symmDiff, r)
  | _ => none

/-- A class whose closing bracket is still to come: what was read up to the last operation, the
operation, and what was read since. -/
structure OpenClass where
  /-- Whether the class stands for what its items lack. -/
  negated : Bool
  /-- What the last operation is to be applied to, with the operation. -/
  pending? : Option (BracketClass × ClassOp)
  /-- The items since then. -/
  items : BracketClass

namespace OpenClass

/-- The class with one more item. -/
def add (c : OpenClass) (item : BracketClass) : OpenClass :=
  { c with items := .union c.items item }

/-- What was read so far. Operations are done in the order in which they stand. -/
def inner (c : OpenClass) : BracketClass :=
  match c.pending? with
  | some (left, op) => op left c.items
  | none => c.items

/-- The class with one more operation. -/
def operate (c : OpenClass) (op : ClassOp) : OpenClass :=
  { c with pending? := some (c.inner, op), items := .empty }

/-- The class with its brackets. -/
def close (c : OpenClass) : BracketClass := .nested c.negated c.inner

end OpenClass

/-- Hyphens that a class starts with. -/
def leadingHyphens (blankless : Bool) : (fuel : Nat) → List Char → BracketClass →
    BracketClass × List Char
  | 0, s, items => (items, s)
  | fuel + 1, s, items =>
    match s with
    | '-' :: r => leadingHyphens blankless fuel (skip blankless r) (.union items (.range '-' '-'))
    | r => (items, r)

/-- The start of a class, behind its opening bracket, and what follows it: hyphens, or a closing
bracket that is an item because it comes first. -/
def openClass (blankless : Bool) (s : List Char) : OpenClass × List Char :=
  let (negated, r) := match skip blankless s with
    | '^' :: r => (true, skip blankless r)
    | r => (false, r)
  match leadingHyphens blankless r.length r .empty with
  | (.empty, ']' :: r) => (⟨negated, none, .range ']' ']'⟩, skip blankless r)
  | (items, r) => (⟨negated, none, items⟩, r)

/-- The class that is open, up to its closing bracket, and what follows it. `outer` are the
classes around it, the nearest one first. -/
def classFrom (blankless : Bool) : (fuel : Nat) → OpenClass → (outer : List OpenClass) →
    List Char → Step BracketClass
  | 0, _, _, _ => .error .invalid
  | fuel + 1, current, outer, s =>
    match skip blankless s with
    | [] => .error .invalid
    | ']' :: r =>
      match outer with
      | [] => .ok (current.close, r)
      | next :: outer => classFrom blankless fuel (next.add current.close) outer r
    | '[' :: r =>
      match asciiClass? ('[' :: r) with
      | some (name, r) => classFrom blankless fuel (current.add (.named name)) outer r
      | none =>
        let (inner, r) := openClass blankless r
        classFrom blankless fuel inner (current :: outer) r
    | s =>
      match classOp? s with
      | some (op, r) => classFrom blankless fuel (current.operate op) outer r
      | none =>
        match classRange blankless s with
        | .ok (item, r) => classFrom blankless fuel (current.add item) outer r
        | .error stop => .error stop

/-- A class behind its opening bracket, and what follows it. -/
def bracketClass (blankless : Bool) (s : List Char) : Step BracketClass :=
  let (current, r) := openClass blankless s
  classFrom blankless (s.length + 1) current [] r

/-! ## Repetitions -/

/-- A decimal number of at most 32 bits between blanks, and what follows it. -/
def countAt (blankless : Bool) (s : List Char) : Option Nat × List Char :=
  let s := s.dropWhile CharSet.space.contains
  let rec digits : (fuel : Nat) → List Char → List Char × List Char
    | 0, s => ([], s)
    | fuel + 1, s =>
      match s with
      | c :: r =>
        if c.isDigit then
          let (ds, r) := digits fuel (skip blankless r)
          (c :: ds, r)
        else ([], s)
      | [] => ([], [])
  let (ds, r) := digits s.length s
  let n? := if ds.isEmpty then none else (String.ofList ds).toNat?
  (n?, skip blankless (r.dropWhile CharSet.space.contains))

/-- The largest count that can be written. -/
def maxCount : Nat := 4294967295

/-- What follows a repetition in braces, behind the opening one, if it is one. -/
def afterCounts? (blankless : Bool) (s : List Char) : Option (List Char) := do
  let (least?, r) := countAt blankless (skip blankless s)
  let (least, most, r) ← match r with
    | ',' :: r =>
      match skip blankless r with
      | '\x7d' :: r => do some (← least?, ← least?, '\x7d' :: r)
      | r => do
        let (most?, r) := countAt blankless r
        some (← least?, ← most?, r)
    | r => do some (← least?, ← least?, r)
  let r ← Text.after? ['\x7d'] r
  if maxCount < least ∨ maxCount < most ∨ most < least then none
  else
    match skip blankless r with
    | '?' :: r => some r
    | _ => some r

/-! ## Groups -/

/-- The flags in a text up to a colon or a closing parenthesis: their letters in order, what
stands behind them, and what follows that. Each flag and the hyphen may stand once, and the
hyphen not at the end. -/
def flagsAt? (seen : List Char) : List Char → Option (List Char × Char × List Char)
  | [] => none
  | c :: r =>
    if c = ':' ∨ c = ')' then
      if seen.getLast? = some '-' then none else some (seen, c, r)
    else if seen.contains c || !"imsUuRx-".toList.contains c then none
    else flagsAt? (seen ++ [c]) r

/-- What flags say about a letter: that it is set, that it is not set, or nothing. -/
def flagSaid? (flag : Char) (flags : List Char) : Option Bool :=
  if flags.contains flag then some (!(flags.takeWhile (· != flag)).contains '-') else none

/-- Whether a character can stand in the name of a group, as the first one or behind it. -/
def isNameChar (first : Bool) (c : Char) : Bool :=
  c == '_' || (if first then Unicode.alphabetic.contains c.toNat
    else ['.', '[', ']'].contains c || Text.isAlphanumeric c)

/-- The name of a group behind its opening bracket, and what follows the closing one. -/
def groupName? (s : List Char) : Option (String × List Char) :=
  let name := s.takeWhile (· != '>')
  match name, s.dropWhile (· != '>') with
  | c :: cs, '>' :: r =>
    if isNameChar true c && cs.all (isNameChar false) then some (String.ofList name, r) else none
  | _, _ => none

/-! ## Expressions -/

/-- How far a text was read. -/
structure Reading where
  /-- Whether blanks count for nothing. -/
  blankless : Bool
  /-- Whether they did before each of the groups that are open, the last one first. -/
  outer : List Bool
  /-- Whether there is something that can be repeated. -/
  target : Bool
  /-- The names of groups. -/
  names : List String
  /-- Whether there was a bell outside of classes. -/
  bell : Bool

/-- The reading behind the opening parenthesis of a group, and what follows. -/
def openGroup (st : Reading) (s : List Char) : Except Stop (Reading × List Char) :=
  let inside : Reading := { st with outer := st.blankless :: st.outer, target := false }
  let named (r : List Char) : Except Stop (Reading × List Char) :=
    match groupName? r with
    | some (name, r) =>
      if st.names.contains name then .error .invalid
      else .ok ({ inside with names := name :: st.names }, r)
    | none => .error .invalid
  match skip st.blankless s with
  | '?' :: '=' :: _ | '?' :: '!' :: _ => .error .beyond
  | '?' :: '<' :: '=' :: _ | '?' :: '<' :: '!' :: _ => .error .beyond
  | '?' :: 'P' :: '<' :: r | '?' :: '<' :: r => named r
  | '?' :: r =>
    match flagsAt? [] r with
    | none => .error .invalid
    | some (flags, mark, r) =>
      let blankless := (flagSaid? 'x' flags).getD st.blankless
      if mark = ':' then .ok ({ inside with blankless := blankless }, r)
      else if flags.isEmpty then .error .invalid
      else .ok ({ st with blankless := blankless, target := false }, r)
  | r => .ok (inside, r)

/-- Reads a text to its end. What is answered is whether there was a bell outside of classes. -/
def plainFrom : (fuel : Nat) → Reading → List Char → Except Stop Bool
  | 0, _, _ => .error .invalid
  | fuel + 1, st, s =>
    match skip st.blankless s with
    | [] => if st.outer.isEmpty then .ok st.bell else .error .invalid
    | '(' :: r =>
      match openGroup st r with
      | .ok (st, r) => plainFrom fuel st r
      | .error stop => .error stop
    | ')' :: r =>
      match st.outer with
      | blankless :: outer =>
        plainFrom fuel { st with blankless := blankless, outer := outer, target := true } r
      | [] => .error .invalid
    | '|' :: r => plainFrom fuel { st with target := false } r
    | '[' :: r =>
      match bracketClass st.blankless r with
      | .ok (_, r) => plainFrom fuel { st with target := true } r
      | .error stop => .error stop
    | '\x7b' :: r =>
      if !st.target then .error .invalid
      else
        match afterCounts? st.blankless r with
        | some r => plainFrom fuel st r
        | none => .error .invalid
    | '\\' :: r =>
      match escape st.blankless r with
      | .ok (.bell, r) => plainFrom fuel { st with target := true, bell := true } r
      | .ok (_, r) => plainFrom fuel { st with target := true } r
      | .error stop => .error stop
    | c :: r =>
      if c = '?' ∨ c = '*' ∨ c = '+' then
        if !st.target then .error .invalid
        else
          match r with
          | '?' :: r => plainFrom fuel st r
          | r => plainFrom fuel st r
      else plainFrom fuel { st with target := true } r

/-- Reads a text by the plain grammar. What is answered is whether there was a bell outside of
classes. -/
def plain (s : List Char) : Except Stop Bool :=
  plainFrom (s.length + 1) ⟨false, [], false, [], false⟩ s

end ChartSchema.Regex
