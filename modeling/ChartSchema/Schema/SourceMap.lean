import ChartSchema.Text.Basic
/-!
# Where the keys of a document stand

A YAML reader drops comments and line numbers, and an inferred schema wants both. `SourceMap.scan`
goes over the lines of a block-style document once and records, for every mapping key, its line
and the comment lines directly above it, under the path of keys and indices that leads to it.

The scanner knows nesting by indentation alone. Its stack holds the keys and items that the
present line stands below, each with its column; a line in column `c` leaves all of them that
stand in column `c` or deeper, except that a dash counts on in the sequence of its own column.
The text of a block scalar is skipped. Keys inside brackets and braces are not recorded, and a
blank line takes the comments above it away from the key below it.
-/

namespace ChartSchema

/-- One step on the way from the root of a document to a node. -/
inductive PathSegment where
  /-- Into the value of a key. -/
  | key (name : String)
  /-- Into an item of a sequence. -/
  | index (position : Nat)
  deriving Repr, DecidableEq

/-- A way from the root of a document to a node. -/
abbrev SourcePath := List PathSegment

/-- The text of a step in a dotted path. -/
def PathSegment.text : PathSegment → String
  | .key name => name
  | .index position => "[" ++ toString position ++ "]"

/-- What is known of a key's place. -/
structure SourceEntry where
  /-- The line of the key; the first line has number one. -/
  line : Nat
  /-- The comment lines directly above the key. -/
  comments : List String
  deriving Repr, DecidableEq

/-- The places of the keys of a document, each path once. -/
structure SourceMap where
  /-- The places, latest first. -/
  entries : List (SourcePath × SourceEntry) := []
  deriving Repr

namespace SourceMap

/-- The place of the key at a path. -/
def get? (map : SourceMap) (path : SourcePath) : Option SourceEntry :=
  map.entries.lookup path

/-- The line of the key at a path. -/
def line? (map : SourceMap) (path : SourcePath) : Option Nat :=
  (map.get? path).map (·.line)

/-- The comment lines above the key at a path. -/
def comments (map : SourceMap) (path : SourcePath) : List String :=
  match map.get? path with
  | some entry => entry.comments
  | none => []

/-- How many keys are recorded. -/
def size (map : SourceMap) : Nat := map.entries.length

/-- Record a place, unless there is one for the path. -/
def record (map : SourceMap) (path : SourcePath) (entry : SourceEntry) : SourceMap :=
  match map.get? path with
  | some _ => map
  | none => ⟨(path, entry) :: map.entries⟩

end SourceMap

namespace LineScan

/-! ## The parts of a line -/

/-- A marker between documents, or a directive. -/
def isDocumentMarker (content : List Char) : Bool :=
  Text.startsWith ['-', '-', '-'] content || Text.startsWith ['.', '.', '.'] content ||
    Text.startsWith ['%'] content

/-- What follows the dash of a sequence item. -/
def afterDash? : List Char → Option (List Char)
  | ['-'] => some []
  | '-' :: ' ' :: rest => some rest
  | _ => none

/-- Whether a value starts a block scalar, perhaps behind an anchor and a tag. -/
def opensBlockScalar (value : List Char) : Bool :=
  let isProperty (word : List Char) : Bool := word.head? == some '&' || word.head? == some '!'
  match (Text.words value).find? (!isProperty ·) with
  | some (c :: rest) =>
    (c == '|' || c == '>') && rest.all fun x => x == '+' || x == '-' || x.isDigit
  | _ => false

/-- Whether a text is empty or starts with a blank, as behind the colon of a key. -/
def endsKey : List Char → Bool
  | [] => true
  | c :: _ => c == ' ' || c == '\t'

/-- The text of a key in single quotes, behind the first quote, and what follows it. -/
def singleQuoted : List Char → Option (List Char × List Char)
  | [] => none
  | '\'' :: '\'' :: rest => (singleQuoted rest).map fun (key, after) => ('\'' :: key, after)
  | '\'' :: rest => some ([], rest)
  | c :: rest => (singleQuoted rest).map fun (key, after) => (c :: key, after)

/-- The text of a key in double quotes, behind the first quote, and what follows it. A backslash
makes the next character stand for itself, or for a line feed or a tab. -/
def doubleQuoted : List Char → Option (List Char × List Char)
  | [] => none
  | '"' :: rest => some ([], rest)
  | '\\' :: [] => none
  | '\\' :: c :: rest =>
    let x := if c = 'n' then '\n' else if c = 't' then '\t' else c
    (doubleQuoted rest).map fun (key, after) => (x :: key, after)
  | c :: rest => (doubleQuoted rest).map fun (key, after) => (c :: key, after)

/-- What follows the colon behind a quoted key. -/
def afterColon? (rest : List Char) : Option (List Char) :=
  match rest.dropWhile (· == ' ') with
  | ':' :: value => if endsKey value then some (Text.trim value) else none
  | _ => none

/-- The key and the value of an entry without quotes; `done` holds the characters passed, last
one first. A comment sign behind a blank says that the line has no key. -/
def splitPlain (done : List Char) : List Char → Option (List Char × List Char)
  | [] => none
  | c :: rest =>
    if c == '#' && (match done with | [] => true | p :: _ => Text.isBlank p) then none
    else if c == ':' && endsKey rest then
      match Text.trimEnd done.reverse with
      | [] => none
      | key => some (key, Text.trim rest)
    else splitPlain (c :: done) rest

/-- Characters that no plain key starts with. -/
def startsNoKey (c : Char) : Bool :=
  ['\x7b', '[', '?', '|', '>', '%', '@', '\x60'].contains c

/-- The key and the text of the value of an entry. -/
def splitKey (content : List Char) : Option (List Char × List Char) :=
  match content with
  | [] => none
  | '"' :: rest => do
    let (key, after) ← doubleQuoted rest
    let value ← afterColon? after
    return (key, value)
  | '\'' :: rest => do
    let (key, after) ← singleQuoted rest
    let value ← afterColon? after
    return (key, value)
  | c :: _ => if startsNoKey c then none else splitPlain [] content

/-! ## The scanner -/

/-- A key or an item that the present line stands below. -/
structure Frame where
  /-- The column of the key or of the dash. -/
  column : Nat
  /-- The step it adds to a path. -/
  segment : PathSegment
  deriving Repr

/-- The state between two lines. -/
structure State where
  /-- The places recorded so far. -/
  map : SourceMap := {}
  /-- The keys and items around the present line, innermost first. -/
  stack : List Frame := []
  /-- The comment lines that wait for a key. -/
  pending : List String := []
  /-- The column of the node whose block scalar is open. -/
  scalarOwner? : Option Nat := none
  deriving Repr

namespace State

/-- The path of the innermost key or item. -/
def path (s : State) : SourcePath := (s.stack.map (·.segment)).reverse

/-- Go on to the next item of the sequence whose dashes stand in a column. -/
def enterItem (s : State) (column : Nat) : State :=
  let stack := s.stack.dropWhile (column < ·.column)
  match stack with
  | ⟨c, .index previous⟩ :: rest =>
    if c = column then { s with stack := ⟨column, .index (previous + 1)⟩ :: rest }
    else { s with stack := ⟨column, .index 0⟩ :: stack }
  | _ => { s with stack := ⟨column, .index 0⟩ :: stack }

/-- Go through the dashes at the start of a line: the column and the text behind them. `dashes`
bounds their number. -/
def enterItems (s : State) (column : Nat) (content : List Char) :
    (dashes : Nat) → State × Nat × List Char
  | 0 => (s, column, content)
  | dashes + 1 =>
    match afterDash? content with
    | none => (s, column, content)
    | some after =>
      let s := s.enterItem column
      let rest := after.dropWhile (· == ' ')
      let s := if opensBlockScalar rest then { s with scalarOwner? := some column } else s
      s.enterItems (column + (content.length - rest.length)) rest dashes

/-- Record the key that stands in a column of a line. -/
def enterKey (s : State) (line column : Nat) (key : String) (value : List Char) : State :=
  let stack := s.stack.dropWhile (column ≤ ·.column)
  let stack := ⟨column, .key key⟩ :: stack
  let s := { s with stack }
  { s with
    map := s.map.record s.path ⟨line, s.pending⟩
    pending := []
    scalarOwner? := if opensBlockScalar value then some column else s.scalarOwner? }

/-- Go over a line that is not part of a block scalar. -/
def scanContent (s : State) (line column : Nat) (content : List Char) : State :=
  match content with
  | [] => { s with pending := [] }
  | '#' :: _ => { s with pending := s.pending ++ [String.ofList content] }
  | _ =>
    if column = 0 ∧ isDocumentMarker content then { s with stack := [], pending := [] }
    else
      let (s, column, rest) := s.enterItems column content content.length
      match rest with
      | [] => s
      | '#' :: _ => { s with pending := s.pending ++ [String.ofList rest] }
      | _ =>
        match splitKey rest with
        | none => { s with pending := [] }
        | some (key, value) => s.enterKey line column (String.ofList key) value

/-- Go over a line. -/
def scanLine (s : State) (line : Nat) (raw : List Char) : State :=
  let column := (raw.takeWhile (· == ' ')).length
  let content := Text.trimEnd (raw.dropWhile (· == ' '))
  match s.scalarOwner? with
  | some owner =>
    if content.isEmpty || owner < column then s
    else { s with scalarOwner? := none }.scanContent line column content
  | none => s.scanContent line column content

/-- Go over lines, the first of which has the given number. -/
def scanLines (s : State) (line : Nat) : List (List Char) → State
  | [] => s
  | raw :: rest => (s.scanLine line raw).scanLines (line + 1) rest

end State
end LineScan

/-- The places of the keys of a block-style document. -/
def SourceMap.scan (text : String) : SourceMap :=
  (LineScan.State.scanLines {} 1 (Text.lines text.toList)).map

end ChartSchema
