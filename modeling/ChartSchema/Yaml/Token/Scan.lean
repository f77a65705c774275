import ChartSchema.Yaml.Token
import ChartSchema.Yaml.Token.Scalar
/-!
# From text to tokens

`Token.scan?` reads a whole text into tokens, or refuses it.

Two things make YAML's tokens depend on what came before. Columns stand for structure: the
scanner keeps the columns of the open block collections and writes `blockMapping`,
`blockSequence` and `blockEnd` as the columns of the tokens grow and shrink. And a key is known
as a key only by the colon behind it: the scanner remembers, for each nesting level of flow
collections, where the latest thing that could be a key stands among the tokens, and when the
colon comes it puts `key` there. A key has to stand in one line and within 1024 characters.
-/

namespace ChartSchema.Yaml

/-- A place among the tokens where a key may begin. -/
structure KeySpot where
  /-- How many tokens stand before it. -/
  number : Nat
  /-- Where it stands in the text. -/
  cursor : Cursor
  /-- Whether it has to be a key, because it stands in the column of the keys around it. -/
  required : Bool

/-- The state between two tokens. -/
structure Scanner where
  /-- The rest of the text. -/
  cursor : Cursor
  /-- The place of a possible key at the present nesting level. -/
  spot? : Option KeySpot := none
  /-- The same for the levels around it; there are as many as open flow collections. -/
  outer : List (Option KeySpot) := []
  /-- The column of the innermost open block collection, `-1` if there is none. -/
  indent : Int := -1
  /-- The columns of the collections around it. -/
  indents : List Int := []
  /-- Whether a key may begin here. -/
  keyAllowed : Bool := true
  /-- The tokens, last one first. -/
  tokens : List Token := []
  /-- How many tokens there are. -/
  count : Nat := 0

namespace Scanner

/-- Whether a flow collection is open. -/
def inFlow (s : Scanner) : Bool := !s.outer.isEmpty

/-- Append a token. -/
def push (s : Scanner) (t : Token) : Scanner :=
  { s with tokens := t :: s.tokens, count := s.count + 1 }

/-- Put a token where `number` tokens stand before it. -/
def insertAt (s : Scanner) (number : Nat) (t : Token) : Scanner :=
  let later := s.count - number
  { s with tokens := s.tokens.take later ++ t :: s.tokens.drop later, count := s.count + 1 }

/-- Go on to a tail of the text. -/
def moveTo (s : Scanner) (rest : List Char) : Scanner :=
  { s with cursor := s.cursor.moveTo rest }

/-- Go on behind the next `count` characters. -/
def skip (s : Scanner) (count : Nat) : Scanner :=
  { s with cursor := s.cursor.skip count }

/-- Whether the text has left the line of a spot, or gone too far from it. -/
def isStale (s : Scanner) (spot : KeySpot) : Bool :=
  spot.cursor.line < s.cursor.line || spot.cursor.index + 1024 < s.cursor.index

/-- Forget a spot that is stale; a required one may not be. -/
def refresh (s : Scanner) : Option KeySpot → Option (Option KeySpot)
  | none => some none
  | some spot =>
    if s.isStale spot then (if spot.required then none else some none) else some (some spot)

/-- Forget the stale spots of all levels. -/
def dropStale (s : Scanner) : Option Scanner := do
  let spot? ← s.refresh s.spot?
  let outer ← s.outer.mapM s.refresh
  return { s with spot?, outer }

/-- Forget the spot of the present level, unless it has to be a key. -/
def dropSpot (s : Scanner) : Option Scanner :=
  match s.spot? with
  | some spot => if spot.required then none else some { s with spot? := none }
  | none => some s

/-- Remember that a key may begin here. -/
def saveSpot (s : Scanner) : Option Scanner :=
  if s.keyAllowed then do
    let required := !s.inFlow && s.indent == s.cursor.column
    let s ← s.dropSpot
    return { s with spot? := some ⟨s.count, s.cursor, required⟩ }
  else some s

/-- Open a block collection in a column deeper than the present one, with its token where
`number` tokens stand before it. -/
def openBlock (s : Scanner) (column : Nat) (number : Nat) (t : Token) : Scanner :=
  if s.inFlow then s
  else if s.indent < column then
    { s with indent := column, indents := s.indent :: s.indents }.insertAt number t
  else s

/-- Close the block collections deeper than a column; `indents` are the columns around the
present one. -/
def closeBlocks (column : Int) (indents : List Int) (s : Scanner) : Scanner :=
  if s.inFlow then s
  else if column < s.indent then
    match indents with
    | [] => { s with indent := -1, indents := [] }.push .blockEnd
    | up :: rest =>
      closeBlocks column rest ({ s with indent := up, indents := rest }.push .blockEnd)
  else s

/-- Close all block collections, as before a directive or a document marker. -/
def closeAll (s : Scanner) : Option Scanner :=
  (s.closeBlocks (-1) s.indents).dropSpot

/-- A token of `width` characters that decides only whether a key may follow. -/
def plainToken (s : Scanner) (t : Token) (width : Nat) (keyAllowed : Bool) : Scanner :=
  { (s.skip width).push t with keyAllowed }

/-! ## Directives -/

/-- The digits of a version number, at most nine, and the rest. -/
def readVersionNumber (s : List Char) : Option (Nat × List Char) :=
  let ds := s.takeWhile Char.isDigit
  if ds.isEmpty || 9 < ds.length then none
  else some (ds.foldl (fun n c => n * 10 + (c.toNat - '0'.toNat)) 0, s.dropWhile Char.isDigit)

/-- A tag handle: `!`, or word characters between two `!`; in a tag the second may be missing,
and then what was read is the start of the tag. -/
def readHandle (inDirective : Bool) : List Char → Option (List Char × List Char)
  | '!' :: r =>
    let word := r.takeWhile isWordChar
    match r.dropWhile isWordChar with
    | '!' :: rest => some ('!' :: word ++ ['!'], rest)
    | rest => if inDirective && !word.isEmpty then none else some ('!' :: word, rest)
  | _ => none

/-- The characters of a URI that need no escape; brackets and commas only where `flow` says. -/
def isUriChar (flow : Bool) (c : Char) : Bool :=
  isWordChar c || ";/?:@&=+$.%!~*'()".toList.contains c ||
    (flow && (c == ',' || c == '[' || c == ']'))

/-- The byte that `%` and two hexadecimal digits write. -/
def readUriByte : List Char → Option (Nat × List Char)
  | '%' :: a :: b :: r => do
    let a ← hexDigit? a
    let b ← hexDigit? b
    return (a * 16 + b, r)
  | _ => none

/-- So many bytes that continue a character. -/
def readUriTail : (count : Nat) → List Char → Option (List Nat × List Char)
  | 0, s => some ([], s)
  | count + 1, s => do
    let (byte, r) ← readUriByte s
    if byte / 64 != 2 then none
    else
      let (bytes, r) ← readUriTail count r
      return (byte :: bytes, r)

/-- A character whose bytes are escaped. The first byte says how many there are; they may still
write no character, if they write a smaller number than they could. -/
def readUriEscape (s : List Char) : Option (Option Char × List Char) := do
  let (byte, r) ← readUriByte s
  let more? : Option Nat :=
    if byte < 0x80 then some 0
    else if byte / 32 = 6 then some 1
    else if byte / 16 = 14 then some 2
    else if byte / 8 = 30 then some 3
    else none
  let (bytes, r) ← readUriTail (← more?) r
  let text? := String.fromUTF8? ⟨((byte :: bytes).map (·.toUInt8)).toArray⟩
  return (text?.bind (·.toList.head?), r)

/-- The characters of a URI, escapes replaced by the characters they write; `steps` bounds
their number. -/
def readUri (flow : Bool) : (steps : Nat) → List Char → Option (List (Option Char) × List Char)
  | 0, s => some ([], s)
  | steps + 1, s =>
    match s with
    | '%' :: _ => do
      let (c?, r) ← readUriEscape s
      let (more, r) ← readUri flow steps r
      return (c? :: more, r)
    | c :: r =>
      if isUriChar flow c then (readUri flow steps r).map fun (more, r) => (some c :: more, r)
      else some ([], s)
    | [] => some ([], [])

/-- A directive behind its percent sign: its token and the rest of the text. -/
def readDirective (s : List Char) : Option (Token × List Char) := do
  let name := s.takeWhile isWordChar
  let r := s.dropWhile isWordChar
  if name.isEmpty || !atSpace r then none
  else
    let (t, r) ←
      if name = "YAML".toList then do
        let (major, r) ← readVersionNumber (r.dropWhile isBlank)
        match r with
        | '.' :: r =>
          let (minor, r) ← readVersionNumber r
          some (Token.version major minor, r)
        | _ => none
      else if name = "TAG".toList then do
        let (handle, r) ← readHandle true (r.dropWhile isBlank)
        match r with
        | c :: _ =>
          if isBlank c then do
            let r := r.dropWhile isBlank
            let (lead, r) ← readUri true (r.length + 1) r
            if lead.isEmpty || !atSpace r then none
            else some (Token.tagHandle handle ((lead.mapM id).getD []), r)
          else none
        | [] => none
      else none
    let r := r.dropWhile isBlank
    let r := if r.head? == some '#' then r.dropWhile (!isBreak ·) else r
    if !atLineEnd r then none
    else
      match takeBreak? r with
      | some (_, r) => some (t, r)
      | none => some (t, r)

/-! ## Properties of nodes -/

/-- The name of an anchor or an alias behind its sign. -/
def readAnchor (s : List Char) : Option (List Char × List Char) :=
  let name := s.takeWhile isWordChar
  let r := s.dropWhile isWordChar
  let ended := atSpace r || (match r with
    | c :: _ => "?:,]\x7d%@\x60".toList.contains c
    | [] => true)
  if name.isEmpty || !ended then none else some (name, r)

/-- A tag: its token and the rest of the text. A handle alone is the tag `!`. -/
def readTag (inFlow : Bool) (s : List Char) : Option (Token × List Char) := do
  let (handle, text, r) ←
    match s with
    | '!' :: '<' :: r => do
      let (uri, r) ← readUri true (r.length + 1) r
      match r with
      | '>' :: r => if uri.isEmpty then none else some ([], uri, r)
      | _ => none
    | _ => do
      let (start, r) ← readHandle false s
      if 2 ≤ start.length ∧ start.getLast? = some '!' then do
        let (text, r) ← readUri false (r.length + 1) r
        if text.isEmpty then none else some (start, text, r)
      else do
        let (text, r) ← readUri false (r.length + 1) r
        let text := start.tail.map some ++ text
        if text.isEmpty then some ([], [some '!'], r) else some (['!'], text, r)
  if atSpace r || (inFlow && r.head? == some ',') then
    match text.mapM id with
    | some text => some (.tag handle text, r)
    | none => some (.tag [] [], r)
  else none

/-! ## One token -/

/-- Append a token whose text goes up to `rest`, in front of which a key may begin. -/
def node (s : Scanner) (t : Token) (rest : List Char) (keyAllowed : Bool) : Option Scanner := do
  let s ← s.saveSpot
  return { (s.moveTo rest).push t with keyAllowed }

/-- A colon before a value: it turns the remembered spot, if there is one, into a key. -/
def colon (s : Scanner) : Option Scanner :=
  match s.spot? with
  | some spot =>
    let s := s.insertAt spot.number .key
    let s := s.openBlock spot.cursor.column spot.number .blockMapping
    some ({ s with spot? := none }.plainToken .value 1 false)
  | none =>
    if s.inFlow then some (s.plainToken .value 1 false)
    else if !s.keyAllowed then none
    else some ((s.openBlock s.cursor.column s.count .blockMapping).plainToken .value 1 true)

/-- A dash before an item. -/
def dash (s : Scanner) : Option Scanner := do
  let s ←
    if s.inFlow then some s
    else if !s.keyAllowed then none
    else some (s.openBlock s.cursor.column s.count .blockSequence)
  let s ← s.dropSpot
  return s.plainToken .blockEntry 1 true

/-- A question mark before a key. -/
def questionMark (s : Scanner) : Option Scanner := do
  let s ←
    if s.inFlow then some s
    else if !s.keyAllowed then none
    else some (s.openBlock s.cursor.column s.count .blockMapping)
  let s ← s.dropSpot
  return s.plainToken .key 1 (!s.inFlow)

/-- A bracket that opens a flow collection. -/
def openFlow (s : Scanner) (t : Token) : Option Scanner := do
  let s ← s.saveSpot
  return { s with outer := s.spot? :: s.outer, spot? := none }.plainToken t 1 true

/-- A bracket that closes a flow collection. -/
def closeFlow (s : Scanner) (t : Token) : Option Scanner := do
  let s ← s.dropSpot
  let s := match s.outer with
    | up :: rest => { s with spot? := up, outer := rest }
    | [] => s
  return s.plainToken t 1 false

/-- A block scalar. -/
def block (s : Scanner) (literal : Bool) (r : List Char) : Option Scanner := do
  let s ← s.dropSpot
  let (text, rest) ← readBlock literal s.indent r
  let form := if literal then ScalarForm.literal else .folded
  return { (s.moveTo rest).push (.scalar form text) with keyAllowed := true }

/-- Whether a plain scalar may begin with `c` before `r`. -/
def startsPlain (inFlow : Bool) (c : Char) (r : List Char) : Bool :=
  let indicators := "-?:,[]\x7b\x7d#&*!|>'\"%@\x60".toList
  (!isBlank c && !isBreak c && !indicators.contains c) ||
    (c == '-' && !(match r with | x :: _ => isBlank x | [] => false)) ||
    (!inFlow && (c == '?' || c == ':') && !atSpace r)

/-- A plain scalar. -/
def plain (s : Scanner) : Option Scanner := do
  let text := s.cursor.rest
  let (content, ended, rest) ←
    readPlain s.inFlow (s.indent + 1).toNat {} (text.length + 1) text
  let s ← s.node (.scalar .plain content) rest false
  return { s with keyAllowed := ended }

/-- The token at the start of a non-empty rest of the text. -/
def token (s : Scanner) (c : Char) (r : List Char) : Option Scanner :=
  let atStart := s.cursor.column == 0
  if atStart && c == '%' then do
    let s ← s.closeAll
    let (t, rest) ← readDirective r
    return { (s.moveTo rest).push t with keyAllowed := false }
  else if atStart && atDocumentMark (c :: r) then do
    let s ← s.closeAll
    return s.plainToken (if c = '-' then .documentStart else .documentEnd) 3 false
  else if c == '[' then s.openFlow .flowSequence
  else if c == '\x7b' then s.openFlow .flowMapping
  else if c == ']' then s.closeFlow .flowSequenceEnd
  else if c == '\x7d' then s.closeFlow .flowMappingEnd
  else if c == ',' then do
    let s ← s.dropSpot
    return s.plainToken .flowEntry 1 true
  else if c == '-' && atSpace r then s.dash
  else if c == '?' && (s.inFlow || atSpace r) then s.questionMark
  else if c == ':' && (s.inFlow || atSpace r) then s.colon
  else if c == '*' then do
    let (name, rest) ← readAnchor r
    s.node (.alias name) rest false
  else if c == '&' then do
    let (name, rest) ← readAnchor r
    s.node (.anchor name) rest false
  else if c == '!' then do
    let (t, rest) ← readTag s.inFlow (c :: r)
    s.node t rest false
  else if c == '|' && !s.inFlow then s.block true r
  else if c == '>' && !s.inFlow then s.block false r
  else if c == '\'' || c == '"' then do
    let (text, rest) ← readQuoted (c == '\'') false (r.length + 1) r
    s.node (.scalar .quoted text) rest false
  else if startsPlain s.inFlow c r then s.plain
  else none

/-- Go on to the next token. A line that ends outside of flow collections allows a key. -/
def toToken (s : Scanner) : Scanner :=
  let (rest, ended) :=
    skipToToken s.inFlow (s.inFlow || !s.keyAllowed) false (s.cursor.column == 0) false
      s.cursor.rest
  let s := s.moveTo rest
  { s with keyAllowed := s.keyAllowed || (ended && !s.inFlow) }

/-- The tokens of the rest of the text; every token takes at least one character, so `steps`
need not exceed the length of the text by more than one. -/
def run (s : Scanner) : (steps : Nat) → Option (List Token)
  | 0 => none
  | steps + 1 => do
    let s ← s.toToken.dropStale
    let s := s.closeBlocks s.cursor.column s.indents
    match s.cursor.rest with
    | [] =>
      let s ← s.closeAll
      return (s.push .streamEnd).tokens.reverse
    | c :: r =>
      let s ← s.token c r
      run s steps

end Scanner

/-- The tokens of a text. -/
def Token.scan? (text : List Char) : Option (List Token) :=
  if text.all isAllowed then Scanner.run { cursor := { rest := text } } (text.length + 1) else none

end ChartSchema.Yaml
