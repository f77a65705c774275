import ChartSchema.Yaml.Node
import ChartSchema.Yaml.Token.Scan
/-!
# Documents of YAML

`Document.ofTokens?` reads the tokens of a text that holds at most one document.

Every anchored node takes a slot, whose number is the number of names that anchors had before
it, and the name stands for this slot until another anchor takes the name. An alias stands for
the slot that its name has where it is written. A name that comes back does not count twice, so
a later anchor may take a slot over; what a slot holds in the end is the last node that took it.
-/

namespace ChartSchema.Yaml

/-- The state of reading tokens into nodes. -/
structure Composer where
  /-- The tokens still to be read. -/
  tokens : List Token
  /-- The names of anchors, each once, with the slots that they stand for. -/
  names : List (List Char × Nat) := []
  /-- The slots that anchored nodes took, latest first, each with the place of its node among
  the anchored ones. -/
  taken : List (Nat × Nat) := []
  /-- The anchored nodes that are complete, with their places. -/
  complete : List (Nat × Node) := []
  /-- What the tag handles stand for. -/
  handles : List (List Char × List Char) := []
  /-- The parts of the document: one for a scalar or an alias, two for a collection. -/
  parts : Nat := 0

/-- Reading tokens, which may fail. -/
abbrev Compose := StateT Composer Option

namespace Compose

/-- The next token. -/
def peek : Compose Token := do
  match (← get).tokens with
  | t :: _ => return t
  | [] => failure

/-- Go on behind the next token. -/
def drop : Compose Unit :=
  modify fun s => { s with tokens := s.tokens.tail }

/-- Go on behind the next token, which has to be `t`. -/
def expect (t : Token) : Compose Unit := do
  if (← peek) == t then drop else failure

/-- Go on behind the next token if it is `t`, and say whether it was. -/
def accept (t : Token) : Compose Bool := do
  if (← peek) == t then drop; return true
  else return false

/-- Count parts of the document. -/
def count (parts : Nat) : Compose Unit :=
  modify fun s => { s with parts := s.parts + parts }

/-- A node where the text has nothing. -/
def emptyNode : Compose Node := do
  count 1
  return .empty

/-- The tag that a handle and a text write: the handle is replaced by what it stands for. -/
def resolveTag (handle text : List Char) : Compose String := do
  if handle.isEmpty then return String.ofList text
  match (← get).handles.lookup handle with
  | some lead => return String.ofList (lead ++ text)
  | none => failure

/-- The tag and the anchor before a node, in either order, each at most once. -/
def properties : Compose (Option String × Option (List Char)) := do
  match ← peek with
  | .anchor name =>
    drop
    match ← peek with
    | .tag handle text =>
      drop
      return (some (← resolveTag handle text), some name)
    | _ => return (none, some name)
  | .tag handle text =>
    drop
    let anchor? ← (do
      match ← peek with
      | .anchor name =>
        drop
        return some name
      | _ => return none)
    return (some (← resolveTag handle text), anchor?)
  | _ => return (none, none)

/-- Read a node under an anchor. The name stands for its slot before the node is read. -/
def anchored (anchor? : Option (List Char)) (read : Compose Node) : Compose Node :=
  match anchor? with
  | none => read
  | some name => do
    let s ← get
    let slot := s.names.length
    let place := s.taken.length
    set { s with
      names := (name, slot) :: s.names.filter (·.1 != name), taken := (slot, place) :: s.taken }
    let node ← read
    modify fun s => { s with complete := (place, node) :: s.complete }
    return node

/-- The alias with this name. -/
def aliased (name : List Char) : Compose Node := do
  match (← get).names.lookup name with
  | some slot =>
    count 1
    return .alias slot
  | none => failure

/-- Whether a value is missing before one of these tokens. -/
def missingBefore (t : Token) (stops : List Token) : Bool := stops.contains t

mutual

/-- A node. Block collections are read where `block` allows them, and a sequence whose dashes
stand in the column of its key where `indentless` does. -/
def node (block indentless : Bool) : (fuel : Nat) → Compose Node
  | 0 => failure
  | fuel + 1 => do
    match ← peek with
    | .alias name =>
      drop
      aliased name
    | _ =>
      let (tag?, anchor?) ← properties
      anchored anchor? do
        match ← peek with
        | .blockEntry =>
          if indentless then
            count 2
            return .sequence tag? (← dashedItems fuel)
          else absent tag? anchor?
        | .scalar form text =>
          drop
          count 1
          return .scalar tag? form (String.ofList text)
        | .flowSequence =>
          drop
          count 2
          return .sequence tag? (← flowItems true fuel)
        | .flowMapping =>
          drop
          count 2
          return .mapping tag? (← flowEntries true fuel)
        | .blockSequence =>
          if block then
            drop
            count 2
            return .sequence tag? (← blockItems fuel)
          else absent tag? anchor?
        | .blockMapping =>
          if block then
            drop
            count 2
            return .mapping tag? (← blockEntries fuel)
          else absent tag? anchor?
        | _ => absent tag? anchor?

/-- A node without content: it needs a tag or an anchor. -/
def absent (tag? : Option String) (anchor? : Option (List Char)) : Compose Node := do
  if tag?.isSome || anchor?.isSome then
    count 1
    return .scalar tag? .plain ""
  else failure

/-- The node before one of `stops`, or the empty one. -/
def nodeBefore (block indentless : Bool) (stops : List Token) : (fuel : Nat) → Compose Node
  | 0 => failure
  | fuel + 1 => do
    if missingBefore (← peek) stops then emptyNode
    else node block indentless fuel

/-- The items of a block sequence up to its end. -/
def blockItems : (fuel : Nat) → Compose (List Node)
  | 0 => failure
  | fuel + 1 => do
    if ← accept .blockEntry then
      let item ← nodeBefore true false [.blockEntry, .blockEnd] fuel
      return item :: (← blockItems fuel)
    else
      expect .blockEnd
      return []

/-- The items of a sequence in the column of its key, which ends at the first other token. -/
def dashedItems : (fuel : Nat) → Compose (List Node)
  | 0 => failure
  | fuel + 1 => do
    if ← accept .blockEntry then
      let item ← nodeBefore true false [.blockEntry, .key, .value, .blockEnd] fuel
      return item :: (← dashedItems fuel)
    else return []

/-- The entries of a block mapping up to its end. -/
def blockEntries : (fuel : Nat) → Compose (List (Node × Node))
  | 0 => failure
  | fuel + 1 => do
    if ← accept .key then
      let key ← nodeBefore true true [.key, .value, .blockEnd] fuel
      let value ← (do
        if ← accept .value then nodeBefore true true [.key, .value, .blockEnd] fuel
        else emptyNode)
      return (key, value) :: (← blockEntries fuel)
    else
      expect .blockEnd
      return []

/-- The items of a flow sequence up to its bracket. An item with a question mark or a colon is
a mapping of one entry. -/
def flowItems (first : Bool) : (fuel : Nat) → Compose (List Node)
  | 0 => failure
  | fuel + 1 => do
    if ← accept .flowSequenceEnd then return []
    else
      if !first then expect .flowEntry
      if ← accept .flowSequenceEnd then return []
      else if ← accept .key then
        count 2
        let key ← (do
          if missingBefore (← peek) [.value, .flowEntry, .flowSequenceEnd] then
            drop
            emptyNode
          else node false false fuel)
        let value ← (do
          if ← accept .value then
            nodeBefore false false [.flowEntry, .flowSequenceEnd] fuel
          else emptyNode)
        return .mapping none [(key, value)] :: (← flowItems false fuel)
      else
        let item ← node false false fuel
        return item :: (← flowItems false fuel)

/-- The entries of a flow mapping up to its brace. An entry without a colon has no value. -/
def flowEntries (first : Bool) : (fuel : Nat) → Compose (List (Node × Node))
  | 0 => failure
  | fuel + 1 => do
    if ← accept .flowMappingEnd then return []
    else
      if !first then expect .flowEntry
      if ← accept .flowMappingEnd then return []
      else if ← accept .key then
        let key ← nodeBefore false false [.value, .flowEntry, .flowMappingEnd] fuel
        let value ← (do
          if ← accept .value then nodeBefore false false [.flowEntry, .flowMappingEnd] fuel
          else emptyNode)
        return (key, value) :: (← flowEntries false fuel)
      else
        let key ← node false false fuel
        let value ← emptyNode
        return (key, value) :: (← flowEntries false fuel)

end

/-- The handles every document knows, behind those it declares itself. -/
def standardHandles : List (List Char × List Char) :=
  [(['!'], ['!']), (['!', '!'], "tag:yaml.org,2002:".toList)]

/-- The directives before a document: the version at most once and one that is known, each
handle at most once. The answer says whether there were any. -/
def directives (versionSeen : Bool) : (fuel : Nat) → Compose Bool
  | 0 => failure
  | fuel + 1 => do
    match ← peek with
    | .version major minor =>
      if versionSeen || major != 1 || (minor != 1 && minor != 2) then failure
      drop
      discard <| directives true fuel
      return true
    | .tagHandle handle lead =>
      if ((← get).handles.lookup handle).isSome then failure
      modify fun s => { s with handles := (handle, lead) :: s.handles }
      drop
      discard <| directives versionSeen fuel
      return true
    | _ => return false

/-- Go on behind the tokens that end a document. -/
def dropEnds : (fuel : Nat) → Compose Unit
  | 0 => failure
  | fuel + 1 => do
    if ← accept .documentEnd then dropEnds fuel

/-- The one document of a text, or `none` if the text has no document at all. -/
def document (fuel : Nat) : Compose (Option Node) := do
  if ← accept .streamEnd then return none
  let declared ← directives false fuel
  modify fun s => { s with handles := s.handles ++ standardHandles }
  let root ← (do
    if ← accept .documentStart then
      match ← peek with
      | .version .. | .tagHandle .. | .documentStart | .documentEnd | .streamEnd => emptyNode
      | _ => node true false fuel
    else if declared then failure
    else node true false fuel)
  dropEnds fuel
  expect .streamEnd
  return some root

end Compose

/-- The nodes of the slots: of the nodes that took a slot, the last one. -/
def Composer.slots (s : Composer) : Slots :=
  s.taken.filterMap fun (slot, place) => (s.complete.lookup place).map (slot, ·)

/-- The document that tokens write: `none` where they write none that can be read,
`some none` where they write no document. -/
def Document.ofTokens? (tokens : List Token) : Option (Option Document) :=
  (Compose.document (4 * tokens.length + 4) { tokens }).map fun (root?, s) =>
    root?.map fun root => { root, slots := s.slots, parts := s.parts }

/-- The document of a text, in the same sense. -/
def Document.parse? (text : String) : Option (Option Document) :=
  (Token.scan? text.toList).bind Document.ofTokens?

end ChartSchema.Yaml
