import ChartSchema.Text.Basic
/-!
# Comments above a key

The comment lines above a key are of three kinds. A **hint**, `+<tool>:type:<type>`, says the
type of the key's value; any other line that starts with `+` is a **marker**, a rule for the
values of the field; every other line is **documentation**. Lines without content are dropped.
-/

namespace ChartSchema

/-- The lines above a key, by kind. -/
structure CommentBlock where
  /-- The lines that describe the field. -/
  documentation : List String := []
  /-- The type of the first hint. -/
  typeHint : Option String := none
  /-- The rules for the field's values. -/
  markers : List String := []
  /-- All lines with content, in order. -/
  lines : List String := []
  deriving Repr, DecidableEq, Inhabited

namespace Comment

/-- The content of a comment line: leading `#` and the blanks around it taken away. -/
def content (line : String) : String :=
  String.ofList (Text.trim ((Text.trim line.toList).dropWhile (· == '#')))

/-- What a hint of this tool starts with. -/
def hintLead (tool : String) : List Char :=
  '+' :: (tool.toList ++ ":type:".toList)

/-- The type that a line's content says, if it is a hint of this tool. -/
def hint? (tool content : String) : Option String :=
  match Text.after? (hintLead tool) content.toList with
  | none => none
  | some rest =>
    let type := Text.trim rest
    if type.isEmpty then none else some (String.ofList type)

/-- Whether a line's content starts with `+`. -/
def isPlus (content : String) : Bool :=
  content.toList.head? == some '+'

/-- Whether a line's content is a marker: it starts with `+` and is no hint of this tool. -/
def isMarker (tool content : String) : Bool :=
  (hint? tool content).isNone && isPlus content

/-- Whether a line's content is documentation: neither a hint of this tool nor a marker. -/
def isDocumentation (tool content : String) : Bool :=
  (hint? tool content).isNone && !isPlus content

end Comment

/-- The first hint of a tool among raw comment lines. -/
def CommentBlock.firstHint? (tool : String) (raw : List String) : Option String :=
  raw.findSome? fun line => Comment.hint? tool (Comment.content line)

/-- Raw comment lines sorted by kind. -/
def CommentBlock.ofLines (tool : String) (raw : List String) : CommentBlock :=
  let lines := (raw.map Comment.content).filter (!·.isEmpty)
  { documentation := lines.filter (Comment.isDocumentation tool)
    typeHint := lines.findSome? (Comment.hint? tool)
    markers := lines.filter (Comment.isMarker tool)
    lines := lines }

/-- Whether the block has no content. -/
def CommentBlock.isEmpty (block : CommentBlock) : Bool :=
  block.lines.isEmpty

end ChartSchema
