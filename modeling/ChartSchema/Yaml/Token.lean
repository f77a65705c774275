/-!
# Tokens of YAML

The words of a YAML text, with the structure that indentation stands for made explicit: a block
collection opens with a token of its own and closes with `blockEnd`, and a key of a mapping is
preceded by `key` whether or not a question mark was written.
-/

namespace ChartSchema.Yaml

/-- How a scalar is written. -/
inductive ScalarForm where
  /-- Without quotes and without a block header. -/
  | plain
  /-- Between quotes. -/
  | quoted
  /-- As a block whose lines stay lines. -/
  | literal
  /-- As a block whose lines are joined. -/
  | folded
  deriving Repr, DecidableEq, Inhabited

/-- A token of a YAML text. -/
inductive Token where
  /-- The end of the text. -/
  | streamEnd
  /-- A `%YAML` directive. -/
  | version (major minor : Nat)
  /-- A `%TAG` directive. -/
  | tagHandle (handle lead : List Char)
  /-- `---` at the start of a line. -/
  | documentStart
  /-- `...` at the start of a line. -/
  | documentEnd
  /-- The first dash of a block sequence stands deeper than what is around it. -/
  | blockSequence
  /-- The first key of a block mapping stands deeper than what is around it. -/
  | blockMapping
  /-- The lines of a block collection end. -/
  | blockEnd
  /-- An opening square bracket. -/
  | flowSequence
  /-- A closing square bracket. -/
  | flowSequenceEnd
  /-- An opening brace. -/
  | flowMapping
  /-- A closing brace. -/
  | flowMappingEnd
  /-- A dash before an item. -/
  | blockEntry
  /-- A comma. -/
  | flowEntry
  /-- The start of a key. -/
  | key
  /-- The colon before a value. -/
  | value
  /-- A reference to an anchored node. -/
  | alias (name : List Char)
  /-- The name of the node that follows. -/
  | anchor (name : List Char)
  /-- The tag of the node that follows: a handle, which may be empty, and the rest. Both are
  empty if the tag is not text. -/
  | tag (handle rest : List Char)
  /-- The text of a scalar, and how it is written. -/
  | scalar (form : ScalarForm) (text : List Char)
  deriving Repr, DecidableEq, Inhabited

end ChartSchema.Yaml
