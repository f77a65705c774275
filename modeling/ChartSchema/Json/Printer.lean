import ChartSchema.Json.Basic
import ChartSchema.Text.Basic
/-!
# JSON text

`Json.compact` writes a value without any blank, `Json.pretty` with one member or item a line,
two blanks deeper than the bracket around it, and a colon and a blank behind a key. Both write
the members in the order they have in the value.
-/

namespace ChartSchema.Json

/-- The two hexadecimal digits of a number below 256. -/
def hexByte (n : Nat) : List Char :=
  [Nat.digitChar (n / 16), Nat.digitChar (n % 16)]

/-- How a character stands inside a string: quotes, backslashes and control characters are
escaped, everything else stands for itself. -/
def escapeChar (c : Char) : List Char :=
  if c = '"' then ['\\', '"']
  else if c = '\\' then ['\\', '\\']
  else if c = '\n' then ['\\', 'n']
  else if c = '\t' then ['\\', 't']
  else if c = '\r' then ['\\', 'r']
  else if c = '\x08' then ['\\', 'b']
  else if c = '\x0c' then ['\\', 'f']
  else if c.toNat < 32 then ['\\', 'u', '0', '0'] ++ hexByte c.toNat
  else [c]

/-- A string with its quotes. -/
def quote (s : String) : String :=
  String.ofList ('"' :: (s.toList.flatMap escapeChar ++ ['"']))

mutual

/-- The text of a value without blanks. -/
def compact (v : Json) : String :=
  match v with
  | .null => "null"
  | .bool b => if b then "true" else "false"
  | .number n => n.render FloatLayout.json
  | .string s => quote s
  | .array items => "[" ++ Text.joinWith "," (compactItems items) ++ "]"
  | .object members => "\x7b" ++ Text.joinWith "," (compactMembers members) ++ "\x7d"
termination_by structural v

/-- The texts of items. -/
def compactItems (items : List Json) : List String :=
  match items with
  | [] => []
  | v :: rest => compact v :: compactItems rest
termination_by structural items

/-- The texts of members. -/
def compactMembers (members : List (String × Json)) : List String :=
  match members with
  | [] => []
  | (k, v) :: rest => (quote k ++ ":" ++ compact v) :: compactMembers rest
termination_by structural members

end

/-- Lines between an opening and a closing bracket, each on a line of its own. -/
def bracketed (opening closing indent : String) (lines : List String) : String :=
  if lines.isEmpty then opening ++ closing
  else
    opening ++ "\n" ++ Text.joinWith ",\n" (lines.map (indent ++ "  " ++ ·)) ++ "\n" ++ indent ++
      closing

mutual

/-- The text of a value over several lines, the first of which starts after `indent`. -/
def prettyAt (indent : String) (v : Json) : String :=
  match v with
  | .array items => bracketed "[" "]" indent (prettyItems (indent ++ "  ") items)
  | .object members => bracketed "\x7b" "\x7d" indent (prettyMembers (indent ++ "  ") members)
  | v => compact v
termination_by structural v

/-- The texts of items. -/
def prettyItems (indent : String) (items : List Json) : List String :=
  match items with
  | [] => []
  | v :: rest => prettyAt indent v :: prettyItems indent rest
termination_by structural items

/-- The texts of members. -/
def prettyMembers (indent : String) (members : List (String × Json)) : List String :=
  match members with
  | [] => []
  | (k, v) :: rest => (quote k ++ ": " ++ prettyAt indent v) :: prettyMembers indent rest
termination_by structural members

end

/-- The text of a value over several lines. -/
def pretty (v : Json) : String := prettyAt "" v

end ChartSchema.Json
