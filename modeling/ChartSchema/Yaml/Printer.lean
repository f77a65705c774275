import ChartSchema.Json.Basic
import ChartSchema.Yaml.Style
/-!
# YAML text

`Yaml.render` writes a JSON value as a YAML document: mappings and sequences in blocks, two
blanks deeper than what is around them, except that the dashes of a sequence stand as deep as
the key before them. The members are written in the order they have in the value.
-/

namespace ChartSchema.Yaml

/-- Blanks for a depth. -/
def blanks (depth : Nat) : String := String.ofList (List.replicate depth ' ')

/-- A text as a scalar and the end of its line, inside a block of this depth. -/
def textLine (depth : Nat) (text : String) : String :=
  let written := Style.write (List.replicate (depth + 2) ' ') text
  let endsLine : Bool :=
    Style.ofText text == .literal && (written.getLast?.map isBreak).getD false
  String.ofList written ++ (if endsLine then "" else "\n")

/-- Whether a text can stand before the colon of an entry: it takes one line, and not a long
one. -/
def isSimpleKey (key : String) : Bool :=
  !key.toList.any isBreak && Text.byteLength key.toList ≤ 128

/-- The lines of a block behind the sign or the key that it belongs to: behind a sign the first
of them goes on in the same line. -/
def block (afterKey : Bool) (depth : Nat) (lines : List String) : String :=
  (if afterKey then "\n" ++ blanks depth else " ") ++ Text.joinWith (blanks depth) lines

mutual

/-- A value behind a key or, if not `afterKey`, behind a sign such as a dash, which stands in a
block of this depth; up to the end of its last line. -/
def renderValue (afterKey : Bool) (depth : Nat) (v : Json) : String :=
  match v with
  | .null => " null\n"
  | .bool b => if b then " true\n" else " false\n"
  | .number n => " " ++ n.render FloatLayout.yaml ++ "\n"
  | .string s => " " ++ textLine depth s
  | .array items =>
    let inner := if afterKey then depth else depth + 2
    if items.isEmpty then " []\n" else block afterKey inner (renderItems inner items)
  | .object members =>
    if members.isEmpty then " \x7b\x7d\n"
    else block afterKey (depth + 2) (renderEntries (depth + 2) members)
termination_by structural v

/-- The items of a sequence, each with its dash. -/
def renderItems (depth : Nat) (items : List Json) : List String :=
  match items with
  | [] => []
  | item :: rest => ("-" ++ renderValue false depth item) :: renderItems depth rest
termination_by structural items

/-- The entries of a mapping, each with its key. -/
def renderEntries (depth : Nat) (members : List (String × Json)) : List String :=
  match members with
  | [] => []
  | (key, value) :: rest =>
    let entry :=
      if isSimpleKey key then
        String.ofList (Style.write [] key) ++ ":" ++ renderValue true depth value
      else "? " ++ textLine depth key ++ blanks depth ++ ":" ++ renderValue false depth value
    entry :: renderEntries depth rest
termination_by structural members

end

/-- The document that writes a value. -/
def render (v : Json) : String :=
  match v with
  | .array (item :: items) => Text.joinWith "" (renderItems 0 (item :: items))
  | .object (member :: members) => Text.joinWith "" (renderEntries 0 (member :: members))
  | v => String.ofList ((renderValue true 0 v).toList.drop 1)

end ChartSchema.Yaml
