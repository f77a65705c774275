import ChartSchema.Yaml.Token
/-!
# Nodes of YAML

A `Node` is what a YAML text says before scalars are given a meaning: a scalar with its text and
the way it is written, a sequence, or a mapping, each with its tag, or an alias, which stands
for the node of a numbered slot. The nodes of the slots are apart from the tree, so a node may
stand for one that holds it.

`Node.expand` puts the nodes of the slots in the place of aliases, as long as collections are
nested at most so deep and at most so many aliases are followed.
-/

namespace ChartSchema.Yaml

/-- A node of a YAML document. -/
inductive Node where
  /-- A scalar. -/
  | scalar (tag? : Option String) (form : ScalarForm) (text : String)
  /-- A sequence. -/
  | sequence (tag? : Option String) (items : List Node)
  /-- A mapping, its entries in the order of the text. -/
  | mapping (tag? : Option String) (entries : List (Node × Node))
  /-- The node of a slot. -/
  | alias (slot : Nat)
  deriving Repr, Inhabited

namespace Node

/-- The scalar that stands where a text has nothing. -/
def empty : Node := .scalar none .plain ""

/-- A way to follow aliases: from the levels that are left to nest collections, the number of
aliases that may still be followed, and a slot, to the node of the slot without aliases, and the
number of aliases that are left. -/
abbrev Follow := Nat → Nat → Nat → Option (Node × Nat)

mutual

/-- A node without aliases, and how many more may be followed. Collections are nested at most
`room` deep, and at most `aliases` aliases are followed. -/
def expand (follow : Follow) (room aliases : Nat) (node : Node) : Option (Node × Nat) :=
  match node with
  | .alias slot => if aliases = 0 then none else follow room (aliases - 1) slot
  | .scalar tag? form text => some (.scalar tag? form text, aliases)
  | .sequence tag? items =>
    if room = 0 then none
    else
      match expandItems follow (room - 1) aliases items with
      | some (items, aliases) => some (.sequence tag? items, aliases)
      | none => none
  | .mapping tag? entries =>
    if room = 0 then none
    else
      match expandEntries follow (room - 1) aliases entries with
      | some (entries, aliases) => some (.mapping tag? entries, aliases)
      | none => none
termination_by structural node

/-- `expand` on the items of a sequence, one after the other. -/
def expandItems (follow : Follow) (room aliases : Nat) (items : List Node) :
    Option (List Node × Nat) :=
  match items with
  | [] => some ([], aliases)
  | item :: rest =>
    match expand follow room aliases item with
    | some (item, aliases) =>
      match expandItems follow room aliases rest with
      | some (rest, aliases) => some (item :: rest, aliases)
      | none => none
    | none => none
termination_by structural items

/-- `expand` on the keys and values of a mapping, one after the other. -/
def expandEntries (follow : Follow) (room aliases : Nat) (entries : List (Node × Node)) :
    Option (List (Node × Node) × Nat) :=
  match entries with
  | [] => some ([], aliases)
  | (key, value) :: rest =>
    match expand follow room aliases key with
    | some (key, aliases) =>
      match expand follow room aliases value with
      | some (value, aliases) =>
        match expandEntries follow room aliases rest with
        | some (rest, aliases) => some ((key, value) :: rest, aliases)
        | none => none
      | none => none
    | none => none
termination_by structural entries

end

end Node

/-- The nodes that aliases stand for, by slot. -/
abbrev Slots := List (Nat × Node)

namespace Slots

/-- The node that stands where `node` does: for an alias that of its slot. -/
def resolve (slots : Slots) (node : Node) : Node :=
  match node with
  | .alias slot => (slots.lookup slot).getD node
  | node => node

/-- Follow aliases that stand in the nodes of at most `nesting` slots around them. -/
def follow (slots : Slots) : (nesting : Nat) → Node.Follow
  | 0 => fun _ _ _ => none
  | nesting + 1 => fun room aliases slot => do
    (← slots.lookup slot).expand (slots.follow nesting) room aliases

end Slots

/-- A document: its root and the nodes that its aliases stand for. -/
structure Document where
  /-- The root. -/
  root : Node
  /-- The nodes that aliases stand for, none of which is an alias itself. -/
  slots : Slots
  /-- The parts of the text: one for a scalar or an alias, two for a collection. -/
  parts : Nat

namespace Document

/-- The deepest nesting that is read. -/
def maxDepth : Nat := 128

/-- The root without aliases, if collections are nested at most `maxDepth` deep and at most a
hundred aliases are followed for each part of the text. Of two slots inside each other the inner
one stands in a collection of the outer one, so that no more than `maxDepth + 1` are. -/
def expanded? (document : Document) : Option Node :=
  (document.root.expand (document.slots.follow (maxDepth + 1)) maxDepth
    (document.parts * 100)).map (·.1)

end Document
end ChartSchema.Yaml
