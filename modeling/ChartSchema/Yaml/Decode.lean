import ChartSchema.Yaml.Value
/-!
# Reading records from YAML

Readers for documents of a known form, such as a file of options. A text is any scalar, whatever
it would mean elsewhere; a list or a record that is left out after its key is empty. A key that
a record knows may stand in it once; keys that it does not know are passed over, with all that
they hold, or refused where the record is strict.

A reader takes a node that is no alias; the nodes inside it may be, and `slots` has what they
stand for.
-/

namespace ChartSchema.Yaml.Decode

/-- The text of a scalar. -/
def text? : Node → Option String
  | .scalar _ _ text => some text
  | _ => none

/-- Whether a node is a scalar without quotes and without text. -/
def isVoid : Node → Bool
  | .scalar _ form text => form == .plain && text.isEmpty
  | _ => false

/-- Read a value that may be null. -/
def nullable? {α : Type} (read : Node → Option α) (node : Node) : Option (Option α) :=
  match node with
  | .scalar tag? .plain text =>
    match tag? with
    | some tag =>
      if tag = Scalar.coreTag "null" then (if Scalar.isNull text then some none else none)
      else (read node).map some
    | none => if text.isEmpty || Scalar.isNull text then some none else (read node).map some
  | node => (read node).map some

/-- A truth value: a scalar without quotes, or a literal block that has the tag of one. -/
def bool? : Node → Option Bool
  | .scalar _ .plain text => Scalar.bool? text
  | .scalar tag? .literal text =>
    if tag? = some (Scalar.coreTag "bool") then Scalar.bool? text else none
  | _ => none

/-- A list of values. -/
def list? {α : Type} (slots : Slots) (read : Node → Option α) (node : Node) :
    Option (List α) :=
  match node with
  | .sequence _ items => items.mapM fun item => read (slots.resolve item)
  | node => if isVoid node then some [] else none

/-- The name of a choice: the text of a scalar, or a tag on nothing. -/
def choice? : Node → Option String
  | .scalar tag? form text =>
    match localTag? tag? with
    | some tag => if form == .plain && (text.isEmpty || Scalar.isNull text) then some tag else none
    | none => some text
  | _ => none

/-- The fields of a record, by the texts of their keys. -/
def fields? (slots : Slots) (known : List String) (strict : Bool) (node : Node) :
    Option (List (String × Node)) := do
  let entries ← match node with
    | .mapping _ entries => some entries
    | node => if isVoid node then some [] else none
  let named ← entries.mapM fun (key, value) =>
    (text? (slots.resolve key)).map (·, slots.resolve value)
  let used := named.filter fun (key, _) => known.contains key
  if strict && used.length != named.length then none
  else if used.any fun (key, _) => 1 < (used.filter (·.1 == key)).length then none
  else some used

/-- Read the value of a field, or take its default. -/
def field {α : Type} (fields : List (String × Node)) (key : String)
    (read : Node → Option α) (default : α) : Option α :=
  match findKey? key fields with
  | some node => read node
  | none => some default

/-- Read the record of a whole text; a text without a document has no field. -/
def document? {α : Type} (read : Slots → Node → Option α) (text : String) : Option α := do
  match ← Document.parse? text with
  | none => read [] .empty
  | some document => read document.slots document.root

end ChartSchema.Yaml.Decode
