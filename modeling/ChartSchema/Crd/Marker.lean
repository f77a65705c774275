import ChartSchema.Crd.Error
import ChartSchema.Crd.Node
import ChartSchema.Schema.Basic
import ChartSchema.Yaml.Value
/-!
# Validation markers

A marker is a comment line such as `+kubebuilder:validation:Minimum=1` that adds a rule to the
node of a field. Lines with a name that is not known are passed over; a known marker with a bad
argument is an error.

Markers about the field's values go to the items of a list, all others to the node itself. The
marker that makes a node an integer or a text replaces the node, so it goes before the others,
wherever it is written. Of several markers of one kind the last one counts, the keys of a list
map being collected.
-/

namespace ChartSchema

/-- A rule for the node of a field. -/
inductive Marker where
  /-- The least number. -/
  | minimum (limit : Binary64)
  /-- The largest number. -/
  | maximum (limit : Binary64)
  /-- Whether the least number is excluded. -/
  | exclusiveMinimum (exclusive : Bool)
  /-- Whether the largest number is excluded. -/
  | exclusiveMaximum (exclusive : Bool)
  /-- What numbers are multiples of. -/
  | multipleOf (divisor : Binary64)
  /-- The least length of a text. -/
  | minLength (count : Int)
  /-- The largest length of a text. -/
  | maxLength (count : Int)
  /-- A regular expression for texts. -/
  | pattern (regex : String)
  /-- A named format. -/
  | format (name : String)
  /-- The values allowed. -/
  | enum (values : List Json)
  /-- The value is an integer or a text. -/
  | intOrString
  /-- The least number of items. -/
  | minItems (count : Int)
  /-- The largest number of items. -/
  | maxItems (count : Int)
  /-- Whether items differ. -/
  | uniqueItems (unique : Bool)
  /-- The least number of members. -/
  | minProperties (count : Int)
  /-- The largest number of members. -/
  | maxProperties (count : Int)
  /-- The value where none is given. -/
  | default (value : Json)
  /-- Null is allowed. -/
  | nullable
  /-- Members that the schema does not know are kept. -/
  | preserveUnknown
  /-- How a list is merged. -/
  | listType (name : String)
  /-- A member that tells items apart. -/
  | listMapKey (key : String)
  /-- Whether the field has to be there. -/
  | require (required : Bool)
  deriving Repr

namespace Marker

/-! ## Reading -/

/-- A quoted text without its quotes, for any of three kinds of quotes. -/
def unquote (argument : String) : String :=
  let inside (q : Char) : Option (List Char) :=
    match argument.toList with
    | c :: rest => if c = q ∧ rest.getLast? = some q then some rest.dropLast else none
    | [] => none
  match ['\x60', '"', '\''].findSome? inside with
  | some text => String.ofList text
  | none => argument

/-- A finite number. -/
def number (argument : String) : Except MarkerFault Binary64 :=
  match Yaml.Scalar.decimal? argument.toList with
  | some x => if x.isFinite then .ok x else .error (.notNumber argument)
  | none => .error (.notNumber argument)

/-- A natural number that fits a signed 64-bit word. -/
def count (argument : String) : Except MarkerFault Int :=
  let (negative, ds) := Yaml.Scalar.splitSign argument.toList
  let value? := if ds.all Char.isDigit then Yaml.Scalar.natOfDigits? 10 ds else none
  match value? with
  | some n =>
    if n < Nat.pow 2 63 ∧ (negative = false ∨ n = 0) then .ok n else .error (.notCount argument)
  | none => .error (.notCount argument)

/-- A truth value; no argument means true. -/
def flag (argument? : Option String) : Except MarkerFault Bool :=
  match argument? with
  | none => .ok true
  | some argument =>
    if argument = "" ∨ argument = "true" then .ok true
    else if argument = "false" then .ok false
    else .error (.notBoolean argument)

/-- A value of an enumeration: a YAML scalar other than null, or else the text itself. -/
def enumValue (text : String) : Json :=
  match Yaml.parseJson? text with
  | some (.bool b) => .bool b
  | some (.number n) => .number n
  | some (.string s) => .string s
  | _ => .string (unquote text)

/-- The values of an enumeration, between semicolons. -/
def enumValues (argument : String) : List Json :=
  let pieces := (Text.splitOn (· == ';') argument.toList).map Text.trim
  (pieces.filter (!·.isEmpty)).map fun piece => enumValue (String.ofList piece)

/-- The argument of a marker that needs one. -/
def needed (argument? : Option String) : Except MarkerFault String :=
  match argument? with
  | some argument => if argument.isEmpty then .error .missing else .ok argument
  | none => .error .missing

/-- The marker of a name, which is in lower case; `none` if the name is not known. -/
def ofName (name : String) (argument? : Option String) : Except MarkerFault (Option Marker) :=
  let withNumber (make : Binary64 → Marker) := do
    return some (make (← number (← needed argument?)))
  let withCount (make : Int → Marker) := do
    return some (make (← count (← needed argument?)))
  let withFlag (make : Bool → Marker) := do
    return some (make (← flag argument?))
  match name with
  | "minimum" => withNumber .minimum
  | "maximum" => withNumber .maximum
  | "multipleof" => withNumber .multipleOf
  | "exclusiveminimum" => withFlag .exclusiveMinimum
  | "exclusivemaximum" => withFlag .exclusiveMaximum
  | "minlength" => withCount .minLength
  | "maxlength" => withCount .maxLength
  | "minitems" => withCount .minItems
  | "maxitems" => withCount .maxItems
  | "minproperties" => withCount .minProperties
  | "maxproperties" => withCount .maxProperties
  | "uniqueitems" => withFlag .uniqueItems
  | "pattern" => return some (.pattern (unquote (← needed argument?)))
  | "format" => return some (.format (unquote (← needed argument?)))
  | "enum" => return some (.enum (enumValues (← needed argument?)))
  | "xintorstring" => return some .intOrString
  | "default" => do
    match Yaml.parseJson? (← needed argument?) with
    | some value => return some (.default value)
    | none => throw .invalidDefault
  | "nullable" => return some .nullable
  | "preserveunknownfields" => return some .preserveUnknown
  | "listtype" => do
    let argument ← needed argument?
    if ["atomic", "set", "map"].contains argument then return some (.listType argument)
    else throw (.unknownListType argument)
  | "listmapkey" => return some (.listMapKey (← needed argument?))
  | "required" => return some (.require true)
  | "optional" => return some (.require false)
  | _ => return none

/-- What may stand between the plus sign of a marker line and its name, in the order in which it is
tried: `kubebuilder:` with at most one group of markers, and nothing. -/
def leads : List String := ["kubebuilder:validation:", "kubebuilder:pruning:", "kubebuilder:", ""]

/-- A name and an argument: letters, and behind `=` or `:=` the argument, all in one line. -/
def splitName? (s : List Char) : Option (String × Option String) := do
  let letters := s.takeWhile Char.isAlpha
  let rest := s.dropWhile Char.isAlpha
  let argument? ←
    match rest with
    | [] => some none
    | ':' :: '=' :: argument | '=' :: argument =>
      if argument.contains '\n' then none
      else some (some (String.ofList (Text.trim argument)))
    | _ => none
  if letters.isEmpty then none else some (Text.asciiLower (String.ofList letters), argument?)

/-- The name and the argument of a marker line: a plus sign, and behind one of the leads a name and
an argument. -/
def split? (raw : String) : Option (String × Option String) := do
  let s ← Text.after? ['+'] (Text.trim raw.toList)
  leads.findSome? fun lead => Text.after? lead.toList s >>= splitName?

/-- The marker of a comment line; `none` if it is not known. -/
def parse (raw : String) : Except MarkerFault (Option Marker) :=
  match split? raw with
  | some (name, argument?) => ofName name argument?
  | none => .ok none

/-! ## Applying -/

/-- Whether the marker speaks about values rather than about the field as a whole. -/
def targetsValue : Marker → Bool
  | .minimum _ | .maximum _ | .exclusiveMinimum _ | .exclusiveMaximum _ | .multipleOf _
  | .minLength _ | .maxLength _ | .pattern _ | .format _ | .enum _ | .intOrString => true
  | _ => false

/-- Whether the marker makes sense on lists only. -/
def requiresList : Marker → Bool
  | .minItems _ | .maxItems _ | .uniqueItems _ | .listType _ | .listMapKey _ => true
  | _ => false

/-- Whether the marker replaces the node. -/
def replaces : Marker → Bool
  | .intOrString => true
  | _ => false

/-- The facets with the rule of a marker. -/
def onFacets (f : Facets) : Marker → Facets
  | .minimum limit => { f with minimum? := some limit }
  | .maximum limit => { f with maximum? := some limit }
  | .exclusiveMinimum exclusive => { f with exclusiveMinimum? := some exclusive }
  | .exclusiveMaximum exclusive => { f with exclusiveMaximum? := some exclusive }
  | .multipleOf divisor => { f with multipleOf? := some divisor }
  | .minLength count => { f with minLength? := some count }
  | .maxLength count => { f with maxLength? := some count }
  | .pattern regex => { f with pattern? := some regex }
  | .format name => { f with format? := some name }
  | .enum values => { f with enum? := some values }
  | .minItems count => { f with minItems? := some count }
  | .maxItems count => { f with maxItems? := some count }
  | .uniqueItems unique => { f with uniqueItems? := some unique }
  | .minProperties count => { f with minProperties? := some count }
  | .maxProperties count => { f with maxProperties? := some count }
  | .default value => { f with default? := some value }
  | .nullable => { f with nullable? := some true }
  | .preserveUnknown => { f with preserveUnknown? := some true }
  | .listType name => { f with listType? := some name }
  | .listMapKey key => { f with listMapKeys? := some (f.listMapKeys?.getD [] ++ [key]) }
  | .intOrString | .require _ => f

/-- The node with the rule of a marker. -/
def apply (node : SchemaNode) (marker : Marker) : SchemaNode :=
  match marker with
  | .intOrString => .intOrString node.facets.description?
  | marker => { node with facets := onFacets node.facets marker }

/-- The markers of comment lines, for a field at a path. -/
def parseAll (isList : Bool) (path : String) : List String → Except CrdError (List Marker)
  | [] => .ok []
  | raw :: rest => do
    let marker? ← match parse raw with
      | .ok marker? => .ok marker?
      | .error fault => .error (.invalidMarker raw path fault)
    match marker? with
    | none => parseAll isList path rest
    | some marker =>
      if marker.requiresList && !isList then .error (.invalidMarker raw path .listOnly)
      else return marker :: (← parseAll isList path rest)

/-- The node with the rules about values: the marker that replaces the node goes first. -/
def applyToValue (node : SchemaNode) (markers : List Marker) : SchemaNode :=
  let values := markers.filter (·.targetsValue)
  ((values.filter (·.replaces)) ++ values.filter (!·.replaces)).foldl apply node

/-- The node of a field with the rules about its values, which for a list are about its items. -/
def applyValues (isList : Bool) (node : SchemaNode) (markers : List Marker) : SchemaNode :=
  match isList, node.items? with
  | true, some items => { node with items? := some (applyToValue items markers) }
  | true, none =>
    let kept := node.others.filter (·.1 == "items")
    let new := applyToValue { node with others := eraseKey "items" node.others } markers
    { new with others := kept ++ new.others }
  | false, _ => applyToValue node markers

/-- Whether the markers make the field required: the last one that says so counts. -/
def required (markers : List Marker) : Bool :=
  markers.foldl (fun r marker => match marker with | .require r => r | _ => r) false

/-- The node of a field with the rules of all its markers. -/
def applyAll (isList : Bool) (node : SchemaNode) (markers : List Marker) : SchemaNode :=
  (markers.filter (!·.targetsValue)).foldl apply (applyValues isList node markers)

/-- Gives the node of a field the rules of its marker lines, and tells whether the field is
required. The lines are all read before the node is touched. -/
def applyHere (isList : Bool) (path : String) (raw : List String) :
    EStateM CrdError SchemaNode Bool := do
  let markers ← MonadExcept.ofExcept (parseAll isList path raw)
  modify (applyAll isList · markers)
  return required markers

/-- The node of a field with the rules of its marker lines, and whether the field is required. -/
def applyLines (isList : Bool) (path : String) (raw : List String) (node : SchemaNode) :
    Except CrdError (SchemaNode × Bool) :=
  match (applyHere isList path raw).run node with
  | .ok required own => .ok (own, required)
  | .error e _ => .error e

/-- What comes of marker lines follows from the markers in them. -/
theorem applyLines_eq (isList : Bool) (path : String) (raw : List String) (node : SchemaNode) :
    applyLines isList path raw node = (do
      let markers ← parseAll isList path raw
      return (applyAll isList node markers, required markers)) := by
  unfold applyLines applyHere
  cases parseAll isList path raw <;> rfl

end Marker
end ChartSchema
