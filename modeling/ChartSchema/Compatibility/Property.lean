import ChartSchema.Crd.Node
import ChartSchema.Text.Basic
import ChartSchema.Text.Case
/-!
# Properties, for comparison

What matters of a node of a resource definition's schema when two definitions are compared. A
`Property` is read from JSON with the greatest tolerance: what does not have the form that is
expected is taken to be absent.
-/

namespace ChartSchema

/-- The type of a property. -/
inductive PropertyType where
  /-- A text. -/
  | string
  /-- An integer. -/
  | integer
  /-- A number. -/
  | number
  /-- A truth value. -/
  | boolean
  /-- A list. -/
  | array
  /-- An object; also where nothing says the type. -/
  | object
  /-- An integer or a text. -/
  | intOrString
  /-- Any value: there is no type, and unknown members are kept. -/
  | any
  /-- A type of another name. -/
  | unknown (name : String)
  deriving Repr, DecidableEq

namespace PropertyType

/-- The type of a name, letters in either case. -/
def ofName (name : String) : PropertyType :=
  let lower := Text.lowercase name
  if lower = "string" then .string
  else if lower = "integer" then .integer
  else if lower = "number" then .number
  else if lower = "boolean" then .boolean
  else if lower = "array" then .array
  else if lower = "object" then .object
  else .unknown lower

/-- The name of a type. -/
def name : PropertyType → String
  | .string => "string"
  | .integer => "integer"
  | .number => "number"
  | .boolean => "boolean"
  | .array => "array"
  | .object => "object"
  | .intOrString => "int-or-string"
  | .any => "any"
  | .unknown name => name

/-- Whether the values of one type are values of another one. Nothing is known about types of
other names. -/
def widensTo : PropertyType → PropertyType → Bool
  | .unknown _, _ | _, .unknown _ => false
  | .integer, .number | .integer, .intOrString | .string, .intOrString | _, .any => true
  | a, b => a == b

end PropertyType

/-- What is said about the value of a property itself. -/
structure Rules where
  /-- What the value is for. -/
  description? : Option String := none
  /-- The value where none is given. -/
  default? : Option Json := none
  /-- A named format. -/
  format? : Option String := none
  /-- A regular expression that texts match. -/
  pattern? : Option String := none
  /-- The values allowed. -/
  enum? : Option (List Json) := none
  /-- The least number. -/
  minimum? : Option Binary64 := none
  /-- The largest number. -/
  maximum? : Option Binary64 := none
  /-- Whether the least number itself is excluded. -/
  exclusiveMinimum : Bool := false
  /-- Whether the largest number itself is excluded. -/
  exclusiveMaximum : Bool := false
  /-- What numbers are multiples of. -/
  multipleOf? : Option Binary64 := none
  /-- The least length of a text. -/
  minLength? : Option Nat := none
  /-- The largest length of a text. -/
  maxLength? : Option Nat := none
  /-- The least number of items. -/
  minItems? : Option Nat := none
  /-- The largest number of items. -/
  maxItems? : Option Nat := none
  /-- Whether items differ from each other. -/
  uniqueItems : Bool := false
  /-- The least number of members. -/
  minProperties? : Option Nat := none
  /-- The largest number of members. -/
  maxProperties? : Option Nat := none
  /-- Whether null is allowed. -/
  nullable : Bool := false
  /-- The members that have to be there. -/
  required : List String := []
  /-- Whether members are kept that the schema does not know. -/
  preserveUnknown : Bool := false
  deriving Repr, Inhabited

/-- A property, with those inside it. -/
structure Property where
  /-- The type. -/
  type : PropertyType := .object
  /-- What is said about the value itself. -/
  rules : Rules := {}
  /-- The members of an object, in key order. -/
  properties : List (String × Property) := []
  /-- The items of a list. -/
  items? : Option Property := none
  /-- The members of an object that have no property. -/
  additional? : Option (OrBool Property) := none
  deriving Repr, Inhabited

namespace Property

/-- Whether a property says that the member of this key has to be there. -/
def isRequired (p : Property) (key : String) : Bool := p.rules.required.contains key

/-- The property of a member, of its member and so on, by their keys. -/
def nested? (p : Property) : List String → Option Property
  | [] => some p
  | key :: keys => (findKey? key p.properties).bind (·.nested? keys)

/-- The property at a path of keys with points between them. -/
def atPath? (p : Property) (path : String) : Option Property :=
  p.nested? ((Text.splitOn (· == '.') path.toList).map String.ofList)

end Property

/-! ## Reading -/

namespace Rules

/-- Whether a member is there and true. -/
def flag (members : List (String × Json)) (key : String) : Bool :=
  match findKey? key members with
  | some (.bool b) => b
  | _ => false

/-- The text of a member. -/
def text? (members : List (String × Json)) (key : String) : Option String :=
  (findKey? key members).bind Json.string?

/-- The number of a member. -/
def number? (members : List (String × Json)) (key : String) : Option Binary64 :=
  match findKey? key members with
  | some (.number n) => some n.toBinary64
  | _ => none

/-- The natural number of a member. -/
def count? (members : List (String × Json)) (key : String) : Option Nat :=
  match findKey? key members with
  | some (.number (.int n)) => if 0 ≤ n then some n.toNat else none
  | _ => none

/-- The items of a member that is a list. -/
def list? (members : List (String × Json)) (key : String) : Option (List Json) :=
  match findKey? key members with
  | some (.array items) => some items
  | _ => none

/-- A bound and whether it is excluded, which is either marked or said by a bound of its own. -/
def bound (members : List (String × Json)) (limit exclusive : String) : Option Binary64 × Bool :=
  match findKey? exclusive members with
  | some (.number n) => (some n.toBinary64, true)
  | some (.bool b) => (number? members limit, b)
  | _ => (number? members limit, false)

/-- What the members of a node say about the value itself. -/
def ofMembers (members : List (String × Json)) : Rules :=
  let (minimum?, exclusiveMinimum) := bound members "minimum" "exclusiveMinimum"
  let (maximum?, exclusiveMaximum) := bound members "maximum" "exclusiveMaximum"
  { description? := text? members "description", default? := findKey? "default" members
    format? := text? members "format", pattern? := text? members "pattern"
    enum? := list? members "enum", minimum?, maximum?, exclusiveMinimum, exclusiveMaximum
    multipleOf? := number? members "multipleOf"
    minLength? := count? members "minLength", maxLength? := count? members "maxLength"
    minItems? := count? members "minItems", maxItems? := count? members "maxItems"
    uniqueItems := flag members "uniqueItems"
    minProperties? := count? members "minProperties"
    maxProperties? := count? members "maxProperties"
    nullable := flag members "nullable"
    required := ((list? members "required").getD []).filterMap Json.string?
    preserveUnknown := flag members "x-kubernetes-preserve-unknown-fields" }

end Rules

/-- The type that the members of a node say. -/
def PropertyType.ofMembers (members : List (String × Json)) : PropertyType :=
  if Rules.flag members "x-kubernetes-int-or-string" then .intOrString
  else
    match Rules.text? members "type" with
    | some name => .ofName name
    | none =>
      if Rules.flag members "x-kubernetes-preserve-unknown-fields" then .any else .object

namespace Property

mutual

/-- The property that a JSON value describes. -/
def ofJson (v : Json) : Property :=
  match v with
  | .object members =>
    { type := .ofMembers members, rules := .ofMembers members
      properties := propertiesOf members, items? := itemsOf? members
      additional? := additionalOf? members }
  | _ => {}
termination_by structural v

/-- The properties among the members of a node. -/
def propertiesOf (members : List (String × Json)) : List (String × Property) :=
  match members with
  | [] => []
  | (key, v) :: rest => if key = "properties" then ofMap v else propertiesOf rest
termination_by structural members

/-- The items among the members of a node. -/
def itemsOf? (members : List (String × Json)) : Option Property :=
  match members with
  | [] => none
  | (key, v) :: rest => if key = "items" then some (ofJson v) else itemsOf? rest
termination_by structural members

/-- What the members of a node say about members without a property. -/
def additionalOf? (members : List (String × Json)) : Option (OrBool Property) :=
  match members with
  | [] => none
  | (key, v) :: rest =>
    if key = "additionalProperties" then
      match v with
      | .bool allowed => some (.bool allowed)
      | v => some (.value (ofJson v))
    else additionalOf? rest
termination_by structural members

/-- The properties that the members of an object describe. -/
def ofMap (v : Json) : List (String × Property) :=
  match v with
  | .object members => ofEach members
  | _ => []
termination_by structural v

/-- The properties that members describe. -/
def ofEach (members : List (String × Json)) : List (String × Property) :=
  match members with
  | [] => []
  | (key, v) :: rest => (key, ofJson v) :: ofEach rest
termination_by structural members

end

end Property
end ChartSchema
