import ChartSchema.Json.Basic
/-!
# Schema nodes of a resource definition

The schema in a custom resource definition is a tree of nodes in OpenAPI's vocabulary. A
`SchemaNode` has the keywords that lead to other nodes as fields of its own, and those that only
speak about the value at hand in its `Facets`. Keywords of the vocabulary that this library never
writes are carried along as JSON in `others`.

An object's properties are a list in key order, as everywhere (`insertKey`).
-/

namespace ChartSchema

/-- The keywords of a node that lead to no other node. -/
structure Facets where
  /-- What the value is for. -/
  description? : Option String := none
  /-- The value where none is given. -/
  default? : Option Json := none
  /-- The values allowed. -/
  enum? : Option (List Json) := none
  /-- A named format of texts or numbers. -/
  format? : Option String := none
  /-- A regular expression that texts match. -/
  pattern? : Option String := none
  /-- The least number. -/
  minimum? : Option Binary64 := none
  /-- The largest number. -/
  maximum? : Option Binary64 := none
  /-- Whether the least number itself is excluded. -/
  exclusiveMinimum? : Option Bool := none
  /-- Whether the largest number itself is excluded. -/
  exclusiveMaximum? : Option Bool := none
  /-- What numbers are multiples of. -/
  multipleOf? : Option Binary64 := none
  /-- The least length of a text. -/
  minLength? : Option Int := none
  /-- The largest length of a text. -/
  maxLength? : Option Int := none
  /-- The least number of items. -/
  minItems? : Option Int := none
  /-- The largest number of items. -/
  maxItems? : Option Int := none
  /-- Whether items differ from each other. -/
  uniqueItems? : Option Bool := none
  /-- The least number of members. -/
  minProperties? : Option Int := none
  /-- The largest number of members. -/
  maxProperties? : Option Int := none
  /-- The members that have to be there. -/
  required? : Option (List String) := none
  /-- Whether null is allowed. -/
  nullable? : Option Bool := none
  /-- Whether the value is an integer or a text. -/
  intOrString? : Option Bool := none
  /-- Whether members are kept that the schema does not know. -/
  preserveUnknown? : Option Bool := none
  /-- How a list is merged: as a whole, as a set, or as a map. -/
  listType? : Option String := none
  /-- The members that tell the items of a list apart. -/
  listMapKeys? : Option (List String) := none
  deriving Repr, Inhabited

/-- Either a plain yes or no, or something that says more. -/
inductive OrBool (α : Type) where
  /-- Yes or no. -/
  | bool (allowed : Bool)
  /-- Something that says more. -/
  | value (value : α)
  deriving Repr

/-- A node of a schema. -/
structure SchemaNode where
  /-- The type of the value. -/
  type? : Option String := none
  /-- What else is said of the value. -/
  facets : Facets := {}
  /-- The members of an object, in key order. -/
  properties? : Option (List (String × SchemaNode)) := none
  /-- The items of a list. -/
  items? : Option SchemaNode := none
  /-- The members of an object that have no property. -/
  additional? : Option (OrBool SchemaNode) := none
  /-- Nodes of which at least one describes the value. -/
  anyOf? : Option (List SchemaNode) := none
  /-- Keywords of the vocabulary that are only carried along. -/
  others : List (String × Json) := []
  deriving Repr, Inhabited

namespace SchemaNode

/-- A node that only says the type. -/
def typed (type : String) : SchemaNode := { type? := some type }

/-- A list of values. -/
def arrayOf (items : SchemaNode) : SchemaNode :=
  { type? := some "array", items? := some items }

/-- A map from strings to values. -/
def mapOf (value : SchemaNode) : SchemaNode :=
  { type? := some "object", additional? := some (.value value) }

/-- A value of this type, or of any, that keeps members the schema does not know. -/
def preserving (type? : Option String) : SchemaNode :=
  { type?, facets := { preserveUnknown? := some true } }

/-- An integer or a text. -/
def intOrString (description? : Option String) : SchemaNode :=
  { facets := { description?, intOrString? := some true }
    anyOf? := some [typed "integer", typed "string"] }

end SchemaNode

/-! ## As JSON -/

/-- The member of an object that a keyword has, if it has one. -/
def keywordMember {α : Type} (key : String) (write : α → Json) (value? : Option α) :
    List (String × Json) :=
  match value? with
  | some value => [(key, write value)]
  | none => []

/-- A float as JSON. -/
def Json.float (x : Binary64) : Json := .number (.float x)

/-- The members that the facets have. -/
def Facets.members (f : Facets) : List (String × Json) :=
  keywordMember "description" .string f.description? ++
  keywordMember "default" id f.default? ++
  keywordMember "enum" .array f.enum? ++
  keywordMember "format" .string f.format? ++
  keywordMember "pattern" .string f.pattern? ++
  keywordMember "minimum" .float f.minimum? ++
  keywordMember "maximum" .float f.maximum? ++
  keywordMember "exclusiveMinimum" .bool f.exclusiveMinimum? ++
  keywordMember "exclusiveMaximum" .bool f.exclusiveMaximum? ++
  keywordMember "multipleOf" .float f.multipleOf? ++
  keywordMember "minLength" .int f.minLength? ++
  keywordMember "maxLength" .int f.maxLength? ++
  keywordMember "minItems" .int f.minItems? ++
  keywordMember "maxItems" .int f.maxItems? ++
  keywordMember "uniqueItems" .bool f.uniqueItems? ++
  keywordMember "minProperties" .int f.minProperties? ++
  keywordMember "maxProperties" .int f.maxProperties? ++
  keywordMember "required" Json.strings f.required? ++
  keywordMember "nullable" .bool f.nullable? ++
  keywordMember "x-kubernetes-int-or-string" .bool f.intOrString? ++
  keywordMember "x-kubernetes-preserve-unknown-fields" .bool f.preserveUnknown? ++
  keywordMember "x-kubernetes-list-type" .string f.listType? ++
  keywordMember "x-kubernetes-list-map-keys" Json.strings f.listMapKeys?

namespace SchemaNode

mutual

/-- The node as JSON, its keywords in key order. -/
def toJson (node : SchemaNode) : Json :=
  match node with
  | ⟨type?, facets, properties?, items?, additional?, anyOf?, others⟩ =>
    .object (sortKeys
      (keywordMember "type" .string type? ++ facets.members ++ propertiesJson properties? ++
        itemsJson items? ++ additionalJson additional? ++ anyOfJson anyOf? ++ others))
termination_by structural node

/-- The member for the properties. -/
def propertiesJson (properties? : Option (List (String × SchemaNode))) : List (String × Json) :=
  match properties? with
  | some properties => [("properties", .object (propertyMembers properties))]
  | none => []
termination_by structural properties?

/-- The properties as members of an object. -/
def propertyMembers (properties : List (String × SchemaNode)) : List (String × Json) :=
  match properties with
  | [] => []
  | (key, node) :: rest => (key, node.toJson) :: propertyMembers rest
termination_by structural properties

/-- The member for the items. -/
def itemsJson (items? : Option SchemaNode) : List (String × Json) :=
  match items? with
  | some items => [("items", items.toJson)]
  | none => []
termination_by structural items?

/-- The member for the other members. -/
def additionalJson (additional? : Option (OrBool SchemaNode)) : List (String × Json) :=
  match additional? with
  | some (.bool allowed) => [("additionalProperties", .bool allowed)]
  | some (.value node) => [("additionalProperties", node.toJson)]
  | none => []
termination_by structural additional?

/-- The member for the alternatives. -/
def anyOfJson (anyOf? : Option (List SchemaNode)) : List (String × Json) :=
  match anyOf? with
  | some nodes => [("anyOf", .array (nodesJson nodes))]
  | none => []
termination_by structural anyOf?

/-- Nodes as JSON. -/
def nodesJson (nodes : List SchemaNode) : List Json :=
  match nodes with
  | [] => []
  | node :: rest => node.toJson :: nodesJson rest
termination_by structural nodes

end

end SchemaNode
end ChartSchema
