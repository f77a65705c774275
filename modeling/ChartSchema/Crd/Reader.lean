import ChartSchema.Crd.Definition
import ChartSchema.Json.Shape
/-!
# Reading resource definitions from JSON

`SchemaNode.ofJson?` and `Crd.ofJson?` read what the cluster's own types accept: a member that is
absent or null is left out, a required one then has an empty value, a member that is not known is
passed over, and a known one of another form makes the whole value unreadable. The API version
and the kind of a definition may be left out, but not be others.
-/

namespace ChartSchema

/-! ## Nodes -/

namespace SchemaNode

/-- The node with a keyword that it only carries along. -/
def carry (node : SchemaNode) (key : String) (v : Json) : SchemaNode :=
  { node with others := node.others ++ [(key, v)] }

/-- The keywords that the vocabulary has. -/
def keywords : List String :=
  ["$ref", "$schema", "additionalItems", "additionalProperties", "allOf", "anyOf", "default",
    "definitions", "dependencies", "description", "enum", "example", "exclusiveMaximum",
    "exclusiveMinimum", "externalDocs", "format", "id", "items", "maxItems", "maxLength",
    "maxProperties", "maximum", "minItems", "minLength", "minProperties", "minimum",
    "multipleOf", "not", "nullable", "oneOf", "pattern", "patternProperties", "properties",
    "required", "title", "type", "uniqueItems", "x-kubernetes-embedded-resource",
    "x-kubernetes-int-or-string", "x-kubernetes-list-map-keys", "x-kubernetes-list-type",
    "x-kubernetes-map-type", "x-kubernetes-preserve-unknown-fields",
    "x-kubernetes-validations"]

/-- The node with a keyword that takes any value, or with none if the keyword is not of the
vocabulary. A keyword that takes no such value cannot be read. -/
def withAny? (node : SchemaNode) (key : String) (v : Json) : Option SchemaNode :=
  if key = "default" then some { node with facets := { node.facets with default? := some v } }
  else if key = "example" then some (node.carry key v)
  else if keywords.contains key then none
  else some node

/-- The node with a keyword whose value is true or false. -/
def withFlag? (node : SchemaNode) (key : String) (b : Bool) : Option SchemaNode :=
  let facets (f : Facets) : Option SchemaNode := some { node with facets := f }
  match key with
  | "additionalProperties" => some { node with additional? := some (.bool b) }
  | "exclusiveMaximum" => facets { node.facets with exclusiveMaximum? := some b }
  | "exclusiveMinimum" => facets { node.facets with exclusiveMinimum? := some b }
  | "nullable" => facets { node.facets with nullable? := some b }
  | "uniqueItems" => facets { node.facets with uniqueItems? := some b }
  | "x-kubernetes-int-or-string" => facets { node.facets with intOrString? := some b }
  | "x-kubernetes-preserve-unknown-fields" =>
    facets { node.facets with preserveUnknown? := some b }
  | "additionalItems" | "x-kubernetes-embedded-resource" => some (node.carry key (.bool b))
  | key => node.withAny? key (.bool b)

/-- The node with a keyword whose value is a number: a bound is read as a float, a count has to
be an integer. -/
def withNumber? (node : SchemaNode) (key : String) (n : Number) : Option SchemaNode :=
  let facets (f : Facets) : Option SchemaNode := some { node with facets := f }
  let count? : Option Int := match n with
    | .int i => if Shape.fitsInteger 64 n then some i else none
    | .float _ => none
  match key with
  | "maximum" => facets { node.facets with maximum? := some n.toBinary64 }
  | "minimum" => facets { node.facets with minimum? := some n.toBinary64 }
  | "multipleOf" => facets { node.facets with multipleOf? := some n.toBinary64 }
  | "maxItems" => count?.bind fun i => facets { node.facets with maxItems? := some i }
  | "maxLength" => count?.bind fun i => facets { node.facets with maxLength? := some i }
  | "maxProperties" => count?.bind fun i => facets { node.facets with maxProperties? := some i }
  | "minItems" => count?.bind fun i => facets { node.facets with minItems? := some i }
  | "minLength" => count?.bind fun i => facets { node.facets with minLength? := some i }
  | "minProperties" => count?.bind fun i => facets { node.facets with minProperties? := some i }
  | key => node.withAny? key (.number n)

/-- The node with a keyword whose value is a text. -/
def withText? (node : SchemaNode) (key : String) (s : String) : Option SchemaNode :=
  match key with
  | "type" => some { node with type? := some s }
  | "description" => some { node with facets := { node.facets with description? := some s } }
  | "format" => some { node with facets := { node.facets with format? := some s } }
  | "pattern" => some { node with facets := { node.facets with pattern? := some s } }
  | "x-kubernetes-list-type" =>
    some { node with facets := { node.facets with listType? := some s } }
  | "$ref" | "$schema" | "id" | "title" | "x-kubernetes-map-type" =>
    some (node.carry key (.string s))
  | key => node.withAny? key (.string s)

/-- The texts of a list that holds nothing else. -/
def texts? (items : List Json) : Option (List String) := items.mapM Json.string?

/-- The members of an object that are texts or truth values of the names given, null ones left
out. -/
def recordOf (fields : List (String × Shape)) (v : Json) : Json :=
  .object (fields.filterMap fun (key, _) =>
    match v.get? key with
    | none | some .null => none
    | some member => some (key, member))

/-- The shape of a validation rule. -/
def ruleFields : List (String × Shape) :=
  [("fieldPath", .text), ("message", .text), ("messageExpression", .text),
    ("optionalOldSelf", .flag), ("reason", .text), ("rule", .text)]

/-- A validation rule; the expression of one that has none is empty. -/
def rule (v : Json) : Json :=
  match recordOf ruleFields v with
  | .object members =>
    .object (if hasKey "rule" members then members else members ++ [("rule", .string "")])
  | v => v

/-- The shape of a reference to a document. -/
def docsFields : List (String × Shape) := [("description", .text), ("url", .text)]

/-- The node with a keyword whose value is a list of other things than nodes. -/
def withList? (node : SchemaNode) (key : String) (items : List Json) : Option SchemaNode :=
  match key with
  | "enum" => some { node with facets := { node.facets with enum? := some items } }
  | "required" => (texts? items).map fun keys =>
    { node with facets := { node.facets with required? := some keys } }
  | "x-kubernetes-list-map-keys" => (texts? items).map fun keys =>
    { node with facets := { node.facets with listMapKeys? := some keys } }
  | "x-kubernetes-validations" =>
    if items.all (Shape.record ruleFields).fits then
      some (node.carry key (.array (items.map rule)))
    else none
  | key => node.withAny? key (.array items)

mutual

/-- The node that a JSON value writes. -/
def ofJson? (v : Json) : Option SchemaNode :=
  match v with
  | .object members => withMembers? {} members
  | _ => none
termination_by structural v

/-- The node with the keywords of all members. -/
def withMembers? (node : SchemaNode) (members : List (String × Json)) : Option SchemaNode :=
  match members with
  | [] => some node
  | (key, value) :: rest =>
    match withMember? node key value with
    | some next => withMembers? next rest
    | none => none
termination_by structural members

/-- The node with one more keyword. -/
def withMember? (node : SchemaNode) (key : String) (v : Json) : Option SchemaNode :=
  match v with
  | .null => some node
  | .bool b => node.withFlag? key b
  | .number n => node.withNumber? key n
  | .string s => node.withText? key s
  | .array items =>
    if key = "anyOf" then (nodesOfJson? items).map fun nodes => { node with anyOf? := some nodes }
    else if ["allOf", "items", "oneOf"].contains key then
      (nodesOfJson? items).map fun nodes => node.carry key (.array (nodes.map toJson))
    else node.withList? key items
  | .object members =>
    if key = "items" then
      (withMembers? {} members).map fun inner => { node with items? := some inner }
    else if key = "additionalProperties" then
      (withMembers? {} members).map fun inner =>
        { node with additional? := some (.value inner) }
    else if ["additionalItems", "not"].contains key then
      (withMembers? {} members).map fun inner => node.carry key inner.toJson
    else if key = "properties" then
      (propertiesOfJson? members).map fun nodes => { node with properties? := some nodes }
    else if ["definitions", "patternProperties"].contains key then
      (propertiesOfJson? members).map fun nodes =>
        node.carry key (.object (nodes.map fun (key, inner) => (key, inner.toJson)))
    else if key = "dependencies" then
      (dependenciesOfJson? members).map fun members => node.carry key (.object members)
    else if key = "externalDocs" then
      if (Shape.record docsFields).fits (.object members) then
        some (node.carry key (recordOf docsFields (.object members)))
      else none
    else node.withAny? key (.object members)
termination_by structural v

/-- The nodes that the items of a list write. -/
def nodesOfJson? (items : List Json) : Option (List SchemaNode) :=
  match items with
  | [] => some []
  | item :: rest => do
    let node ← ofJson? item
    let nodes ← nodesOfJson? rest
    return node :: nodes
termination_by structural items

/-- The nodes that the members of an object write, by their keys. -/
def propertiesOfJson? (members : List (String × Json)) : Option (List (String × SchemaNode)) :=
  match members with
  | [] => some []
  | (key, value) :: rest => do
    let node ← ofJson? value
    let nodes ← propertiesOfJson? rest
    return (key, node) :: nodes
termination_by structural members

/-- What members depend on, by their keys: a node, or a list of other members. -/
def dependenciesOfJson? (members : List (String × Json)) : Option (List (String × Json)) :=
  match members with
  | [] => some []
  | (key, value) :: rest => do
    let own ← dependencyOfJson? value
    let others ← dependenciesOfJson? rest
    return (key, own) :: others
termination_by structural members

/-- What a member depends on. -/
def dependencyOfJson? (v : Json) : Option Json :=
  match v with
  | .object members => (withMembers? {} members).map toJson
  | .array items => (texts? items).map Json.strings
  | _ => none
termination_by structural v

end

end SchemaNode

/-! ## Definitions -/

namespace Crd

/-- The shape of the data that every object of a cluster has. -/
def metadataShape : Shape :=
  .record [("annotations", .map .text), ("creationTimestamp", .moment),
    ("deletionGracePeriodSeconds", .integer 64), ("deletionTimestamp", .moment),
    ("finalizers", .list .text), ("generateName", .text), ("generation", .integer 64),
    ("labels", .map .text),
    ("managedFields", .list (.record [("apiVersion", .text), ("fieldsType", .text),
      ("fieldsV1", .anything), ("manager", .text), ("operation", .text), ("subresource", .text),
      ("time", .moment)])),
    ("name", .text), ("namespace", .text),
    ("ownerReferences", .list (.record [("apiVersion", .text), ("blockOwnerDeletion", .flag),
      ("controller", .flag), ("kind", .text), ("name", .text), ("uid", .text)])),
    ("resourceVersion", .text), ("selfLink", .text), ("uid", .text)]

/-- The shape of the names of a resource. -/
def namesShape : Shape :=
  .record [("categories", .list .text), ("kind", .text), ("listKind", .text),
    ("plural", .text), ("shortNames", .list .text), ("singular", .text)]

/-- The shape of how versions are turned into each other. -/
def conversionShape : Shape :=
  .record [("strategy", .text),
    ("webhook", .record [
      ("clientConfig", .record [("caBundle", .bytes),
        ("service", .record [("name", .text), ("namespace", .text), ("path", .text),
          ("port", .integer 32)]),
        ("url", .text)]),
      ("conversionReviewVersions", .list .text)])]

/-- The shape of a version, its schema apart. -/
def versionShape : Shape :=
  .record [
    ("additionalPrinterColumns", .list (.record [("description", .text), ("format", .text),
      ("jsonPath", .text), ("name", .text), ("priority", .integer 32), ("type", .text)])),
    ("deprecated", .flag), ("deprecationWarning", .text), ("name", .text),
    ("schema", .record [("openAPIV3Schema", .record [])]),
    ("selectableFields", .list (.record [("jsonPath", .text)])), ("served", .flag),
    ("storage", .flag),
    ("subresources", .record [
      ("scale", .record [("labelSelectorPath", .text), ("specReplicasPath", .text),
        ("statusReplicasPath", .text)]),
      ("status", .anything)])]

/-- The shape of what a cluster says about a definition. -/
def statusShape : Shape :=
  .record [("acceptedNames", namesShape),
    ("conditions", .list (.record [("lastTransitionTime", .moment), ("message", .text),
      ("reason", .text), ("status", .text), ("type", .text)])),
    ("storedVersions", .list .text)]

/-- The shape of a definition. -/
def shape : Shape :=
  .record [("metadata", metadataShape),
    ("spec", .record [("conversion", conversionShape), ("group", .text), ("names", namesShape),
      ("preserveUnknownFields", .flag), ("scope", .text), ("versions", .list versionShape)]),
    ("status", statusShape)]

/-- The text of a member, if there is one. -/
def text? (key : String) (v : Json) : Option String := (v.get? key).bind Json.string?

/-- The texts of a member that is a list, if there is one. -/
def textList? (key : String) (v : Json) : Option (List String) :=
  match v.get? key with
  | some (.array items) => SchemaNode.texts? items
  | _ => none

/-- The names in an object that has their shape. -/
def namesOf (v : Json) : CrdNames :=
  { kind := (text? "kind" v).getD "", listKind? := text? "listKind" v
    plural := (text? "plural" v).getD "", singular? := text? "singular" v
    shortNames? := textList? "shortNames" v, categories? := textList? "categories" v }

/-- The version in an object that has its shape; there is none if its schema cannot be read. -/
def versionOf? (v : Json) : Option CrdVersion := do
  let isTrue (key : String) : Bool := match v.get? key with
    | some (.bool b) => b
    | _ => false
  let schema? ← match (v.get? "schema").bind (Json.get? "openAPIV3Schema") with
    | none | some .null => some none
    | some node => (SchemaNode.ofJson? node).map some
  return { name := (text? "name" v).getD "", served := isTrue "served"
           storage := isTrue "storage", schema? }

/-- Whether a member is absent or is this text. -/
def absentOr (text key : String) (v : Json) : Bool :=
  match v.get? key with
  | none => true
  | some (.string s) => s == text
  | some _ => false

/-- The definition that a JSON value writes. -/
def ofJson? (v : Json) : Option Crd := do
  if !(shape.fits v && absentOr crdApiVersion "apiVersion" v && absentOr crdKind "kind" v) then
    failure
  let spec := (v.get? "spec").getD .null
  let versions := match spec.get? "versions" with
    | some (.array versions) => versions
    | _ => []
  return {
    name? := (v.get? "metadata").bind (text? "name")
    group := (text? "group" spec).getD "", scope := (text? "scope" spec).getD ""
    names := namesOf ((spec.get? "names").getD .null)
    versions := ← versions.mapM versionOf? }

end Crd
end ChartSchema
