import ChartSchema.Crd.Definition
import ChartSchema.Crd.Error
/-!
# From OpenAPI to JSON Schema

The schema of a resource definition speaks OpenAPI. Some of its keywords mean nothing in JSON
Schema, or something else, and `JsonSchema.ofOpenApi` says the same in JSON Schema's words:

* a value that may be null has `null` among its types, its values or its alternatives;
* an integer or text is one of two alternatives;
* an excluded bound is a keyword of its own;
* the extensions of the cluster are left out;
* where asked for, an object with declared members admits no others, unless it keeps them.
-/

namespace ChartSchema.JsonSchema

/-- The dialect that the schemas are written in. -/
def dialect : String := "http://json-schema.org/draft-07/schema#"

/-- A node that only says the type. -/
def typed (type : String) : Json := .object [("type", .string type)]

/-- Whether a member is there and true. -/
def isSet (key : String) (members : List (String × Json)) : Bool :=
  match findKey? key members with
  | some (.bool b) => b
  | _ => false

/-- The members without the extensions of the cluster. -/
def dropExtensions (members : List (String × Json)) : List (String × Json) :=
  members.filter fun (key, _) => (Text.afterPrefix? "x-kubernetes-" key).isNone

/-- An integer or a text: two alternatives take the place of the type. -/
def intOrString (members : List (String × Json)) : List (String × Json) :=
  insertKey "anyOf" (.array [typed "integer", typed "string"]) (eraseKey "type" members)

/-- A bound that is marked as excluded moves to the keyword of excluded bounds; a mark that is
not set is left out. -/
def excludeBound (bound exclusive : String) (members : List (String × Json)) :
    List (String × Json) :=
  match findKey? exclusive members with
  | some (.bool true) =>
    let rest := eraseKey exclusive members
    match findKey? bound rest with
    | some limit => insertKey exclusive limit (eraseKey bound rest)
    | none => rest
  | some (.number _) | none => members
  | some _ => eraseKey exclusive members

/-- Whether the members declare properties. -/
def declaresProperties (members : List (String × Json)) : Bool :=
  match findKey? "properties" members with
  | some (.object properties) => !properties.isEmpty
  | _ => false

/-- No members but the declared ones, if there are any and nothing else is said about others. -/
def closeObject (members : List (String × Json)) : List (String × Json) :=
  if declaresProperties members && !hasKey "additionalProperties" members then
    insertKey "additionalProperties" (.bool false) members
  else members

/-- Whether a value is null. -/
def isNull : Json → Bool
  | .null => true
  | _ => false

/-- Null beside what is allowed already: an alternative where there are alternatives, otherwise a
type and one of the values, if these are listed. -/
def allowNull (members : List (String × Json)) : List (String × Json) :=
  match findKey? "anyOf" members with
  | some (.array branches) => insertKey "anyOf" (.array (branches ++ [typed "null"])) members
  | _ =>
    let typed : List (String × Json) := match findKey? "type" members with
      | some (.string type) =>
        insertKey "type" (.array [.string type, .string "null"]) members
      | _ => members
    match findKey? "enum" typed with
    | some (.array values) =>
      if values.any isNull then typed
      else insertKey "enum" (.array (values ++ [.null])) typed
    | _ => typed

/-- The members of a node, whose inner nodes are converted already. -/
def ofOpenApiMembers (strict : Bool) (members : List (String × Json)) : List (String × Json) :=
  let plain := dropExtensions (eraseKey "nullable" members)
  let typed :=
    if isSet "x-kubernetes-int-or-string" members then intOrString plain else plain
  let bounded :=
    excludeBound "maximum" "exclusiveMaximum" (excludeBound "minimum" "exclusiveMinimum" typed)
  let closed :=
    if strict && !isSet "x-kubernetes-preserve-unknown-fields" members then closeObject bounded
    else bounded
  if isSet "nullable" members then allowNull closed else closed

mutual

/-- A node in JSON Schema's words. -/
def ofOpenApi (strict : Bool) (node : Json) : Json :=
  match node with
  | .object members => .object (ofOpenApiMembers strict (convertInner strict members))
  | v => v
termination_by structural node

/-- The members of a node with its inner nodes converted. -/
def convertInner (strict : Bool) (members : List (String × Json)) : List (String × Json) :=
  match members with
  | [] => []
  | (key, v) :: rest => (key, convertUnder strict key v) :: convertInner strict rest
termination_by structural members

/-- The value of a keyword with the nodes in it converted. -/
def convertUnder (strict : Bool) (key : String) (v : Json) : Json :=
  match v with
  | .object members =>
    if key = "properties" then .object (convertEach strict members)
    else if ["items", "additionalProperties", "not"].contains key then
      .object (ofOpenApiMembers strict (convertInner strict members))
    else .object members
  | .array nodes =>
    if ["anyOf", "allOf", "oneOf"].contains key then .array (convertNodes strict nodes)
    else .array nodes
  | v => v
termination_by structural v

/-- Named nodes converted. -/
def convertEach (strict : Bool) (properties : List (String × Json)) : List (String × Json) :=
  match properties with
  | [] => []
  | (key, node) :: rest => (key, ofOpenApi strict node) :: convertEach strict rest
termination_by structural properties

/-- Nodes converted. -/
def convertNodes (strict : Bool) (nodes : List Json) : List Json :=
  match nodes with
  | [] => []
  | node :: rest => ofOpenApi strict node :: convertNodes strict rest
termination_by structural nodes

end

end JsonSchema

/-- The version of a name, or else the one that resources are stored in, or the first one. -/
def Crd.version? (crd : Crd) (name? : Option String) : Option CrdVersion :=
  match name? with
  | some name => crd.versions.find? (·.name == name)
  | none => (crd.versions.find? (·.storage)).or crd.versions.head?

/-- The JSON Schema of a version. It names its dialect and is titled with the kind of the
resource, unless the schema says otherwise. -/
def Crd.jsonSchema (crd : Crd) (strict : Bool) (version? : Option String) :
    Except CrdError Json :=
  match crd.version? version? with
  | none => .error (.versionNotFound (version?.getD "<storage>"))
  | some version =>
    match version.schema? with
    | none => .error (.missingSchema version.name)
    | some node =>
      match JsonSchema.ofOpenApi strict node.toJson with
      | .object members =>
        let titled (key value : String) (members : List (String × Json)) :=
          if hasKey key members then members else insertKey key (.string value) members
        .ok (.object (titled "$schema" JsonSchema.dialect
          (titled "title" crd.names.kind members)))
      | v => .ok v

end ChartSchema
