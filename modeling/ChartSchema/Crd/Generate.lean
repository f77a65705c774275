import ChartSchema.Crd.Definition
import ChartSchema.Crd.Marker
import ChartSchema.Crd.Options
/-!
# From a schema to a resource definition

The fields of the resource become the top-level properties of the definition's schema, beside
those that every resource has. A reference to a struct is replaced by the node of the struct, so
a struct that contains itself has no node. A struct without fields stands for free content.
-/

namespace ChartSchema

/-- The blanks around a text taken away, unless nothing else is left. -/
def nonBlank? (text : String) : Option String :=
  if Text.allBlank text then none else some (Text.trimmed text)

/-- The group and the version of a schema: what the document names counts before the options. -/
def groupVersion (options : CrdOptions) (schema : Schema) :
    Except CrdError (String × String) := do
  let pick (own : String) (configured? : Option String) : Option String :=
    (nonBlank? own).or (configured?.bind nonBlank?)
  let group ← match pick schema.apiVersion.group options.group? with
    | some group => .ok group
    | none => .error (.missingGroup schema.kind)
  let version ← match pick schema.apiVersion.version options.version? with
    | some version => .ok version
    | none => .error (.missingVersion schema.kind)
  return (group, version)

/-- A list, or nothing in place of an empty one. -/
def nonEmpty? {α : Type} (values : List α) : Option (List α) :=
  if values.isEmpty then none else some values

/-- The names of a resource of this kind. -/
def CrdNames.ofKind (options : CrdOptions) (kind : String) : CrdNames :=
  let lower := Text.lowercase kind
  { kind, listKind? := some (kind ++ "List")
    plural := options.plural?.getD (pluralize lower)
    singular? := some (options.singular?.getD lower)
    shortNames? := nonEmpty? options.shortNames
    categories? := nonEmpty? options.categories }

/-- The name of the definition: the plural and the group. -/
def crdName (options : CrdOptions) (schema : Schema) : Except CrdError String := do
  let (group, _) ← groupVersion options schema
  return (CrdNames.ofKind options schema.kind).plural ++ "." ++ group

/-- The part of a name behind its last point, in lower case. -/
def baseName (name : String) : String :=
  match (Text.splitOn (· == '.') name.toList).getLast? with
  | some base => Text.asciiLower (String.ofList base)
  | none => ""

/-- The node of a type that is known by its name. -/
def namedNode? (name : String) : Option SchemaNode :=
  let base := baseName name
  if ["intorstring", "quantity"].contains base then some (.intOrString none)
  else if ["time", "datetime", "date-time"].contains base then
    some { type? := some "string", facets := { format? := some "date-time" } }
  else if base = "duration" then some (.typed "string")
  else if ["any", "interface\x7b\x7d", "json"].contains base then some (.preserving none)
  else if ["rawextension", "object"].contains base then some (.preserving (some "object"))
  else none

mutual

/-- The node of a type. `expand` gives the node of a struct by name for a field at a path, and
`isStruct` says whether there is one. -/
def TypeRef.node (expand : String → String → Except CrdError SchemaNode)
    (isStruct : String → Bool) (path : String) (type : TypeRef) : Except CrdError SchemaNode :=
  match type with
  | .integer => .ok { type? := some "integer", facets := { format? := some "int64" } }
  | .float => .ok (.typed "number")
  | .string => .ok (.typed "string")
  | .boolean => .ok (.typed "boolean")
  | .struct name => expand name path
  | .map value => do
    let node ← FieldType.node expand isStruct path value
    return .mapOf node
  | .list element => do
    let node ← TypeRef.node expand isStruct path element
    return .arrayOf node
  | .named name =>
    if isStruct name then expand name path
    else
      match namedNode? name with
      | some node => .ok node
      | none => .error (.unresolvedType name path)
  | .unknown => .error (.unknownType path)
termination_by structural type

/-- The node of a field's type. -/
def FieldType.node (expand : String → String → Except CrdError SchemaNode)
    (isStruct : String → Bool) (path : String) (type : FieldType) :
    Except CrdError SchemaNode :=
  match type with
  | .single type => TypeRef.node expand isStruct path type
  | .list element => do
    let node ← TypeRef.node expand isStruct path element
    return .arrayOf node
termination_by structural type

end

/-- The node with the lines that describe it. -/
def SchemaNode.describe (node : SchemaNode) (documentation : List String) : SchemaNode :=
  if documentation.isEmpty then node
  else
    { node with
      facets := { node.facets with description? := some (Text.joinWith "\n" documentation) } }

/-- The properties of fields, by their keys, and the keys of those that are required. `node`
gives the node of a field's type. -/
def fieldNodes (node : Field → Except CrdError SchemaNode) :
    List Field → Except CrdError (List (String × SchemaNode) × List String)
  | [] => .ok ([], [])
  | field :: rest => do
    let bare ← node field
    let (own, required) ←
      Marker.applyLines field.type.isList field.sourcePath field.markers
        (bare.describe field.documentation)
    let (nodes, keys) ← fieldNodes node rest
    return ((field.sourceKey, own) :: nodes, if required then field.sourceKey :: keys else keys)

/-- The node of a struct. `visiting` holds the names of the structs around it; there are fewer
of them than structs in the schema, so `fuel` need not exceed that number by more than one. -/
def structNode (schema : Schema) :
    (fuel : Nat) → (visiting : List String) → Struct → Except CrdError SchemaNode
  | 0, _, s => .error (.recursiveType s.name)
  | fuel + 1, visiting, s =>
    if visiting.contains s.name then .error (.recursiveType s.name)
    else if s.fields.isEmpty then .ok (.preserving (some "object"))
    else do
      let expand (name path : String) : Except CrdError SchemaNode :=
        match schema.struct? name with
        | some inner => structNode schema fuel (s.name :: visiting) inner
        | none => .error (.unresolvedType name path)
      let isStruct (name : String) : Bool := (schema.struct? name).isSome
      let (nodes, required) ←
        fieldNodes (fun f => FieldType.node expand isStruct f.sourcePath f.type) s.fields
      return { type? := some "object", properties? := some (sortKeys nodes),
               facets := { required? := nonEmpty? required } }

/-- A property that every resource has. -/
def builtinProperty (type description : String) : SchemaNode :=
  { type? := some type, facets := { description? := some description } }

/-- The schema of a resource: the node of its struct with the properties of every resource. -/
def SchemaNode.asResource (node : SchemaNode) (documentation : List String) : SchemaNode :=
  let own := node.properties?.getD []
  let all := insertKey "metadata" (.typed "object") (insertKey "kind"
    (builtinProperty "string"
      "Kind is a string value representing the REST resource this object represents.")
    (insertKey "apiVersion"
      (builtinProperty "string"
        "APIVersion defines the versioned schema of this representation of an object.") own))
  { node with
    properties? := some all
    facets := { node.facets with preserveUnknown? := none } }.describe documentation

/-- The resource definition of a schema. -/
def Crd.ofSchema (options : CrdOptions) (schema : Schema) : Except CrdError Crd := do
  let (group, version) ← groupVersion options schema
  let names := CrdNames.ofKind options schema.kind
  match schema.root? with
  | none => .error (.missingRoot schema.kind)
  | some root =>
    let node ← structNode schema (schema.structs.length + 1) [] root
    return {
      name? := some (names.plural ++ "." ++ group), group, names, scope := options.scope.name
      versions := [{ name := version, served := true, storage := true,
                     schema? := some (node.asResource root.documentation) }] }

end ChartSchema
