import ChartSchema.Crd.Node
/-!
# Custom resource definitions

The document that tells a cluster about a kind of resource: its group, its names, where its
resources live, and the schema of each of its versions.
-/

namespace ChartSchema

/-- The names of a resource. -/
structure CrdNames where
  /-- The kind. -/
  kind : String := ""
  /-- The name of a list of them. -/
  listKind? : Option String := none
  /-- The name for many. -/
  plural : String := ""
  /-- The name for one. -/
  singular? : Option String := none
  /-- Abbreviations. -/
  shortNames? : Option (List String) := none
  /-- Groups of resources that this one is listed with. -/
  categories? : Option (List String) := none
  deriving Repr, Inhabited

/-- A version of a resource. -/
structure CrdVersion where
  /-- The name of the version. -/
  name : String := ""
  /-- Whether the cluster answers requests for it. -/
  served : Bool := false
  /-- Whether resources are stored in this version. -/
  storage : Bool := false
  /-- The schema of the version. -/
  schema? : Option SchemaNode := none
  deriving Repr, Inhabited

/-- A custom resource definition. -/
structure Crd where
  /-- The name of the definition itself, the plural and the group. -/
  name? : Option String := none
  /-- The API group. -/
  group : String := ""
  /-- The names of the resource. -/
  names : CrdNames := {}
  /-- Where the resources live. -/
  scope : String := ""
  /-- The versions. -/
  versions : List CrdVersion := []
  deriving Repr, Inhabited

/-- The API version of resource definitions. -/
def crdApiVersion : String := "apiextensions.k8s.io/v1"

/-- The kind of resource definitions. -/
def crdKind : String := "CustomResourceDefinition"

/-- The names as JSON, in key order. -/
def CrdNames.toJson (names : CrdNames) : Json :=
  .object (keywordMember "categories" Json.strings names.categories? ++
    [("kind", .string names.kind)] ++ keywordMember "listKind" .string names.listKind? ++
    [("plural", .string names.plural)] ++
    keywordMember "shortNames" Json.strings names.shortNames? ++
    keywordMember "singular" .string names.singular?)

/-- A version as JSON, in key order. -/
def CrdVersion.toJson (version : CrdVersion) : Json :=
  .object ([("name", .string version.name)] ++
    keywordMember "schema"
      (fun node : SchemaNode => .object [("openAPIV3Schema", node.toJson)]) version.schema? ++
    [("served", .bool version.served), ("storage", .bool version.storage)])

/-- The definition as JSON, in key order. -/
def Crd.toJson (crd : Crd) : Json :=
  .object [("apiVersion", .string crdApiVersion), ("kind", .string crdKind),
    ("metadata", .object (keywordMember "name" .string crd.name?)),
    ("spec", .object [("group", .string crd.group), ("names", crd.names.toJson),
      ("scope", .string crd.scope), ("versions", .array (crd.versions.map (·.toJson)))])]

end ChartSchema
