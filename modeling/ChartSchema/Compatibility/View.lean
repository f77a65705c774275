import ChartSchema.Compatibility.Property
import ChartSchema.Crd.Definition
import ChartSchema.Crd.Error
import ChartSchema.Crd.Options
import ChartSchema.Yaml.Value
/-!
# Resource definitions, for comparison

A `CrdView` is what matters of a resource definition when it is compared with a later one. It is
read from JSON, where a member that has to be a text and is none makes the document no
definition; the first one that is missing is reported.
-/

namespace ChartSchema

/-- The names of a resource. -/
structure NamesView where
  /-- The kind. -/
  kind : String
  /-- The name for many. -/
  plural : String
  /-- The name for one. -/
  singular? : Option String
  /-- Abbreviations. -/
  shortNames : List String
  /-- The name of a list of them. -/
  listKind? : Option String
  /-- Groups of resources that this one is listed with. -/
  categories : List String
  deriving Repr

/-- A version of a resource. -/
structure VersionView where
  /-- The name of the version. -/
  name : String
  /-- Whether the cluster answers requests for it. -/
  served : Bool
  /-- Whether resources are stored in this version. -/
  storage : Bool
  /-- The schema of the version. -/
  schema? : Option Property
  deriving Repr

/-- A resource definition. -/
structure CrdView where
  /-- The name of the definition. -/
  name : String
  /-- The API group. -/
  group : String
  /-- Where the resources live. -/
  scope : Scope
  /-- The names of the resource. -/
  names : NamesView
  /-- The versions. -/
  versions : List VersionView
  deriving Repr

namespace CrdView

/-- The version that resources are stored in. -/
def storageVersion? (crd : CrdView) : Option VersionView := crd.versions.find? (·.storage)

/-- The first version of a name. -/
def version? (crd : CrdView) (name : String) : Option VersionView :=
  crd.versions.find? (·.name == name)

/-! ## Reading -/

/-- The value behind keys, one inside the other. -/
def inside? (v : Json) (keys : List String) : Option Json := keys.foldlM (fun v key => v.get? key) v

/-- The text behind keys, which has to be there. -/
def text (v : Json) (keys : List String) : Except CrdError String :=
  match (inside? v keys).bind Json.string? with
  | some s => .ok s
  | none => .error (.invalidCrd (.missing (Text.joinWith "." keys)))

/-- The member of a key, which has to be there; `path` names it. -/
def member (v : Json) (key path : String) : Except CrdError Json :=
  match v.get? key with
  | some inner => .ok inner
  | none => .error (.invalidCrd (.missing path))

/-- The texts of a member that is a list. -/
def texts (v : Json) (key : String) : List String :=
  match v.get? key with
  | some (.array items) => items.filterMap Json.string?
  | _ => []

/-- A truth value, or a default where there is none. -/
def flag (v : Json) (key : String) (default : Bool) : Bool :=
  match v.get? key with
  | some (.bool b) => b
  | _ => default

/-- The names in a definition. -/
def namesOf (v : Json) : Except CrdError NamesView := do
  return { kind := ← text v ["kind"], plural := ← text v ["plural"]
           singular? := (v.get? "singular").bind Json.string?, shortNames := texts v "shortNames"
           listKind? := (v.get? "listKind").bind Json.string?, categories := texts v "categories" }

/-- A version in a definition. -/
def versionOf (v : Json) : Except CrdError VersionView := do
  return { name := ← text v ["name"], served := flag v "served" true
           storage := flag v "storage" false
           schema? := (inside? v ["schema", "openAPIV3Schema"]).map Property.ofJson }

/-- The definition that a JSON value describes. -/
def ofJson (v : Json) : Except CrdError CrdView := do
  let kind ← text v ["kind"]
  if kind != crdKind then throw (.invalidCrd (.otherKind kind))
  let name ← text v ["metadata", "name"]
  let spec ← member v "spec" "spec"
  let group ← text spec ["group"]
  let scope := match (spec.get? "scope").bind Json.string? with
    | some "Cluster" => Scope.cluster
    | _ => .namespaced
  let names ← namesOf (← member spec "names" "spec.names")
  match spec.get? "versions" with
  | some (.array versions) =>
    return { name, group, scope, names, versions := ← versions.mapM versionOf }
  | _ => throw (.invalidCrd (.missing "spec.versions"))

/-- The definition that a YAML text describes. -/
def parse (text : String) : Except CrdError CrdView :=
  match Yaml.parseJson? text with
  | some v => ofJson v
  | none => .error .yaml

/-- The view of a definition. -/
def ofCrd (crd : Crd) : Except CrdError CrdView := ofJson crd.toJson

end CrdView
end ChartSchema
