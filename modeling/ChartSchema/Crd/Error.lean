import ChartSchema.Text.Basic
/-!
# Why a resource definition cannot be made or read

The causes, and for each the message, the diagnostic code and the advice that go with it.
-/

namespace ChartSchema

/-- What is wrong with the argument of a marker. -/
inductive MarkerFault where
  /-- There is none. -/
  | missing
  /-- It is no finite number. -/
  | notNumber (argument : String)
  /-- It is no natural number. -/
  | notCount (argument : String)
  /-- It is neither true nor false. -/
  | notBoolean (argument : String)
  /-- It is no way to merge a list. -/
  | unknownListType (argument : String)
  /-- It is no YAML document. -/
  | invalidDefault
  /-- The marker speaks of lists and the field is none. -/
  | listOnly
  deriving Repr, DecidableEq

/-- The reason why a marker is refused. -/
def MarkerFault.reason : MarkerFault → String
  | .missing => "missing value"
  | .notNumber argument => "'" ++ argument ++ "' is not a number"
  | .notCount argument => "'" ++ argument ++ "' is not a non-negative integer"
  | .notBoolean argument => "'" ++ argument ++ "' is not a boolean"
  | .unknownListType argument => "unknown list type '" ++ argument ++ "'"
  | .invalidDefault => "invalid default"
  | .listOnly => "applies to list fields only"

/-- Why a document is no custom resource definition. -/
inductive CrdFault where
  /-- A member that has to be there, and be a text, is not. -/
  | missing (path : String)
  /-- It is a document of another kind. -/
  | otherKind (kind : String)
  deriving Repr, DecidableEq

/-- The reason why a document is refused. -/
def CrdFault.reason : CrdFault → String
  | .missing path => "missing '" ++ path ++ "'"
  | .otherKind kind => "expected CustomResourceDefinition, got " ++ kind

/-- Why a resource definition cannot be made, read or used. -/
inductive CrdError where
  /-- Nothing says the API group. -/
  | missingGroup (kind : String)
  /-- Nothing says the API version. -/
  | missingVersion (kind : String)
  /-- The schema has no struct for the resource. -/
  | missingRoot (kind : String)
  /-- A field has no type. -/
  | unknownType (path : String)
  /-- A field's type is a name that stands for nothing. -/
  | unresolvedType (name path : String)
  /-- A struct contains itself. -/
  | recursiveType (name : String)
  /-- A marker cannot be applied. -/
  | invalidMarker (marker path : String) (fault : MarkerFault)
  /-- The definition has no such version. -/
  | versionNotFound (version : String)
  /-- The version has no schema. -/
  | missingSchema (version : String)
  /-- The document is no resource definition. -/
  | invalidCrd (fault : CrdFault)
  /-- The document is no JSON Schema. -/
  | invalidJsonSchema
  /-- The text is no YAML document. -/
  | yaml
  /-- The JSON value does not have the form that is asked for. -/
  | json
  deriving Repr, DecidableEq

namespace CrdError

/-- The message of an error; there is none where a reader of another format refuses a text. -/
def message? : CrdError → Option String
  | .missingGroup kind => some ("No API group for kind '" ++ kind ++ "'")
  | .missingVersion kind => some ("No API version for kind '" ++ kind ++ "'")
  | .missingRoot kind => some ("Schema has no root struct named '" ++ kind ++ "'")
  | .unknownType path => some ("Field " ++ path ++ " has an unknown type")
  | .unresolvedType name path =>
    some ("Cannot resolve type '" ++ name ++ "' of field " ++ path)
  | .recursiveType name => some ("Struct '" ++ name ++ "' refers to itself")
  | .invalidMarker marker path fault =>
    some ("Invalid marker '" ++ marker ++ "' on " ++ path ++ ": " ++ fault.reason)
  | .versionNotFound version => some ("CRD has no version '" ++ version ++ "'")
  | .missingSchema version => some ("CRD version '" ++ version ++ "' has no openAPIV3Schema")
  | .invalidCrd fault => some ("Invalid CRD: " ++ fault.reason)
  | .invalidJsonSchema | .yaml | .json => none

/-- The diagnostic code of an error. -/
def code : CrdError → String
  | .missingGroup _ => "miaka::crd::group"
  | .missingVersion _ => "miaka::crd::version"
  | .missingRoot _ => "miaka::crd::root"
  | .unknownType _ => "miaka::crd::unknown_type"
  | .unresolvedType .. => "miaka::crd::unresolved_type"
  | .recursiveType _ => "miaka::crd::recursive_type"
  | .invalidMarker .. => "miaka::crd::marker"
  | .versionNotFound _ => "miaka::crd::version_not_found"
  | .missingSchema _ => "miaka::crd::missing_schema"
  | .invalidCrd _ => "miaka::crd::invalid"
  | .invalidJsonSchema => "miaka::crd::json_schema"
  | .yaml => "miaka::crd::yaml"
  | .json => "miaka::crd::json"

/-- The advice that goes with an error. -/
def help? : CrdError → Option String
  | .missingGroup _ =>
    some ("set \x60apiVersion: <group>/<version>\x60 in values.yaml or \x60crd.group\x60 in " ++
      "miaka.yaml")
  | .missingVersion _ =>
    some ("set \x60apiVersion: <group>/<version>\x60 in values.yaml or \x60crd.version\x60 in " ++
      "miaka.yaml")
  | .unknownType _ => some "add a type hint comment above the field"
  | .unresolvedType .. =>
    some ("use a scalar type, []T, map[string]T, a struct name, or one of IntOrString, " ++
      "Quantity, Time, Duration, JSON, RawExtension")
  | _ => none

end CrdError
end ChartSchema
