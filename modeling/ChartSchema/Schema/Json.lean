import ChartSchema.Json.Basic
import ChartSchema.Schema.Unknown
/-!
# Schemas as JSON

The members of a schema, in the order in which a reader of the text wants them. Lists of
documentation and of markers are left out where they are empty, and so is a line that is not
known; only in the report of fields without a type an unknown line is null.
-/

namespace ChartSchema

namespace Json

/-- A member for a list of texts, unless it is empty. -/
def textsMember (key : String) (texts : List String) : List (String × Json) :=
  if texts.isEmpty then [] else [(key, .strings texts)]

end Json

/-- A field as JSON. -/
def Field.toJson (field : Field) : Json :=
  let line := match field.sourceLine? with
    | some line => [("sourceLine", Json.int line)]
    | none => []
  .object ([("name", .string field.name), ("sourceKey", .string field.sourceKey),
      ("type", .string field.type.text)] ++
    Json.textsMember "documentation" field.documentation ++
    Json.textsMember "markers" field.markers ++
    [("sourcePath", .string field.sourcePath)] ++ line)

/-- A struct as JSON. -/
def Struct.toJson (s : Struct) : Json :=
  .object ([("name", .string s.name)] ++ Json.textsMember "documentation" s.documentation ++
    [("fields", .array (s.fields.map (·.toJson)))])

/-- A schema as JSON. -/
def Schema.toJson (schema : Schema) : Json :=
  .object
    [("apiGroupVersion", .object [("group", .string schema.apiVersion.group),
      ("version", .string schema.apiVersion.version)]),
    ("resourceKind", .string schema.kind),
    ("structs", .array (schema.structs.map (·.toJson)))]

/-- The name of a position. -/
def UnknownPosition.name : UnknownPosition → String
  | .field => "field"
  | .listElement => "listElement"

/-- A field without a type as JSON. -/
def UnknownField.toJson (field : UnknownField) : Json :=
  let line := match field.line? with
    | some line => Json.int line
    | none => .null
  .object [("structName", .string field.structName), ("fieldName", .string field.fieldName),
    ("sourceKey", .string field.sourceKey), ("path", .string field.path), ("line", line),
    ("position", .string field.position.name)]

end ChartSchema
