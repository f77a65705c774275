import ChartSchema.Report.Layout
import ChartSchema.Schema.Basic
/-!
# The report of a schema

The structs of a schema with their fields, in the order of the schema, each with its
documentation and its markers.
-/

namespace ChartSchema.Report

/-- The lines about a field. -/
def fieldLines (field : Field) : List String :=
  ["  " ++ field.sourceKey ++ ": " ++ field.type.text] ++
    field.documentation.map ("      # " ++ ·) ++ field.markers.map ("      " ++ ·)

/-- The lines about a struct. -/
def structLines (s : Struct) : List String :=
  ["", s.name] ++ s.documentation.map ("  # " ++ ·) ++
    (if s.fields.isEmpty then ["  (free-form object)"] else []) ++ s.fields.flatMap fieldLines

/-- The report of a schema. -/
def ofSchema (schema : Schema) : String :=
  let version :=
    if schema.apiVersion.isEmpty then "" else " (" ++ schema.apiVersion.text ++ ")"
  ofLines (["Schema: " ++ schema.kind ++ version, rule '═'] ++
    schema.structs.flatMap structLines)

end ChartSchema.Report
