import ChartSchema.Command.Arguments
import ChartSchema.Command.Project
import ChartSchema.Json.Printer
import ChartSchema.Report.Findings
import ChartSchema.Report.Structs
import ChartSchema.Schema.Infer
import ChartSchema.Schema.Json
import ChartSchema.Yaml.Printer
/-!
# Showing the schema of a values document

The schema is shown as it is inferred, with the fields that lack a type: as a report, or as a
document of the schema and these fields.
-/

namespace ChartSchema.Inspect

open Arguments (SchemaForm)

variable {m : Type → Type} [Monad m] [Host m]

/-- The schema and the fields without a type, as JSON. -/
def document (schema : Schema) : Json :=
  .object [("schema", schema.toJson),
    ("unknownTypes", .array (schema.unknownFields.map (·.toJson)))]

/-- The finding that a field lacks a type. -/
def finding (tool : String) (field : UnknownField) : Report.Finding :=
  let what := match field.position with
    | .field => "Type"
    | .listElement => "Element type"
  let anchor := match field.line? with
    | some line => "line " ++ toString line
    | none => "'" ++ field.sourceKey ++ "'"
  { isError := false, location := field.path, line? := field.line?
    message := what ++ " of '" ++ field.sourceKey ++ "' is unknown"
    hint? := some ("add \x60# +" ++ tool ++ ":type:<type>\x60 above " ++ anchor) }

/-- The report of the fields without a type. -/
def unknownReport (values tool : String) (fields : List UnknownField) : String :=
  if fields.isEmpty then "\n✓ Every field has a type\n"
  else
    Report.ofFindings values (fields.map (finding tool)) ++ "\n⚠ " ++
      Text.counted fields.length "field" "fields" ++
      " without a type, add hints before generating a CRD\n"

/-- The text that is printed about a schema. -/
def render (form : SchemaForm) (values tool : String) (schema : Schema) : String :=
  match form with
  | .json => (document schema).pretty ++ "\n"
  | .yaml => Yaml.render (document schema)
  | .text => Report.ofSchema schema ++ unknownReport values tool schema.unknownFields

/-- Show the schema of a values document. The project is that of the document's folder. -/
def run (values : String) (form : SchemaForm) : Command m Unit := do
  let project ← Project.load ((Path.folder? values).getD ".")
  let schema ← Command.ofSchema (Schema.ofText project.build (← Command.read values))
  Command.print (render form values project.build.markerTool schema)

end ChartSchema.Inspect
