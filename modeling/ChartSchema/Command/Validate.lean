import ChartSchema.Command.Basic
import ChartSchema.Crd.Reader
import ChartSchema.Json.Printer
import ChartSchema.JsonSchema.Validator
import ChartSchema.Report.Findings
import ChartSchema.Yaml.Value
/-!
# Checking a document against a schema

The schema is a JSON Schema or a resource definition, told apart by their kind. Both files may be
YAML or JSON, which is a part of YAML here.
-/

namespace ChartSchema.Validate

open JsonSchema

variable {m : Type → Type} [Monad m] [Host m]

/-- Whether a document is a resource definition. -/
def isCrd (document : Json) : Bool := (document.get? "kind").bind Json.string? == some crdKind

/-- The check that a document describes. -/
def validatorOf (document : Json) : Except CrdError Validator :=
  if isCrd document then
    match Crd.ofJson? document with
    | some crd => Validator.ofCrd crd
    | none => .error .json
  else Validator.ofSchema document

/-- The document in a file. -/
def readDocument (path : String) : Command m Json := do
  match Yaml.parseJson? (← Command.read path) with
  | some document => return document
  | none => throw .notDocument

/-- The answer as JSON. -/
def answer (path schemaPath : String) (violations : List Violation) : Json :=
  .object
    [("errors", .array (violations.map fun violation =>
      .object [("message", .string violation.message), ("path", .string violation.location)])),
    ("instance", .string path), ("schema", .string schemaPath),
    ("valid", .bool violations.isEmpty)]

/-- The answer as a report. -/
def report (path schemaPath : String) (violations : List Violation) : String :=
  let findings : List Report.Finding := violations.map fun violation =>
    { isError := true, location := violation.location, message := violation.message }
  "→ Validating " ++ path ++ " against " ++ schemaPath ++ "\n" ++
    Report.ofFindings path findings ++ "\n" ++ Report.verdict findings

/-- Check the document in a file. -/
def run (path schemaPath : String) (asJson : Bool) : Command m Unit := do
  let validator ← Command.ofCrd (validatorOf (← readDocument schemaPath))
  let violations := validator.violations (← readDocument path)
  Command.print (if asJson then (answer path schemaPath violations).pretty ++ "\n"
    else report path schemaPath violations)
  unless violations.isEmpty do
    throw (.mismatch path schemaPath violations.length)

end ChartSchema.Validate
