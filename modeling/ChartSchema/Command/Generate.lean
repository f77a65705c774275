import ChartSchema.Command.Arguments
import ChartSchema.Command.Project
import ChartSchema.Crd.Generate
import ChartSchema.Json.Printer
import ChartSchema.JsonSchema.OpenApi
import ChartSchema.Report.Changes
import ChartSchema.Schema.Infer
import ChartSchema.Yaml.Printer
/-!
# Generating the products of a chart

A chart has two products: the custom resource definition of its values document and the JSON
Schema made from it. They are made as a whole before any of them is written, and they are
written only if the policy lets the new definition take the place of the one that is there.
-/

namespace ChartSchema.Generate

open Arguments (GenerateRequest)

variable {m : Type → Type} [Monad m] [Host m]

/-- The products of a chart. -/
structure Products where
  /-- The definition. -/
  crd : Crd
  /-- The JSON Schema. -/
  jsonSchema : Json
  /-- Where the definition is written. -/
  crdPath : String
  /-- Where the JSON Schema is written. -/
  jsonSchemaPath : String
  /-- What changes against the definition that is there. -/
  analysis : Analysis
  deriving Repr

namespace Products

/-- The text of the definition. -/
def crdText (products : Products) : String := Yaml.render products.crd.toJson

/-- The text of the JSON Schema. -/
def jsonSchemaText (products : Products) : String := products.jsonSchema.pretty ++ "\n"

end Products

/-- The project, with what the request says instead of it. -/
def withRequest (project : Project) (request : GenerateRequest) : Project :=
  { project with
    compatibility := request.policy?.getD project.compatibility
    crd := { project.crd with
      group? := request.group?.or project.crd.group?
      version? := request.version?.or project.crd.version?
      plural? := request.plural?.or project.crd.plural?
      scope := request.scope?.getD project.crd.scope } }

/-- The values document of a request. -/
def valuesPath (request : GenerateRequest) : String :=
  request.values?.getD (Path.join request.chart "values.yaml")

/-- The definition of a values text, with its name and its JSON Schema. -/
def define (project : Project) (text : String) : Except Failure (String × Crd × Json) := do
  let schema ← (Schema.infer project.build text).mapError .schema
  let crd ← (Crd.ofSchema project.crd schema).mapError .crd
  let name ← (crdName project.crd schema).mapError .crd
  let jsonSchema ← (crd.jsonSchema project.crd.strictJsonSchema none).mapError .crd
  return (name, crd, jsonSchema)

/-- The definition that is at a path, if something is there. -/
def previous? (path : String) : Command m (Option CrdView) := do
  if ← Command.present path then
    return some (← Command.ofCrd (CrdView.parse (← Command.read path)))
  else return none

/-- Make the products; this writes nothing. -/
def prepare (project : Project) (request : GenerateRequest) : Command m Products := do
  let text ← Command.read (valuesPath request)
  let (name, crd, jsonSchema) ← Command.ofResult (define project text)
  let crdPath := request.crdOutput?.getD (project.crdPath request.chart name)
  let jsonSchemaPath := request.jsonSchemaOutput?.getD (project.jsonSchemaPath request.chart)
  let old? ← previous? crdPath
  let analysis ← Command.ofCrd (Analysis.ofCrd old? crd)
  return { crd, jsonSchema, crdPath, jsonSchemaPath, analysis }

/-- Show what changes, and stop if the policy rejects it. -/
def checkCompatibility (analysis : Analysis) (policy : Policy) (yes : Bool) : Command m Unit := do
  unless analysis.isNew || analysis.changes.isEmpty do
    Command.note (Report.ofAnalysis analysis)
  match policy.decide analysis with
  | .accept => return
  | .reject reason _ =>
    Command.note ("\n⚠ The " ++ policy.name ++ " policy rejects this update: " ++ reason ++ "\n")
    if yes then Command.note "  Continuing because of --yes\n"
    else throw (.breakingChange reason)

/-- Print the products. -/
def display (products : Products) : Command m Unit := do
  Command.print ("# Source: " ++ products.crdPath ++ "\n" ++ products.crdText)
  Command.print ("# Source: " ++ products.jsonSchemaPath ++ "\n" ++ products.jsonSchemaText)

/-- Write the products. -/
def commit (products : Products) : Command m Unit := do
  Command.write products.crdPath products.crdText
  Command.write products.jsonSchemaPath products.jsonSchemaText
  Command.print ("✓ Wrote CRD " ++ products.crdPath ++ "\n")
  Command.print ("✓ Wrote JSON Schema " ++ products.jsonSchemaPath ++ "\n")

/-- Generate the products of a chart. -/
def run (request : GenerateRequest) : Command m Unit := do
  let project := withRequest (← Project.load request.chart) request
  Command.note ("→ Generating from " ++ valuesPath request ++ "\n")
  let products ← prepare project request
  checkCompatibility products.analysis project.compatibility request.yes
  if request.dryRun then display products else commit products

end ChartSchema.Generate
