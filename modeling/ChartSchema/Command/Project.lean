import ChartSchema.Command.Basic
import ChartSchema.Compatibility.Policy
import ChartSchema.Crd.Options
import ChartSchema.Schema.Options
/-!
# Project files

A chart may have a file `miaka.yaml` beside its values document. It holds the options of the
chart and where its products are written; paths in it start in the folder of the chart. A key
that is not known makes it no project file.
-/

namespace ChartSchema

/-- What a project file says. -/
structure Project where
  /-- How the values document is read. -/
  build : BuildOptions := {}
  /-- What the resource definition looks like. -/
  crd : CrdOptions := {}
  /-- Which changes to the definition are let through. -/
  compatibility : Policy := .safe
  /-- Where the definition is written. -/
  crdOutput? : Option String := none
  /-- Where the JSON Schema is written. -/
  jsonSchemaOutput? : Option String := none
  deriving Repr, DecidableEq

namespace Project

open Yaml

/-- The name of a project file. -/
def fileName : String := "miaka.yaml"

/-- The policy that a node names. -/
def policyOfNode? (node : Node) : Option Policy := Decode.choice? node >>= Policy.ofName?

/-- The paths of the products that a node writes: that of the definition and that of the JSON
Schema. -/
def outputsOfNode? (slots : Slots) (node : Node) : Option (Option String × Option String) := do
  let fields ← Decode.fields? slots ["crd", "jsonSchema"] true node
  let path (key : String) := Decode.field fields key (Decode.nullable? Decode.text?) none
  return (← path "crd", ← path "jsonSchema")

/-- The project that a YAML node describes. -/
def ofNode? (slots : Slots) (node : Node) : Option Project := do
  let fields ← Decode.fields? slots ["build", "crd", "compatibility", "output"] true node
  let build ← Decode.field fields "build" (BuildOptions.ofNode? slots) {}
  let crd ← Decode.field fields "crd" (CrdOptions.ofNode? slots) {}
  let compatibility ← Decode.field fields "compatibility" policyOfNode? .safe
  let (crdOutput?, jsonSchemaOutput?) ←
    Decode.field fields "output" (outputsOfNode? slots) (none, none)
  return { build, crd, compatibility, crdOutput?, jsonSchemaOutput? }

/-- The project that a text describes; blanks describe the standard one. -/
def parse? (text : String) : Option Project :=
  if Text.allBlank text then some {} else Decode.document? ofNode? text

/-- Where the definition of this name is written. -/
def crdPath (project : Project) (chart name : String) : String :=
  match project.crdOutput? with
  | some path => Path.join chart path
  | none => Path.join (Path.join chart "crds") (name ++ ".yaml")

/-- Where the JSON Schema is written. -/
def jsonSchemaPath (project : Project) (chart : String) : String :=
  Path.join chart (project.jsonSchemaOutput?.getD "values.schema.json")

/-- The project of a chart: the standard one if there is no project file. -/
def load {m : Type → Type} [Monad m] [Host m] (chart : String) : Command m Project := do
  let path := Path.join chart fileName
  if ← Command.present path then
    match parse? (← Command.read path) with
    | some project => return project
    | none => throw .project
  else return {}

end Project
end ChartSchema
