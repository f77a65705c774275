import ChartSchema.Yaml.Decode
/-!
# Options of schema inference

What a project may choose about the way its values document is read: the tool name in hints,
and how structs are named.
-/

namespace ChartSchema

/-- Options of schema inference. -/
structure BuildOptions where
  /-- The tool name in a hint, `+<tool>:type:<type>`. -/
  markerTool : String := "miaka"
  /-- What a struct name ends with. -/
  structSuffix : String := "Spec"
  /-- Endings that a struct name may have instead. -/
  knownSuffixes : List String :=
    ["Spec", "Config", "Configuration", "Settings", "Options", "Parameters"]
  deriving Repr, DecidableEq

namespace BuildOptions

open Yaml

/-- The options that a YAML node writes; what it leaves out has its default. -/
def ofNode? (slots : Slots) (node : Node) : Option BuildOptions := do
  let fields ← Decode.fields? slots ["markerTool", "structSuffix", "knownSuffixes"] false node
  let standard : BuildOptions := {}
  let markerTool ← Decode.field fields "markerTool" Decode.text? standard.markerTool
  let structSuffix ← Decode.field fields "structSuffix" Decode.text? standard.structSuffix
  let knownSuffixes ←
    Decode.field fields "knownSuffixes" (Decode.list? slots Decode.text?) standard.knownSuffixes
  return { markerTool, structSuffix, knownSuffixes }

/-- The options that a YAML text writes. -/
def parse? (text : String) : Option BuildOptions := Decode.document? ofNode? text

end BuildOptions
end ChartSchema
