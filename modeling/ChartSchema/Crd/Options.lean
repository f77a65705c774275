import ChartSchema.Text.Case
import ChartSchema.Text.Basic
import ChartSchema.Yaml.Decode
/-!
# Options of resource definitions

What a project may choose about the custom resource definition of its chart: its group and
version where the values document has none, its names and scope, and whether the JSON Schema
made from it admits members that it does not know.
-/

namespace ChartSchema

/-- Whether the resources live in namespaces or in the cluster as a whole. -/
inductive Scope where
  /-- Each resource lives in a namespace. -/
  | namespaced
  /-- A resource belongs to the cluster. -/
  | cluster
  deriving Repr, DecidableEq, Inhabited

namespace Scope

/-- The name of a scope. -/
def name : Scope → String
  | .namespaced => "Namespaced"
  | .cluster => "Cluster"

/-- The scope of a name, letters in either case. -/
def parse? (text : String) : Option Scope :=
  let lower := Text.asciiLower text
  if lower = "namespaced" then some .namespaced
  else if lower = "cluster" then some .cluster
  else none

/-- The message about a text that names no scope. -/
def unknownMessage (text : String) : String :=
  "unknown scope '" ++ Text.asciiLower text ++ "', expected Namespaced or Cluster"

end Scope

/-- Options of resource definitions. -/
structure CrdOptions where
  /-- The group where the document names none. -/
  group? : Option String := none
  /-- The version where the document names none. -/
  version? : Option String := none
  /-- The plural name of the resource, if it is not made from its kind. -/
  plural? : Option String := none
  /-- The singular name of the resource, if it is not made from its kind. -/
  singular? : Option String := none
  /-- Where the resources live. -/
  scope : Scope := .namespaced
  /-- Abbreviations of the name. -/
  shortNames : List String := []
  /-- Groups of resources that this one is listed with. -/
  categories : List String := []
  /-- Whether objects with declared members are closed in the JSON Schema. -/
  strictJsonSchema : Bool := true
  deriving Repr, DecidableEq

namespace CrdOptions

open Yaml

/-- The scope that a node names, by its exact name. -/
def scopeOfNode? (node : Node) : Option Scope := do
  let name ← Decode.choice? node
  if name = "Namespaced" then some .namespaced
  else if name = "Cluster" then some .cluster
  else none

/-- The options that a YAML node writes; what it leaves out has its default. -/
def ofNode? (slots : Slots) (node : Node) : Option CrdOptions := do
  let fields ← Decode.fields? slots ["group", "version", "plural", "singular", "scope",
    "shortNames", "categories", "strictJsonSchema"] false node
  let text (key : String) := Decode.field fields key (Decode.nullable? Decode.text?) none
  let texts (key : String) := Decode.field fields key (Decode.list? slots Decode.text?) []
  return {
    group? := ← text "group"
    version? := ← text "version"
    plural? := ← text "plural"
    singular? := ← text "singular"
    scope := ← Decode.field fields "scope" scopeOfNode? .namespaced
    shortNames := ← texts "shortNames"
    categories := ← texts "categories"
    strictJsonSchema := ← Decode.field fields "strictJsonSchema" Decode.bool? true }

/-- The options that a YAML text writes. -/
def parse? (text : String) : Option CrdOptions := Decode.document? ofNode? text

end CrdOptions

/-- The plural of a lower-case noun: `-es` after a hissing sound, `-ies` for a `y` after a
consonant, `-s` otherwise. -/
def pluralize (singular : String) : String :=
  let s := singular.toList
  let hissing := [['s'], ['x'], ['z'], ['c', 'h'], ['s', 'h']].any (Text.endsWith · s)
  if hissing then singular ++ "es"
  else
    match s.reverse with
    | 'y' :: before :: rest =>
      if ['a', 'e', 'i', 'o', 'u'].contains before then singular ++ "s"
      else String.ofList (before :: rest).reverse ++ "ies"
    | _ => singular ++ "s"

end ChartSchema
