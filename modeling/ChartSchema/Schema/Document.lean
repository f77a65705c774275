import ChartSchema.Schema.Basic
import ChartSchema.Schema.Comment
import ChartSchema.Schema.Name
import ChartSchema.Schema.SourceMap
import ChartSchema.Yaml.Value
/-!
# Values documents

What the inference of a schema needs to know about a document: the type that a scalar shows, the
text of a key, the place of a node, and the comments above it.
-/

namespace ChartSchema

/-- The type that a value shows. Numbers without a fractional part are integers, whatever their
spelling; null and collections show nothing. -/
def TypeRef.ofValue (v : Yaml.Value) : TypeRef :=
  match v.untagged with
  | .bool _ => .boolean
  | .string _ => .string
  | .number n => if n.isInteger then .integer else .float
  | _ => .unknown

/-- The text of a key: scalars have one, collections have none. -/
def keyText? (v : Yaml.Value) : Option String :=
  match v.untagged with
  | .string s => some s
  | .number n => some (n.render FloatLayout.yaml)
  | .bool b => some (if b then "true" else "false")
  | .null => some "null"
  | _ => none

/-- What kind of value this is, in words. -/
def valueKind (v : Yaml.Value) : String :=
  match v.untagged with
  | .null => "null"
  | .bool _ => "boolean"
  | .number _ => "number"
  | .string _ => "string"
  | .sequence _ => "sequence"
  | .mapping _ => "mapping"
  | .tagged .. => "tagged value"

/-- The value of the entry whose key is this text. -/
def valueOfKey? (key : String) : List (Yaml.Value × Yaml.Value) → Option Yaml.Value
  | [] => none
  | (.string k, v) :: rest => if k = key then some v else valueOfKey? key rest
  | _ :: rest => valueOfKey? key rest

/-- The top-level keys that say what the resource is and are not fields of it. -/
def reservedKeys : List String := ["apiVersion", "kind", "metadata"]

/-- The place of a node: its path in the document, and the keys that lead to it, innermost
first, the kind of the resource last. -/
structure Place where
  /-- The path in the document. -/
  segments : SourcePath
  /-- The keys on the way, without the indices of lists. -/
  keys : List String
  deriving Repr

namespace Place

/-- The root of a document for a resource of this kind. -/
def root (kind : String) : Place := ⟨[], [kind]⟩

/-- The place of a key's value. -/
def key (place : Place) (key : String) : Place :=
  ⟨place.segments ++ [.key key], key :: place.keys⟩

/-- The place of a list's item. -/
def index (place : Place) (position : Nat) : Place :=
  { place with segments := place.segments ++ [.index position] }

/-- The keys joined by points. -/
def dotted (place : Place) : String :=
  Text.joinWith "." place.keys.reverse

/-- The key above the last one; the kind above the keys of the root. -/
def parentKey (place : Place) : String :=
  match place.keys with
  | _ :: parent :: _ => parent
  | [only] => only
  | [] => ""

end Place

/-- A document's places with the options of reading it. -/
structure DocumentContext where
  /-- The options. -/
  options : BuildOptions
  /-- The places of the keys. -/
  sources : SourceMap

namespace DocumentContext

/-- The comments above the key at a place. -/
def comments (ctx : DocumentContext) (place : Place) : CommentBlock :=
  CommentBlock.ofLines ctx.options.markerTool (ctx.sources.comments place.segments)

/-- Whether a hint stands above the key at a place. -/
def hasHint (ctx : DocumentContext) (place : Place) : Bool :=
  (CommentBlock.firstHint? ctx.options.markerTool (ctx.sources.comments place.segments)).isSome

end DocumentContext

/-- Whether a value is a mapping, tags aside. -/
def isMapping (v : Yaml.Value) : Bool :=
  match v.untagged with
  | .mapping _ => true
  | _ => false

/-- Whether the first item of a list is a mapping. -/
def startsWithMapping : List Yaml.Value → Bool
  | [] => false
  | first :: _ => isMapping first

end ChartSchema
