import ChartSchema.Schema.Census
import ChartSchema.Schema.Error
/-!
# Inferring a schema

The walk over a document that builds its schema. Every mapping becomes a struct, and a field of
its own key refers to it. The mappings in a list become one struct together: it has the keys of
all of them, in the order of their first occurrence, and each key is read where it occurs first.
A later occurrence may document a key that had no comment so far; two different comments are a
conflict.

A struct is followed by the structs of its fields, so the structs of a schema stand in the order
in which the walk enters them. Names come from a `NameRegistry` that the walk carries along.
-/

namespace ChartSchema

open Yaml (Value)

/-- A step of the walk: it takes names from the registry and may fail. -/
abbrev Walk := StateT NameRegistry (Except SchemaError)

/-- A field whose keys in several items of a list are one. -/
structure MergedField where
  /-- The field. -/
  field : Field
  /-- The comment lines that document it. -/
  comments : List String

/-- The fields of a merged struct so far, with the structs they refer to. -/
structure Merged where
  /-- The fields, in the order of their first occurrence. -/
  fields : List MergedField := []
  /-- The structs. -/
  structs : List Struct := []

namespace Merged

/-- The field of a key. -/
def find? (merged : Merged) (key : String) : Option MergedField :=
  merged.fields.find? (·.field.sourceKey == key)

/-- The fields with the one of a key replaced. -/
def replace (merged : Merged) (key : String) (new : MergedField) : Merged :=
  { merged with
    fields := merged.fields.map fun m => if m.field.sourceKey == key then new else m }

/-- Another occurrence of a key that has a field: its comments document the field if nothing
did so far, and otherwise may not differ. -/
def document (merged : Merged) (existing : MergedField) (key : String) (place : Place)
    (block : CommentBlock) (line? : Option Nat) : Except SchemaError Merged :=
  if block.isEmpty then .ok merged
  else if existing.comments.isEmpty then
    .ok (merged.replace key
      { field := { existing.field with
          documentation := block.documentation, markers := block.markers }
        comments := block.lines })
  else if existing.comments ≠ block.lines then
    .error (.commentConflict
      { field := key, path := place.dotted, first := existing.comments, second := block.lines,
        line? })
  else .ok merged

end Merged

namespace Walk

/-- A name for the struct of a key. -/
def takeName (ctx : DocumentContext) (key : String) (place : Place) : Walk String :=
  fun registry => .ok (registry.uniqueName ctx.options key place.parentKey)

/-- The text of a key, which has to be a scalar. -/
def key (place : Place) (v : Value) : Except SchemaError String :=
  match keyText? v with
  | some key => .ok key
  | none => .error (.invalidKey place.dotted)

/-- The field of a key. -/
def fieldOf (ctx : DocumentContext) (key : String) (place : Place) (type : FieldType) : Field :=
  let block := ctx.comments place
  { name := identifier key, sourceKey := key, type, documentation := block.documentation,
    markers := block.markers, sourcePath := place.dotted,
    sourceLine? := ctx.sources.line? place.segments }

/-- The type of a scalar: the hint above it, or what it shows. -/
def scalarType (hint? : Option String) (v : Value) : FieldType :=
  match hint? with
  | some hint => .ofHint hint.toList
  | none => .single (.ofValue v)

/-- The type of a list whose first item is no mapping: what the first item shows, or else the
hint above the list. -/
def listType (hint? : Option String) (items : List Value) : FieldType :=
  let element : TypeRef :=
    match items with
    | [] => .unknown
    | first :: _ => .ofValue first
  match hint? with
  | some hint => if element.isUnknown then .ofSequenceHint hint.toList else .list element
  | none => .list element

mutual

/-- The type of a key's value, and the structs it refers to. -/
def resolve (ctx : DocumentContext) (key : String) (place : Place) (v : Value) :
    Walk (FieldType × List Struct) :=
  match v with
  | .tagged _ inner => resolve ctx key place inner
  | .mapping entries =>
    match entries.isEmpty, (ctx.comments place).typeHint with
    | true, some hint => return (.ofHint hint.toList, [])
    | _, _ => do
      let name ← takeName ctx key place
      let (fields, nested) ← resolveEntries ctx place entries
      let own : Struct :=
        { name, documentation := (ctx.comments place).documentation, fields }
      return (.single (.struct name), own :: nested)
  | .sequence items =>
    if startsWithMapping items then do
      let name ← takeName ctx key place
      let merged ← resolveItems ctx place 0 {} items
      let own : Struct :=
        { name, documentation := (ctx.comments place).documentation
          fields := merged.fields.map (·.field) }
      return (.list (.struct name), own :: merged.structs)
    else return (listType (ctx.comments place).typeHint items, [])
  | scalar => return (scalarType (ctx.comments place).typeHint scalar, [])
termination_by structural v

/-- The fields of a mapping's entries, and the structs they refer to. -/
def resolveEntries (ctx : DocumentContext) (place : Place) (entries : List (Value × Value)) :
    Walk (List Field × List Struct) :=
  match entries with
  | [] => return ([], [])
  | (k, v) :: rest => do
    let key ← Walk.key place k
    let (type, structs) ← resolve ctx key (place.key key) v
    let (fields, others) ← resolveEntries ctx place rest
    return (fieldOf ctx key (place.key key) type :: fields, structs ++ others)
termination_by structural entries

/-- The fields of a list's items merged into those so far. -/
def resolveItems (ctx : DocumentContext) (place : Place) (position : Nat) (merged : Merged)
    (items : List Value) : Walk Merged :=
  match items with
  | [] => return merged
  | item :: rest => do
    let merged ← resolveItem ctx (place.index position) merged item
    resolveItems ctx place (position + 1) merged rest
termination_by structural items

/-- The fields of an item merged into those so far; an item that is no mapping has none. -/
def resolveItem (ctx : DocumentContext) (place : Place) (merged : Merged) (item : Value) :
    Walk Merged :=
  match item with
  | .tagged _ inner => resolveItem ctx place merged inner
  | .mapping entries => mergeEntries ctx place merged entries
  | _ => return merged
termination_by structural item

/-- The fields of a mapping's entries merged into those so far. -/
def mergeEntries (ctx : DocumentContext) (place : Place) (merged : Merged)
    (entries : List (Value × Value)) : Walk Merged :=
  match entries with
  | [] => return merged
  | (k, v) :: rest => do
    let key ← Walk.key place k
    let child := place.key key
    match merged.find? key with
    | some existing =>
      let line? := ctx.sources.line? child.segments
      let merged ← merged.document existing key child (ctx.comments child) line?
      mergeEntries ctx place merged rest
    | none =>
      let (type, structs) ← resolve ctx key child v
      let new : MergedField :=
        { field := fieldOf ctx key child type, comments := (ctx.comments child).lines }
      mergeEntries ctx place
        { fields := merged.fields ++ [new], structs := merged.structs ++ structs } rest
termination_by structural entries

end

/-- The fields of the resource, and the structs they refer to. -/
def resolveRoot (ctx : DocumentContext) (place : Place) (entries : List (Value × Value)) :
    Walk (List Field × List Struct) :=
  match entries with
  | [] => return ([], [])
  | (k, v) :: rest => do
    let key ← Walk.key place k
    if reservedKeys.contains key then resolveRoot ctx place rest
    else
      let (type, structs) ← resolve ctx key (place.key key) v
      let (fields, others) ← resolveRoot ctx place rest
      return (fieldOf ctx key (place.key key) type :: fields, structs ++ others)

end Walk

namespace Schema

/-- The API group and version of a document. -/
def apiVersionOf (root : List (Value × Value)) : Except SchemaError GroupVersion :=
  match (valueOfKey? "apiVersion" root).map Value.untagged with
  | none | some .null => .ok {}
  | some (.string s) =>
    match GroupVersion.parse? s with
    | some gv => .ok gv
    | none => .error (.invalidApiVersion s .shape)
  | some other =>
    .error (.invalidApiVersion ((keyText? other).getD (valueKind other)) .notString)

/-- The kind of the resource that a document describes, without the blanks around it. -/
def kindOf (root : List (Value × Value)) : Except SchemaError String :=
  match (valueOfKey? "kind" root).map Value.untagged with
  | some (.string s) => if Text.allBlank s then .error .missingKind else .ok (Text.trimmed s)
  | _ => .error .missingKind

/-- The schema of a document. -/
def ofValue (ctx : DocumentContext) (v : Value) : Except SchemaError Schema :=
  match v.untagged with
  | .mapping root => do
    let apiVersion ← apiVersionOf root
    let kind ← kindOf root
    let place := Place.root kind
    let registry := NameRegistry.ofShared (Census.shared (Census.ofRoot ctx place root))
    let ((fields, nested), _) ←
      (Walk.resolveRoot ctx place root).run (registry.reserve kind).2
    let own : Struct :=
      { name := kind, documentation := (ctx.comments (place.key "kind")).documentation, fields }
    return { apiVersion, kind, structs := own :: nested }
  | _ => .error (.rootNotMapping (valueKind v))

/-- The schema of a text, where fields may lack a type. -/
def ofText (options : BuildOptions) (text : String) : Except SchemaError Schema :=
  match Yaml.Value.parse? text with
  | some v => ofValue ⟨options, SourceMap.scan text⟩ v
  | none => .error .yaml

/-- The report about the fields of a schema that lack a type, if there are any. -/
def unknownReport? (schema : Schema) (tool : String) : Option UnknownReport :=
  match schema.unknownFields with
  | [] => none
  | fields => some { fields, tool }

/-- The schema of a text, all of whose fields have a type. -/
def infer (options : BuildOptions) (text : String) : Except SchemaError Schema := do
  let schema ← ofText options text
  match schema.unknownReport? options.markerTool with
  | none => return schema
  | some report => .error (.unknownTypes (report.withText text))

end Schema
end ChartSchema
