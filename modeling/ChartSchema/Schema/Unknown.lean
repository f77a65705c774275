import ChartSchema.Schema.Basic
/-!
# Fields without a type

A schema can be turned into a resource definition only if every field has a type. A field lacks
one if its value says nothing, or, for a list, if its first item does not. The report names all
such fields, and in the text of the document it labels the line of each.
-/

namespace ChartSchema

/-- The part of a field that lacks a type. -/
inductive UnknownPosition where
  /-- The field itself. -/
  | field
  /-- The elements of a list. -/
  | listElement
  deriving Repr, DecidableEq

/-- A field that lacks a type. -/
structure UnknownField where
  /-- The name of the struct that holds the field. -/
  structName : String
  /-- The identifier of the field. -/
  fieldName : String
  /-- The key of the field. -/
  sourceKey : String
  /-- The keys that lead to the field. -/
  path : String
  /-- The line of the key, where it was found. -/
  line? : Option Nat
  /-- What lacks a type. -/
  position : UnknownPosition
  deriving Repr, DecidableEq

/-- The part of a type that is not known. -/
def FieldType.unknownPosition? : FieldType → Option UnknownPosition
  | .single .unknown => some .field
  | .list .unknown => some .listElement
  | _ => none

/-- What a field lacks, if it lacks a type. -/
def UnknownField.of? (owner : Struct) (field : Field) : Option UnknownField :=
  field.type.unknownPosition?.map fun position =>
    { structName := owner.name, fieldName := field.name, sourceKey := field.sourceKey,
      path := field.sourcePath, line? := field.sourceLine?, position }

/-- The fields of a schema that lack a type. -/
def Schema.unknownFields (schema : Schema) : List UnknownField :=
  schema.fields.filterMap fun (owner, field) => UnknownField.of? owner field

/-- A part of a text: where it starts and how long it is, in bytes, with a remark. -/
structure Label where
  /-- The bytes before the part. -/
  offset : Nat
  /-- The bytes of the part. -/
  length : Nat
  /-- The remark. -/
  text : String
  deriving Repr, DecidableEq

/-- The part of a text that its line with this number is, without the blanks around it: the
offset and the length in bytes. `offset` is that of the first of `lines`. -/
def lineSpan? (offset : Nat) : (number : Nat) → (lines : List (List Char)) → Option (Nat × Nat)
  | _, [] => none
  | 0, _ => none
  | 1, line :: _ =>
    let content := Text.trimStart line
    let indent := Text.byteLength line - Text.byteLength content
    some (offset + indent, Text.byteLength (Text.trimEnd content))
  | number + 1, line :: rest => lineSpan? (offset + Text.byteLength line + 1) number rest

/-- The label of a field that lacks a type, if its line is known. -/
def UnknownField.label? (text : String) (field : UnknownField) : Option Label := do
  let line ← field.line?
  let (offset, length) ← lineSpan? 0 line (Text.splitOn (· == '\n') text.toList)
  let what := match field.position with
    | .field => "type of '"
    | .listElement => "element type of '"
  return ⟨offset, length, what ++ field.sourceKey ++ "' is unknown"⟩

/-- The fields of a schema that lack a type, with what a message about them needs. -/
structure UnknownReport where
  /-- The fields. -/
  fields : List UnknownField
  /-- The tool name that hints use. -/
  tool : String
  /-- The labels in the text of the document, if it is known. -/
  labels : List Label := []
  deriving Repr, DecidableEq

/-- The report with labels in the text of the document. -/
def UnknownReport.withText (report : UnknownReport) (text : String) : UnknownReport :=
  { report with labels := report.fields.filterMap (·.label? text) }

end ChartSchema
