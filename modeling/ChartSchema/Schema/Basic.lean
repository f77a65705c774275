import ChartSchema.Schema.ApiVersion
import ChartSchema.Schema.FieldType
/-!
# Schemas of values documents

A schema is a list of structs. The first one is the resource itself and has the name of its
kind; every other struct describes the mapping, or the mappings in the list, below some key, and
is referred to by name from the field of that key.
-/

namespace ChartSchema

/-- A member of a struct. -/
structure Field where
  /-- The key as an identifier. -/
  name : String
  /-- The key of the document. -/
  sourceKey : String
  /-- The type of the key's value. -/
  type : FieldType
  /-- The lines that describe the field. -/
  documentation : List String := []
  /-- The rules for the field's values. -/
  markers : List String := []
  /-- The keys that lead to the field, the kind first, joined by points. -/
  sourcePath : String
  /-- The line of the key, where it was found. -/
  sourceLine? : Option Nat := none
  deriving Repr, DecidableEq

/-- A named group of fields. -/
structure Struct where
  /-- The name by which fields refer to the struct. -/
  name : String
  /-- The lines that describe it. -/
  documentation : List String := []
  /-- Its fields, in the order of their keys. -/
  fields : List Field
  deriving Repr, DecidableEq

/-- The schema of a values document. -/
structure Schema where
  /-- The API group and version that the document names. -/
  apiVersion : GroupVersion
  /-- The kind of the resource. -/
  kind : String
  /-- The structs, each followed by those its fields refer to. -/
  structs : List Struct
  deriving Repr, DecidableEq

namespace Schema

/-- The first struct with this name. -/
def struct? (schema : Schema) (name : String) : Option Struct :=
  schema.structs.find? (·.name == name)

/-- The struct of the resource. -/
def root? (schema : Schema) : Option Struct :=
  schema.struct? schema.kind

/-- Every field, with the struct that holds it. -/
def fields (schema : Schema) : List (Struct × Field) :=
  schema.structs.flatMap fun s => s.fields.map (s, ·)

end Schema
end ChartSchema
