import ChartSchema.Json.Basic
/-!
# Dialects of JSON Schema

A document says in `$schema` which dialect it is written in. The dialects differ in the keywords
they have and in what they say with them; where a keyword leads to other schemas, `Dialect.lead`
says how its value holds them.

Other schemas may refer to a schema inside a document, and a schema may have a name of its own.
`Dialect.holds` says under which keywords such schemas stand.
-/

namespace ChartSchema.JsonSchema

/-- The dialects of JSON Schema, older ones first. -/
inductive Dialect where
  /-- Draft 4. -/
  | draft4
  /-- Draft 6. -/
  | draft6
  /-- Draft 7. -/
  | draft7
  /-- Draft 2019-09. -/
  | draft2019
  /-- Draft 2020-12, which counts where a document names no dialect. -/
  | draft2020
  deriving Repr, DecidableEq

/-- How the value of a keyword holds schemas. -/
inductive Lead where
  /-- It holds none. -/
  | nothing
  /-- It is one. -/
  | schema
  /-- It is a list of them. -/
  | list
  /-- It is one or a list of them. -/
  | schemaOrList
  /-- It is an object of them. -/
  | named
  deriving Repr, DecidableEq

namespace Dialect

/-- The place of a dialect among them. -/
def order : Dialect → Nat
  | .draft4 => 0
  | .draft6 => 1
  | .draft7 => 2
  | .draft2019 => 3
  | .draft2020 => 4

/-- Whether a dialect is at least as young as another one. -/
def isSince (dialect first : Dialect) : Bool := first.order ≤ dialect.order

/-- The dialect of a name, which may end in number signs. -/
def ofName? (name : String) : Option Dialect :=
  match String.ofList (name.toList.reverse.dropWhile (· == '#')).reverse with
  | "http://json-schema.org/draft-04/schema" => some .draft4
  | "http://json-schema.org/draft-06/schema" => some .draft6
  | "http://json-schema.org/draft-07/schema" => some .draft7
  | "https://json-schema.org/draft/2019-09/schema" => some .draft2019
  | "https://json-schema.org/draft/2020-12/schema" => some .draft2020
  | _ => none

/-- The dialect of a schema that stands among schemas of a dialect: the one it names, if it names
one; there is none if that is not known. -/
def detect? (around : Dialect) (members : List (String × Json)) : Option Dialect :=
  match findKey? "$schema" members with
  | some (.string name) => ofName? name
  | _ => some around

/-- The dialect of a document; there is none if it names one that is not known. -/
def ofSchema? (schema : Json) : Option Dialect :=
  match schema with
  | .object members => detect? .draft2020 members
  | _ => some .draft2020

/-- How the value of a keyword holds the schemas that the keyword goes on to. -/
def lead (dialect : Dialect) (key : String) : Lead :=
  match key with
  | "not" | "additionalItems" | "additionalProperties" => .schema
  | "allOf" | "anyOf" | "oneOf" => .list
  | "properties" | "patternProperties" | "dependencies" => .named
  | "items" => if dialect = .draft2020 then .schema else .schemaOrList
  | "contains" | "propertyNames" => if dialect.isSince .draft6 then .schema else .nothing
  | "if" | "then" | "else" => if dialect.isSince .draft7 then .schema else .nothing
  | "unevaluatedItems" | "unevaluatedProperties" =>
    if dialect.isSince .draft2019 then .schema else .nothing
  | "dependentSchemas" => if dialect.isSince .draft2019 then .named else .nothing
  | "prefixItems" => if dialect = .draft2020 then .list else .nothing
  | _ => .nothing

/-- How the value of a keyword holds schemas that may have names. -/
def holds (dialect : Dialect) (key : String) : Lead :=
  match key with
  | "definitions" => .named
  | "$defs" => if dialect.isSince .draft2019 then .named else .nothing
  | "contentSchema" => if dialect.isSince .draft2019 then .schema else .nothing
  | "additionalItems" => if dialect = .draft2020 then .nothing else .schema
  | "dependencies" => if dialect.isSince .draft2019 then .nothing else .named
  | key => dialect.lead key

/-- Whether a keyword counts for nothing because of the ones beside it: in older dialects a
schema that refers to another one says nothing else. -/
def isHidden (dialect : Dialect) (members : List (String × Json)) (key : String) : Bool :=
  !dialect.isSince .draft2019 && key != "$ref" && hasKey "$ref" members

end Dialect
end ChartSchema.JsonSchema
