import ChartSchema.JsonSchema.Form
/-!
# Schemas of the dialects

Every dialect has a schema that describes its own schemas, which a document may refer to by its
name. The younger dialects put it together from one schema for each group of keywords; these
refer to the whole by the dynamic name `meta`, or to the outermost resource around them.
-/

namespace ChartSchema.JsonSchema.Standard

/-! ## Words -/

/-- A schema with these keywords. -/
def schema (members : List (String × Json)) : Json := .object (sortKeys members)

/-- The schema of a type. -/
def ofType (type : String) : Json := schema [("type", .string type)]

/-- A reference. -/
def ref (reference : String) : Json := schema [("$ref", .string reference)]

/-- Texts. -/
def text : Json := ofType "string"

/-- Texts of a format. -/
def textOf (format : String) : Json :=
  schema [("type", .string "string"), ("format", .string format)]

/-- Truth values. -/
def flag : Json := ofType "boolean"

/-- Numbers. -/
def number : Json := ofType "number"

/-- Objects whose members are described by one schema. -/
def mapOf (value : Json) : Json :=
  schema [("type", .string "object"), ("additionalProperties", value)]

/-- Values that one of two schemas describes. -/
def either (a b : Json) : Json := schema [("anyOf", .array [a, b])]

/-- Lists that are not empty and whose items are described by one schema. -/
def someOf (item : Json) : Json :=
  schema [("type", .string "array"), ("minItems", .int 1), ("items", item)]

/-- Keywords that have one form. -/
def each (keys : List String) (form : Json) : List (String × Json) := keys.map (·, form)

/-- The names of the types. -/
def simpleTypes : Json := schema [("enum", .strings Form.typeNames)]

/-- Counts. -/
def count : Json := schema [("type", .string "integer"), ("minimum", .int 0)]

/-- Lists of different texts. -/
def names : List (String × Json) :=
  [("type", .string "array"), ("items", text), ("uniqueItems", .bool true)]

/-- A type, or a list of different types, where `place` says where a definition stands. -/
def types (place : String → String) : Json :=
  schema [("anyOf", .array [ref (place "simpleTypes"),
    schema [("type", .string "array"), ("items", ref (place "simpleTypes")), ("minItems", .int 1),
      ("uniqueItems", .bool true)]])]

/-- The keywords with a lower bound of zero, where `place` says where a definition stands. -/
def counts (place : String → String) (name nameOrZero : String) : List (String × Json) :=
  each ["maxLength", "maxItems", "maxProperties"] (ref (place name)) ++
    each ["minLength", "minItems", "minProperties"] (ref (place nameOrZero))

/-! ## The older dialects -/

/-- Where the definitions of the older dialects stand. -/
def inDefinitions (name : String) : String := "#/definitions/" ++ name

/-- The schema itself. -/
def here : Json := ref "#"

/-- The keywords that the older dialects share. -/
def olderKeywords : List (String × Json) :=
  each ["title", "description", "format"] text ++
  each ["maximum", "minimum"] number ++
  each ["definitions", "properties"] (mapOf here) ++
  each ["allOf", "anyOf", "oneOf"] (ref (inDefinitions "schemaArray")) ++
  [("pattern", textOf "regex"), ("items", either here (ref (inDefinitions "schemaArray"))),
    ("uniqueItems", flag), ("required", ref (inDefinitions "stringArray")),
    ("dependencies", mapOf (either here (ref (inDefinitions "stringArray")))),
    ("type", types inDefinitions), ("not", here)]

/-- The schema of draft 4. -/
def draft4 : Json :=
  schema [("id", .string "http://json-schema.org/draft-04/schema#"),
    ("$schema", .string "http://json-schema.org/draft-04/schema#"),
    ("definitions", schema [("schemaArray", someOf here), ("positiveInteger", count),
      ("positiveIntegerDefault0", schema [("allOf", .array
        [ref (inDefinitions "positiveInteger"), schema [("default", .int 0)]])]),
      ("simpleTypes", simpleTypes), ("stringArray", schema (names ++ [("minItems", .int 1)]))]),
    ("type", .string "object"),
    ("properties", schema (olderKeywords ++
      counts inDefinitions "positiveInteger" "positiveIntegerDefault0" ++
      each ["id", "$schema"] text ++
      each ["exclusiveMaximum", "exclusiveMinimum"] flag ++
      each ["additionalItems", "additionalProperties"] (either flag here) ++
      [("default", schema []), ("patternProperties", mapOf here),
        ("multipleOf", schema [("type", .string "number"), ("minimum", .int 0),
          ("exclusiveMinimum", .bool true)]),
        ("enum", schema [("type", .string "array"), ("minItems", .int 1),
          ("uniqueItems", .bool true)])])),
    ("dependencies", schema [("exclusiveMaximum", .strings ["maximum"]),
      ("exclusiveMinimum", .strings ["minimum"])])]

/-- Numbers above zero. -/
def divisor : Json := schema [("type", .string "number"), ("exclusiveMinimum", .int 0)]

/-- The schema of a dialect that has truth values among its schemas, with keywords of its own. -/
def olderSchema (name : String) (keywords : List (String × Json)) : Json :=
  schema [("$id", .string name), ("$schema", .string name),
    ("definitions", schema [("schemaArray", someOf here), ("nonNegativeInteger", count),
      ("nonNegativeIntegerDefault0", schema [("allOf", .array
        [ref (inDefinitions "nonNegativeInteger"), schema [("default", .int 0)]])]),
      ("simpleTypes", simpleTypes), ("stringArray", schema names)]),
    ("type", .strings ["object", "boolean"]),
    ("properties", schema (olderKeywords ++
      counts inDefinitions "nonNegativeInteger" "nonNegativeIntegerDefault0" ++
      each ["$id", "$ref"] (textOf "uri-reference") ++
      each ["exclusiveMaximum", "exclusiveMinimum"] number ++
      each ["additionalItems", "additionalProperties", "contains", "propertyNames"] here ++
      [("$schema", textOf "uri"), ("multipleOf", divisor)] ++ keywords))]

/-- The schema of draft 6. -/
def draft6 : Json :=
  olderSchema "http://json-schema.org/draft-06/schema#"
    [("default", schema []), ("const", schema []), ("examples", ofType "array"),
      ("patternProperties", mapOf here),
      ("enum", schema [("type", .string "array"), ("minItems", .int 1),
        ("uniqueItems", .bool true)])]

/-- The schema of draft 7. -/
def draft7 : Json :=
  olderSchema "http://json-schema.org/draft-07/schema#"
    (each ["default", "const"] (.bool true) ++
      each ["enum", "examples"] (schema [("type", .string "array"), ("items", .bool true)]) ++
      each ["readOnly", "writeOnly"] flag ++
      each ["$comment", "contentMediaType", "contentEncoding"] text ++
      each ["if", "then", "else"] here ++
      [("patternProperties", schema [("type", .string "object"), ("additionalProperties", here),
        ("propertyNames", schema [("format", .string "regex")])])])

/-! ## The younger dialects -/

/-- Where the definitions of the younger dialects stand. -/
def inDefs (name : String) : String := "#/$defs/" ++ name

/-- One of the two younger dialects. -/
structure Edition where
  /-- What the names of its schemas start with. -/
  base : String
  /-- The keywords by which a schema of a group lets itself be extended. -/
  extensible : List (String × Json)
  /-- A reference to the schemas of the dialect. -/
  whole : Json

/-- Draft 2019-09. -/
def edition2019 : Edition :=
  { base := "https://json-schema.org/draft/2019-09/"
    extensible := [("$recursiveAnchor", .bool true)]
    whole := schema [("$recursiveRef", .string "#")] }

/-- Draft 2020-12. -/
def edition2020 : Edition :=
  { base := "https://json-schema.org/draft/2020-12/"
    extensible := [("$dynamicAnchor", .string "meta")]
    whole := schema [("$dynamicRef", .string "#meta")] }

/-- A schema of a dialect: its name, its keywords and its definitions. -/
def Edition.resource (edition : Edition) (name : String) (keywords : List (String × Json))
    (more : List (String × Json)) : Json :=
  schema ([("$id", .string (edition.base ++ name)),
    ("$schema", .string (edition.base ++ "schema")),
    ("type", .strings ["object", "boolean"]), ("properties", schema keywords)] ++
    edition.extensible ++ more)

/-- The schema of a dialect: the groups of its keywords, and those that it has for the sake of
older documents. -/
def Edition.root (edition : Edition) (groups : List String) (old : List (String × Json)) : Json :=
  edition.resource "schema"
    ([("definitions", mapOf edition.whole),
      ("dependencies", mapOf (either edition.whole (ref "meta/validation#/$defs/stringArray")))] ++
      old)
    [("allOf", .array (groups.map fun group => ref ("meta/" ++ group)))]

/-- The form of a name of a resource. -/
def resourceName (form : List (String × Json)) : Json :=
  schema (form ++ [("pattern", .string "^[^#]*#?$")])

/-- The group of keywords that say where a schema stands in draft 2019-09. -/
def core2019 : Json :=
  edition2019.resource "meta/core"
    (each ["$ref", "$recursiveRef"] (textOf "uri-reference") ++
      [("$id", resourceName [("type", .string "string"), ("format", .string "uri-reference")]),
        ("$schema", textOf "uri"), ("$comment", text), ("$recursiveAnchor", flag),
        ("$anchor", schema [("type", .string "string"),
          ("pattern", .string "^[A-Za-z][-A-Za-z0-9.:_]*$")]),
        ("$vocabulary", schema [("type", .string "object"), ("propertyNames", textOf "uri"),
          ("additionalProperties", flag)]),
        ("$defs", mapOf edition2019.whole)]) []

/-- The group of keywords that say where a schema stands in draft 2020-12. -/
def core2020 : Json :=
  edition2020.resource "meta/core"
    (each ["$ref", "$dynamicRef"] (ref (inDefs "uriReferenceString")) ++
      each ["$anchor", "$dynamicAnchor"] (ref (inDefs "anchorString")) ++
      [("$id", resourceName [("$ref", .string (inDefs "uriReferenceString"))]),
        ("$schema", ref (inDefs "uriString")), ("$comment", text),
        ("$vocabulary", schema [("type", .string "object"),
          ("propertyNames", ref (inDefs "uriString")), ("additionalProperties", flag)]),
        ("$defs", mapOf edition2020.whole)])
    [("$defs", schema [("uriString", textOf "uri"),
      ("uriReferenceString", textOf "uri-reference"),
      ("anchorString", schema [("type", .string "string"),
        ("pattern", .string "^[A-Za-z_][-A-Za-z0-9._]*$")])])]

/-- The keywords that apply schemas in both dialects. -/
def Edition.applying (edition : Edition) : List (String × Json) :=
  each ["additionalProperties", "contains", "else", "if", "not", "propertyNames", "then"]
    edition.whole ++
  each ["properties", "dependentSchemas"] (mapOf edition.whole) ++
  each ["allOf", "anyOf", "oneOf"] (ref (inDefs "schemaArray")) ++
  [("patternProperties", schema [("type", .string "object"),
    ("additionalProperties", edition.whole),
    ("propertyNames", schema [("format", .string "regex")])])]

/-- The group of keywords that apply schemas in draft 2019-09. -/
def applicator2019 : Json :=
  edition2019.resource "meta/applicator"
    (edition2019.applying ++
      each ["additionalItems", "unevaluatedItems", "unevaluatedProperties"] edition2019.whole ++
      [("items", either edition2019.whole (ref (inDefs "schemaArray")))])
    [("$defs", schema [("schemaArray", someOf edition2019.whole)])]

/-- The group of keywords that apply schemas in draft 2020-12. -/
def applicator2020 : Json :=
  edition2020.resource "meta/applicator"
    (edition2020.applying ++
      [("items", edition2020.whole), ("prefixItems", ref (inDefs "schemaArray"))])
    [("$defs", schema [("schemaArray", someOf edition2020.whole)])]

/-- The group of keywords that apply schemas to what no other keyword says anything about. -/
def unevaluated2020 : Json :=
  edition2020.resource "meta/unevaluated"
    (each ["unevaluatedItems", "unevaluatedProperties"] edition2020.whole) []

/-- The group of keywords that go on to no schema. -/
def Edition.validation (edition : Edition) : Json :=
  edition.resource "meta/validation"
    (each ["maximum", "exclusiveMaximum", "minimum", "exclusiveMinimum"] number ++
      counts inDefs "nonNegativeInteger" "nonNegativeIntegerDefault0" ++
      each ["maxContains", "minContains"] (ref (inDefs "nonNegativeInteger")) ++
      [("multipleOf", divisor), ("pattern", textOf "regex"), ("uniqueItems", flag),
        ("required", ref (inDefs "stringArray")),
        ("dependentRequired", mapOf (ref (inDefs "stringArray"))), ("const", .bool true),
        ("enum", schema [("type", .string "array"), ("items", .bool true)]),
        ("type", types inDefs)])
    [("$defs", schema [("nonNegativeInteger", count),
      ("nonNegativeIntegerDefault0", schema [("$ref", .string (inDefs "nonNegativeInteger")),
        ("default", .int 0)]),
      ("simpleTypes", simpleTypes), ("stringArray", schema names)])]

/-- The groups of keywords that are remarks. -/
def Edition.remarks (edition : Edition) (format : String) : List Json :=
  [edition.resource "meta/meta-data"
    (each ["title", "description"] text ++ each ["deprecated", "readOnly", "writeOnly"] flag ++
      [("default", .bool true),
        ("examples", schema [("type", .string "array"), ("items", .bool true)])]) [],
  edition.resource ("meta/" ++ format) [("format", text)] [],
  edition.resource "meta/content"
    (each ["contentMediaType", "contentEncoding"] text ++ [("contentSchema", edition.whole)]) []]

/-- The schemas of draft 2019-09. -/
def draft2019 : List Json :=
  [edition2019.root ["core", "applicator", "validation", "meta-data", "format", "content"] [],
    core2019, applicator2019, edition2019.validation] ++ edition2019.remarks "format"

/-- The schemas of draft 2020-12. -/
def draft2020 : List Json :=
  [edition2020.root ["core", "applicator", "unevaluated", "validation", "meta-data",
      "format-annotation", "content"]
    [("$recursiveAnchor", ref "meta/core#/$defs/anchorString"),
      ("$recursiveRef", ref "meta/core#/$defs/uriReferenceString")],
    core2020, applicator2020, unevaluated2020, edition2020.validation] ++
    edition2020.remarks "format-annotation"

/-- The schemas of all dialects. -/
def all : List (Dialect × Json) :=
  [(.draft4, draft4), (.draft6, draft6), (.draft7, draft7)] ++
    draft2019.map (.draft2019, ·) ++ draft2020.map (.draft2020, ·)

end ChartSchema.JsonSchema.Standard
