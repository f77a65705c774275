import ChartSchema.JsonSchema.Dialect
import ChartSchema.Net.Uri
import ChartSchema.Regex.Parser
/-!
# What is a schema

`Dialect.isSchema` holds of the documents in which every keyword of a dialect has a value of the
right form. A keyword that the dialect does not know may have any value. The older dialects ask
that an expression is one wherever it stands, the younger ones only where it is used.
-/

namespace ChartSchema.JsonSchema

/-! ## Values that hold no schemas -/

namespace Form

/-- Whether a value is a text. -/
def isText (v : Json) : Bool := v.string?.isSome

/-- Whether a value is a text that a predicate holds of. -/
def isTextOf (ok : List Char → Bool) (v : Json) : Bool := v.string?.any fun s => ok s.toList

/-- Whether a value is a truth value. -/
def isFlag : Json → Bool
  | .bool _ => true
  | _ => false

/-- Whether a value is a number. -/
def isNumber : Json → Bool
  | .number _ => true
  | _ => false

/-- Whether a value is a list. -/
def isList : Json → Bool
  | .array _ => true
  | _ => false

/-- Whether a value is an object whose members have values that a predicate holds of. -/
def isMapOf (ok : Json → Bool) : Json → Bool
  | .object members => members.all fun member => ok member.2
  | _ => false

/-- The natural number that a value is, as an integer or as an integral float. No count is larger
than the largest word. -/
def count? : Json → Option Nat
  | .number n =>
    match n.toRat? with
    | some r => if r.den = 1 ∧ 0 ≤ r.num then some (min r.num.toNat (Nat.pow 2 64 - 1)) else none
    | none => none
  | _ => none

/-- Whether a value is a natural number that is written as an integer. -/
def isPlainCount : Json → Bool
  | .number (.int n) => 0 ≤ n
  | _ => false

/-- Whether a value is a number above zero. -/
def isDivisor : Json → Bool
  | .number n => n.toRat?.any (0 < ·)
  | _ => false

/-- The names of the types, in the order in which a message lists them. -/
def typeNames : List String :=
  ["array", "boolean", "integer", "null", "number", "object", "string"]

/-- Whether a value is the name of a type. -/
def isTypeName (v : Json) : Bool := v.string?.any typeNames.contains

/-- Whether a value is a type, or a list of different types. -/
def isTypes : Json → Bool
  | .array items => !items.isEmpty && items.all isTypeName && Json.allDistinct items
  | v => isTypeName v

/-- Whether a value is a list of different texts. -/
def isNameList : Json → Bool
  | .array items => items.all isText && Json.allDistinct items
  | _ => false

/-- Whether a value is a list of different values that is not empty. -/
def isChoice : Json → Bool
  | .array items => !items.isEmpty && Json.allDistinct items
  | _ => false

/-- Whether a text is a reference. -/
def isReference (s : List Char) : Bool := (Net.Uri.parse? .ascii s).isSome

/-- Whether a text is a reference with a scheme. -/
def isAbsolute (s : List Char) : Bool := (Net.Uri.parse? .ascii s).any (·.scheme?.isSome)

/-- Whether a text is the name of a resource: a number sign may only end it. -/
def isResourceName (s : List Char) : Bool :=
  s.all (· != '#') || s.dropWhile (· != '#') == ['#']

/-- Whether a text is the name of a place in a document. `first` and `other` hold of the marks
that it may start with and hold beside letters and digits. -/
def isPlaceName (first other : Char → Bool) : List Char → Bool
  | [] => false
  | c :: r => (c.isAlpha || first c) && r.all fun c => c.isAlphanum || other c

/-- Whether a text is an expression. -/
def isExpression (s : List Char) : Bool := (Regex.parse? (String.ofList s)).isSome

end Form

/-! ## Keywords -/

/-- The form of the value of a keyword. -/
inductive Form where
  /-- Any value. -/
  | anything
  /-- A value that a predicate holds of. -/
  | value (fits : Json → Bool)
  /-- A schema. -/
  | schema
  /-- A list of schemas that is not empty. -/
  | list
  /-- A schema, or a list of schemas that is not empty. -/
  | schemaOrList
  /-- An object of schemas. -/
  | named
  /-- An object of schemas whose keys are expressions. -/
  | patterns
  /-- An object of schemas and of lists of names. -/
  | dependencies
  /-- A schema or a truth value. -/
  | schemaOrFlag

namespace Dialect

open Form

/-- The form of a keyword that all dialects have. -/
def sharedForm (dialect : Dialect) (key : String) : Form :=
  match key with
  | "type" => .value isTypes
  | "enum" => .value (if dialect.isSince .draft7 then isList else isChoice)
  | "required" => .value (if dialect = .draft4 then fun v => isNameList v && isChoice v
      else isNameList)
  | "minimum" | "maximum" => .value isNumber
  | "exclusiveMinimum" | "exclusiveMaximum" =>
    .value (if dialect = .draft4 then isFlag else isNumber)
  | "multipleOf" => .value isDivisor
  | "minLength" | "maxLength" | "minItems" | "maxItems" | "minProperties" | "maxProperties" =>
    .value (if dialect = .draft4 then isPlainCount else fun v => (count? v).isSome)
  | "uniqueItems" => .value isFlag
  | "pattern" => .value (if dialect.isSince .draft2019 then isText else isTextOf isExpression)
  | "title" | "description" | "format" => .value isText
  | "not" => .schema
  | "allOf" | "anyOf" | "oneOf" => .list
  | "items" => if dialect = .draft2020 then .schema else .schemaOrList
  | "additionalProperties" => if dialect = .draft4 then .schemaOrFlag else .schema
  | "properties" | "definitions" => .named
  | "patternProperties" => if dialect = .draft7 then .patterns else .named
  | "dependencies" => .dependencies
  | _ => .anything

/-- The form of a keyword that draft 4 has, and not the others. -/
def oldForm : String → Form
  | "id" | "$schema" => .value isText
  | "additionalItems" => .schemaOrFlag
  | _ => .anything

/-- The form of a keyword that draft 6 added. -/
def form6 : String → Form
  | "$id" | "$ref" => .value (isTextOf isReference)
  | "$schema" => .value (isTextOf isAbsolute)
  | "examples" => .value isList
  | "additionalItems" | "contains" | "propertyNames" => .schema
  | _ => .anything

/-- The form of a keyword that draft 7 added. -/
def form7 : String → Form
  | "$comment" | "contentEncoding" | "contentMediaType" => .value isText
  | "readOnly" | "writeOnly" => .value isFlag
  | "if" | "then" | "else" => .schema
  | key => form6 key

/-- The form of a keyword that draft 2019-09 added, or changed. -/
def form2019 : String → Form
  | "$id" => .value fun v => isText v && isTextOf isResourceName v
  | "$schema" | "$ref" | "$recursiveRef" => .value isText
  | "$anchor" => .value (isTextOf (isPlaceName (fun _ => false) "-.:_".toList.contains))
  | "$recursiveAnchor" | "deprecated" => .value isFlag
  | "$vocabulary" => .value (isMapOf isFlag)
  | "minContains" | "maxContains" => .value fun v => (count? v).isSome
  | "dependentRequired" => .value (isMapOf isNameList)
  | "unevaluatedItems" | "unevaluatedProperties" | "contentSchema" => .schema
  | "$defs" | "dependentSchemas" => .named
  | key => form7 key

/-- The form of a keyword that draft 2020-12 added, or changed. -/
def form2020 : String → Form
  | "$anchor" | "$dynamicAnchor" | "$recursiveAnchor" =>
    .value (isTextOf (isPlaceName (· == '_') "-._".toList.contains))
  | "$dynamicRef" => .value isText
  | "prefixItems" => .list
  | "additionalItems" => .anything
  | key => form2019 key

/-- The form of a keyword. -/
def form (dialect : Dialect) (key : String) : Form :=
  match dialect.sharedForm key with
  | .anything =>
    match dialect with
    | .draft4 => oldForm key
    | .draft6 => form6 key
    | .draft7 => form7 key
    | .draft2019 => form2019 key
    | .draft2020 => form2020 key
  | form => form

/-- Whether a list of names may stand for a schema in what a member depends on. -/
def isDependency (dialect : Dialect) (v : Json) : Bool :=
  isNameList v && (dialect != .draft4 || isChoice v)

/-- In draft 4 a mark on a bound stands beside the bound. -/
def marksFit (dialect : Dialect) (members : List (String × Json)) : Bool :=
  dialect != .draft4 ||
    ((!hasKey "exclusiveMinimum" members || hasKey "minimum" members) &&
      (!hasKey "exclusiveMaximum" members || hasKey "maximum" members))

/-- Whether the keys of an object are expressions. -/
def keysAreExpressions : Json → Bool
  | .object members => members.all fun member => isExpression member.1.toList
  | _ => true

mutual

/-- Whether a value is a schema: an object whose keywords fit, or, since draft 6, a truth
value. -/
def isSchema (dialect : Dialect) (schema : Json) : Bool :=
  match schema with
  | .bool _ => dialect.isSince .draft6
  | .object members => dialect.marksFit members && keywordsFit dialect members
  | _ => false
termination_by structural schema

/-- Whether the keywords of a schema fit. -/
def keywordsFit (dialect : Dialect) (members : List (String × Json)) : Bool :=
  match members with
  | [] => true
  | (key, v) :: rest =>
    (match dialect.form key with
      | .anything => true
      | .value fits => fits v
      | .schema => isSchema dialect v
      | .list => isSchemaList dialect v
      | .schemaOrList => isSchema dialect v || isSchemaList dialect v
      | .named => isSchemaMap dialect (fun _ => false) v
      | .patterns => isSchemaMap dialect (fun _ => false) v && keysAreExpressions v
      | .dependencies => isSchemaMap dialect dialect.isDependency v
      | .schemaOrFlag => isFlag v || isSchema dialect v) && keywordsFit dialect rest
termination_by structural members

/-- Whether a value is a list of schemas that is not empty. -/
def isSchemaList (dialect : Dialect) (v : Json) : Bool :=
  match v with
  | .array schemas => !schemas.isEmpty && allSchemas dialect schemas
  | _ => false
termination_by structural v

/-- Whether all items of a list are schemas. -/
def allSchemas (dialect : Dialect) (schemas : List Json) : Bool :=
  match schemas with
  | [] => true
  | v :: rest => isSchema dialect v && allSchemas dialect rest
termination_by structural schemas

/-- Whether a value is an object of schemas, and of other values that `other` holds of. -/
def isSchemaMap (dialect : Dialect) (other : Json → Bool) (v : Json) : Bool :=
  match v with
  | .object members => allNamedSchemas dialect other members
  | _ => false
termination_by structural v

/-- Whether the values of all members are schemas, or others that `other` holds of. -/
def allNamedSchemas (dialect : Dialect) (other : Json → Bool)
    (members : List (String × Json)) : Bool :=
  match members with
  | [] => true
  | (_, v) :: rest => (other v || isSchema dialect v) && allNamedSchemas dialect other rest
termination_by structural members

end

end Dialect
end ChartSchema.JsonSchema
