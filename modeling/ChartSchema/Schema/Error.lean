import ChartSchema.Schema.Unknown
/-!
# Why a schema cannot be built

The causes, and for each the message, the diagnostic code and the advice that go with it.
-/

namespace ChartSchema

/-- What the value of `apiVersion` does wrong. -/
inductive ApiVersionFault where
  /-- It has more than one slash. -/
  | shape
  /-- It is no text. -/
  | notString
  deriving Repr, DecidableEq

/-- Two items of a list document one key in different ways. -/
structure CommentConflict where
  /-- The key. -/
  field : String
  /-- The keys that lead to it. -/
  path : String
  /-- The comment lines that came first. -/
  first : List String
  /-- The comment lines that differ. -/
  second : List String
  /-- The line of the second place. -/
  line? : Option Nat
  deriving Repr, DecidableEq

/-- Why a schema cannot be built. -/
inductive SchemaError where
  /-- The text is no YAML document. -/
  | yaml
  /-- The document is no mapping but something else. -/
  | rootNotMapping (found : String)
  /-- The API version is not one. -/
  | invalidApiVersion (value : String) (fault : ApiVersionFault)
  /-- There is no kind. -/
  | missingKind
  /-- A key is a collection. -/
  | invalidKey (path : String)
  /-- Items of a list contradict each other. -/
  | commentConflict (conflict : CommentConflict)
  /-- Fields lack a type. -/
  | unknownTypes (report : UnknownReport)
  deriving Repr, DecidableEq

/-- The reason why an API version is refused. -/
def ApiVersionFault.reason : ApiVersionFault → String
  | .shape => "expected 'group/version' or 'version'"
  | .notString => "must be a string"

/-- The line that a field without a type has in a message. -/
def UnknownField.message (field : UnknownField) : String :=
  let position := match field.position with
    | .field => "field"
    | .listElement => "list element"
  let line := match field.line? with
    | some n => ", line " ++ toString n
    | none => ""
  "\n  - " ++ field.path ++ " (" ++ position ++ " of " ++ field.structName ++ line ++ ")"

/-- The message about fields without a type. -/
def UnknownReport.message (report : UnknownReport) : String :=
  let count := report.fields.length
  "Cannot infer the type of " ++ toString count ++ " field" ++ (if count = 1 then "" else "s") ++
    Text.joinWith "" (report.fields.map (·.message))

/-- The advice about fields without a type. -/
def UnknownReport.help (report : UnknownReport) : String :=
  "add a type hint comment above each field, e.g. \x60# +" ++ report.tool ++
    ":type:string\x60 or \x60# +" ++ report.tool ++ ":type:[]string\x60"

namespace SchemaError

/-- The message of an error; there is none for a text that is not YAML. -/
def message? : SchemaError → Option String
  | .yaml => none
  | .rootNotMapping found => some ("Document root must be a mapping, found " ++ found)
  | .invalidApiVersion value fault =>
    some ("Invalid apiVersion '" ++ value ++ "': " ++ fault.reason)
  | .missingKind => some "Missing resource kind"
  | .invalidKey path => some ("Unsupported key at " ++ path ++ ": mapping keys must be scalars")
  | .commentConflict c =>
    some ("Conflicting comments for '" ++ c.field ++ "' across list items at " ++ c.path ++
      ": \"" ++ Text.joinWith "\n" c.first ++ "\" vs \"" ++ Text.joinWith "\n" c.second ++ "\"")
  | .unknownTypes report => some report.message

/-- The diagnostic code of an error. -/
def code : SchemaError → String
  | .yaml => "miaka::schema::yaml"
  | .rootNotMapping _ => "miaka::schema::root"
  | .invalidApiVersion .. => "miaka::schema::api_version"
  | .missingKind => "miaka::schema::kind"
  | .invalidKey _ => "miaka::schema::key"
  | .commentConflict _ => "miaka::schema::list_merge"
  | .unknownTypes _ => "miaka::schema::unknown_type"

/-- The advice that goes with an error. -/
def help? : SchemaError → Option String
  | .rootNotMapping _ =>
    some ("values.yaml must be a mapping with top-level keys such as " ++
      "\x60apiVersion\x60 and \x60kind\x60")
  | .missingKind =>
    some "add a top-level \x60kind: <Name>\x60 entry, it names the resource and its root struct"
  | .commentConflict _ =>
    some ("list items are merged into one struct, so a field may only be documented one way; " ++
      "keep the comment on one item or make them identical")
  | .unknownTypes report => some report.help
  | .yaml | .invalidApiVersion .. | .invalidKey _ => none

end SchemaError
end ChartSchema
