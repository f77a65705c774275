import ChartSchema.Json.Pointer
import ChartSchema.Json.Printer
/-!
# Violations of a schema

What can be wrong with a value, where in the document it stands, and the words for it. Values
are quoted in a message as JSON, with single quotes for double ones.
-/

namespace ChartSchema.JsonSchema

/-- A step from a value to a value inside it. -/
inductive Step where
  /-- To the member of an object. -/
  | member (key : String)
  /-- To the item of a list. -/
  | item (index : Nat)
  deriving Repr, DecidableEq

/-- What is wrong with a value. -/
inductive Fault where
  /-- It has none of the types. -/
  | wrongType (value : Json) (types : List String)
  /-- It is less than a limit. -/
  | belowMinimum (value limit : Json)
  /-- It is greater than a limit. -/
  | aboveMaximum (value limit : Json)
  /-- It is not greater than a limit. -/
  | notAboveMinimum (value limit : Json)
  /-- It is not less than a limit. -/
  | notBelowMaximum (value limit : Json)
  /-- It is no multiple of a number. -/
  | notMultiple (value : Json) (divisor : Binary64)
  /-- It has too few characters. -/
  | tooShort (value : Json) (limit : Nat)
  /-- It has too many characters. -/
  | tooLong (value : Json) (limit : Nat)
  /-- It has too few items. -/
  | tooFewItems (value : Json) (limit : Nat)
  /-- It has too many items. -/
  | tooManyItems (value : Json) (limit : Nat)
  /-- It has too few members. -/
  | tooFewMembers (value : Json) (limit : Nat)
  /-- It has too many members. -/
  | tooManyMembers (value : Json) (limit : Nat)
  /-- Two of its items are equal. -/
  | equalItems (value : Json)
  /-- The expression does not match it. -/
  | noMatch (value : Json) (pattern : String)
  /-- There are too many ways to try to match an expression. -/
  | unanswered
  /-- It does not have the format. -/
  | otherFormat (value : Json) (format : String)
  /-- It is none of the values. -/
  | notListed (value : Json) (values : List Json)
  /-- It is not the value. -/
  | notConstant (value : Json)
  /-- It lacks a member. -/
  | missing (key : String)
  /-- It has members that are not declared. -/
  | unexpected (keys : List String)
  /-- It has items beyond those that are described one by one. -/
  | unexpectedItems (items : List Json)
  /-- It has members that nothing says anything about. -/
  | unevaluatedMembers (keys : List String)
  /-- It has items that nothing says anything about. -/
  | unevaluatedItems (items : List Json)
  /-- Too few or too many of its items are what they are looked for. -/
  | otherContents (value : Json)
  /-- It is not the written form of bytes. -/
  | otherEncoding (value : Json) (encoding : String)
  /-- It is not the written form of a document. -/
  | otherMediaType (value : Json) (mediaType : String)
  /-- So many of the bytes that it writes are text, and so many behind them are not, none if they
  end inside a character. -/
  | notText (done : Nat) (bad? : Option Nat)
  /-- None of the alternatives describes it. -/
  | noBranch (value : Json) (keyword : String)
  /-- More than one of the alternatives describes it. -/
  | severalBranches (value : Json)
  /-- Nothing is allowed where it stands. -/
  | forbidden (value : Json)
  /-- A schema describes it that must not. -/
  | excluded (schema value : Json)
  deriving Repr

namespace Fault

/-- Whether the place of a value is told with a fault. It is not where bytes are not text. -/
def isPlaced : Fault → Bool
  | .notText .. => false
  | _ => true

/-- A text between double quotes. -/
def inQuotes (s : String) : String := "\"" ++ s ++ "\""

/-- A list of things that were not expected. -/
def unexpectedList (things : List String) : String :=
  "(" ++ Text.joinWith ", " things ++ (if things.length = 1 then " was" else " were") ++
    " unexpected)"

/-- A text between single quotes. -/
def inApostrophes (s : String) : String := "'" ++ s ++ "'"

/-- The words for a fault, with double quotes. -/
def describe : Fault → String
  | .wrongType v [type] => v.compact ++ " is not of type " ++ inQuotes type
  | .wrongType v types =>
    v.compact ++ " is not of types " ++ Text.joinWith ", " (types.map inQuotes)
  | .belowMinimum v limit => v.compact ++ " is less than the minimum of " ++ limit.compact
  | .aboveMaximum v limit => v.compact ++ " is greater than the maximum of " ++ limit.compact
  | .notAboveMinimum v limit =>
    v.compact ++ " is less than or equal to the minimum of " ++ limit.compact
  | .notBelowMaximum v limit =>
    v.compact ++ " is greater than or equal to the maximum of " ++ limit.compact
  | .notMultiple v divisor =>
    v.compact ++ " is not a multiple of " ++ FloatLayout.positional.render divisor
  | .tooShort v n => v.compact ++ " is shorter than " ++ Text.counted n "character" "characters"
  | .tooLong v n => v.compact ++ " is longer than " ++ Text.counted n "character" "characters"
  | .tooFewItems v n => v.compact ++ " has less than " ++ Text.counted n "item" "items"
  | .tooManyItems v n => v.compact ++ " has more than " ++ Text.counted n "item" "items"
  | .tooFewMembers v n => v.compact ++ " has less than " ++ Text.counted n "property" "properties"
  | .tooManyMembers v n => v.compact ++ " has more than " ++ Text.counted n "property" "properties"
  | .equalItems v => v.compact ++ " has non-unique elements"
  | .noMatch v pattern => v.compact ++ " does not match " ++ inQuotes pattern
  | .unanswered => "Error executing regex: Max limit for backtracking count exceeded"
  | .otherFormat v format => v.compact ++ " is not a " ++ inQuotes format
  | .notListed v values => v.compact ++ " is not one of " ++ (Json.array values).compact
  | .notConstant v => v.compact ++ " was expected"
  | .missing key => Json.quote key ++ " is a required property"
  | .unexpected keys =>
    "Additional properties are not allowed " ++ unexpectedList (keys.map inApostrophes)
  | .unexpectedItems items =>
    "Additional items are not allowed " ++ unexpectedList (items.map Json.compact)
  | .unevaluatedMembers keys =>
    "Unevaluated properties are not allowed " ++ unexpectedList (keys.map inApostrophes)
  | .unevaluatedItems items =>
    "Unevaluated items are not allowed " ++
      unexpectedList (items.map fun item => inApostrophes item.compact)
  | .otherContents v => "None of " ++ v.compact ++ " are valid under the given schema"
  | .otherEncoding v encoding =>
    v.compact ++ " is not compliant with " ++ inQuotes encoding ++ " content encoding"
  | .otherMediaType v mediaType =>
    v.compact ++ " is not compliant with " ++ inQuotes mediaType ++ " media type"
  | .notText done (some bad) =>
    "invalid utf-8 sequence of " ++ toString bad ++ " bytes from index " ++ toString done
  | .notText done none => "incomplete utf-8 byte sequence from index " ++ toString done
  | .noBranch v keyword =>
    v.compact ++ " is not valid under any of the schemas listed in the '" ++ keyword ++
      "' keyword"
  | .severalBranches v =>
    v.compact ++ " is valid under more than one of the schemas listed in the 'oneOf' keyword"
  | .forbidden v => "False schema does not allow " ++ v.compact
  | .excluded schema v => schema.compact ++ " is not allowed for " ++ v.compact

/-- The message about a fault. -/
def message (fault : Fault) : String :=
  String.ofList (fault.describe.toList.map fun c => if c = '"' then '\'' else c)

end Fault

/-- A fault and where it was found. -/
structure Violation where
  /-- The way from the document to the value. -/
  path : List Step
  /-- What is wrong with the value. -/
  fault : Fault
  deriving Repr

namespace Violation

/-- A step as it is written in a pointer. -/
def stepText : Step → String
  | .member key => String.ofList ('/' :: Json.Pointer.escape key.toList)
  | .item index => "/" ++ toString index

/-- The pointer to the value, or a word for the document itself. -/
def location (v : Violation) : String :=
  if v.path.isEmpty then "(root)" else Text.joinWith "" (v.path.map stepText)

/-- The message about the violation. -/
def message (v : Violation) : String := v.fault.message

/-- Whether one violation goes before another in a report, by location and then by message. -/
def precedes (a b : Violation) : Bool :=
  a.location < b.location || (a.location == b.location && decide (a.message ≤ b.message))

end Violation
end ChartSchema.JsonSchema
