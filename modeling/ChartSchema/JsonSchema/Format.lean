import ChartSchema.JsonSchema.Form
import ChartSchema.Json.Pointer
import ChartSchema.Net.Email
import ChartSchema.Net.InternationalName
import ChartSchema.Net.UriTemplate
import ChartSchema.Text.Base64
import ChartSchema.Text.Timestamp
import ChartSchema.Json.Reader
/-!
# Formats of texts

The keyword `format` names a kind of text. The older dialects know some kinds and check them;
for the younger ones a format is only a remark. The keywords `contentEncoding` and
`contentMediaType` say what a text is the written form of.
-/

namespace ChartSchema.JsonSchema

open Net

namespace Dialect

/-- The formats that draft 4 checks. -/
def oldFormat? : String → Option (List Char → Bool)
  | "date" => some Text.isDate
  | "date-time" => some Text.isTimestamp
  | "time" => some Text.isTime
  | "email" => some (isEmail isHostname)
  | "idn-email" => some (isEmail isInternationalHostname)
  | "hostname" => some isHostname
  | "ipv4" => some isIpv4
  | "ipv6" => some isIpv6
  | "uri" => some Form.isAbsolute
  | "regex" => some Form.isExpression
  | _ => none

/-- The formats that draft 6 checks. -/
def format6? : String → Option (List Char → Bool)
  | "json-pointer" => some Json.Pointer.isPointer
  | "uri-reference" => some Form.isReference
  | "uri-template" => some isUriTemplate
  | name => oldFormat? name

/-- The formats that draft 7 checks. -/
def format7? : String → Option (List Char → Bool)
  | "iri" => some fun s => (Uri.parse? .international s).any (·.scheme?.isSome)
  | "iri-reference" => some fun s => (Uri.parse? .international s).isSome
  | "idn-hostname" => some isInternationalHostname
  | "relative-json-pointer" => some Json.Pointer.isRelative
  | name => format6? name

/-- What a format asks of a text, if it is checked. -/
def format? : Dialect → String → Option (List Char → Bool)
  | .draft4 => oldFormat?
  | .draft6 => format6?
  | .draft7 => format7?
  | .draft2019 | .draft2020 => fun _ => none

/-- Whether the keywords on the content of texts are checked. -/
def checksContent (dialect : Dialect) : Bool := dialect = .draft6 || dialect = .draft7

end Dialect

/-! ## Contents -/

/-- Whether a text is of a kind, for the kinds that are checked. -/
def mediaType? : String → Option (String → Bool)
  | "application/json" => some fun s => (Json.parse? s).isSome
  | _ => none

/-- The bytes that a text writes, for the encodings that are checked. -/
def encoding? : String → Option (String → Option (List UInt8))
  | "base64" => some fun s => Text.Base64.decode? s.toList
  | _ => none

end ChartSchema.JsonSchema
