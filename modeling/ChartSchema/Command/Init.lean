import ChartSchema.Command.Arguments
import ChartSchema.Command.Basic
import ChartSchema.Yaml.Value
/-!
# Declaring a chart's resource

A values document names its resource by two keys, `apiVersion` and `kind`. Those that it lacks
are put in front of it, with an empty line behind them, so that they do not take over the
comment of its first key. A document that has both stays as it is.
-/

namespace ChartSchema.Init

open Arguments (InitRequest)

variable {m : Type → Type} [Monad m] [Host m]

/-! ## What may be declared -/

/-- Whether a text is a kind: ASCII letters and digits, an upper-case letter first. -/
def isKind (kind : String) : Bool :=
  match kind.toList with
  | [] => false
  | c :: rest => c.isUpper && (c :: rest).all Char.isAlphanum

/-- Whether a text is a group: lower-case ASCII letters, digits and dashes in pieces with points
between them, more than one, the first and the last not empty. -/
def isGroup (group : String) : Bool :=
  let s := group.toList
  s.contains '.' && s.head? != some '.' && s.getLast? != some '.' &&
    s.all fun c => c.isLower || c.isDigit || c == '-' || c == '.'

/-- Whether a text is a version: a `v`, a digit, and lower-case ASCII letters and digits. -/
def isVersion (version : String) : Bool :=
  match version.toList with
  | 'v' :: digit :: rest => digit.isDigit && rest.all fun c => c.isLower || c.isDigit
  | _ => false

/-- The kind made from the name of a folder: its runs of ASCII letters and digits, each with a
capital first, if the first of them starts with a letter. -/
def kindOfName? (name : String) : Option String :=
  let capital (piece : List Char) : List Char :=
    match piece with
    | [] => []
    | c :: rest => c.toUpper :: rest
  let kind := (Text.splitOn (!·.isAlphanum) name.toList).flatMap capital
  match kind with
  | c :: _ => if c.isUpper then some (String.ofList kind) else none
  | [] => none

/-! ## The document -/

/-- Whether a values text has the key `apiVersion`, and whether it has the key `kind`. -/
def declared (text : String) : Except Failure (Bool × Bool) :=
  match Yaml.Value.parse? text with
  | none => .error (.schema .yaml)
  | some .null => .ok (false, false)
  | some (.mapping entries) =>
    let has (name : String) : Bool := entries.any fun (key, _) =>
      match key with
      | .string s => s == name
      | _ => false
    .ok (has "apiVersion", has "kind")
  | some _ => .error (.usage "values.yaml must be a mapping")

/-- The text of a values document with declarations in front of it. -/
def prepend (header existing : String) : String :=
  if Text.allBlank existing then header else header ++ "\n" ++ existing

/-- The line that declares an API version. -/
def apiVersionLine (group version : String) : String :=
  "apiVersion: " ++ group ++ "/" ++ version ++ "\n"

/-- The line that declares a kind. -/
def kindLine (kind : String) : String := "kind: " ++ kind ++ "\n"

/-! ## The command -/

/-- What an option says, or its default; an option without either has to be given. -/
def resolve (option : String) (given? default? : Option String) : Except Failure String :=
  match given?.or default? with
  | some value => .ok value
  | none =>
    .error (.usage ("--" ++ option ++ " is required when not running in a terminal")
      (some ("pass --" ++ option ++ " <VALUE>")))

/-- Refuse a text that is not what it has to be. -/
def require (holds : Bool) (message help : String) : Except Failure Unit :=
  if holds then .ok () else .error (.usage message (some help))

/-- The declaration of the API version. -/
def apiVersionHeader (request : InitRequest) : Except Failure String := do
  let group ← resolve "group" request.group? none
  require (isGroup group) ("Invalid API group '" ++ group ++ "'")
    "API groups are lowercase DNS names, e.g. charts.example.com"
  let version ← resolve "version" request.version? (some "v1alpha1")
  require (isVersion version) ("Invalid API version '" ++ version ++ "'")
    "versions look like v1, v1beta1 or v2alpha3"
  return apiVersionLine group version

/-- The declaration of the kind, in a chart whose folder has this name. -/
def kindHeader (request : InitRequest) (folder? : Option String) : Except Failure String := do
  let kind ← resolve "kind" request.kind? (folder? >>= kindOfName?)
  require (isKind kind) ("Invalid kind '" ++ kind ++ "'")
    "kinds are CamelCase identifiers, e.g. WebApp"
  return kindLine kind

/-- The declarations that a values text lacks. -/
def header (request : InitRequest) (folder? : Option String) (hasVersion hasKind : Bool) :
    Except Failure String := do
  let first ← if hasVersion then .ok "" else apiVersionHeader request
  let second ← if hasKind then .ok "" else kindHeader request folder?
  return first ++ second

/-- The values text of a chart, which is empty if there is no values document. -/
def existingText (path : String) : Command m String := do
  if ← Command.present path then Command.read path else return ""

/-- Declare what a chart's values document lacks. -/
def run (request : InitRequest) : Command m Unit := do
  let path := Path.join request.chart "values.yaml"
  let existing ← existingText path
  let (hasVersion, hasKind) ← Command.ofResult (declared existing)
  if hasVersion && hasKind then
    Command.print ("✓ " ++ path ++ " already declares apiVersion and kind\n")
  else
    let folder? ← ExceptT.lift (Host.properName? request.chart)
    let lines ← Command.ofResult (header request folder? hasVersion hasKind)
    Command.write path (prepend lines existing)
    Command.print ("✓ Initialized " ++ path ++ "\n  Next: miaka generate " ++ request.chart ++ "\n")

end ChartSchema.Init
