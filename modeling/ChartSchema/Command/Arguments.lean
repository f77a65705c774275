import ChartSchema.Compatibility.Policy
import ChartSchema.Crd.Options
/-!
# Command lines

A command line is a list of arguments: options and words. `--name value`, `--name=value`,
`-n value`, `-nvalue` and `-n=value` give an option its value, and options without a value may
stand together behind one dash. A value does not start with a dash unless it is one. Behind a
bare `--` everything is a word. An option may be given once.

Arguments are read from the left, and the first that is wrong, or that asks for help, ends the
reading.
-/

namespace ChartSchema.Arguments

/-- Why the reading of a command line ends without a command. -/
inductive Stop where
  /-- The arguments are wrong. -/
  | misuse
  /-- They ask for help. -/
  | help
  /-- They ask for the version of the program. -/
  | version
  deriving Repr, DecidableEq

/-- What an option does. -/
inductive Effect where
  /-- It is set or not. -/
  | switch
  /-- It may be given any number of times. -/
  | counter
  /-- It takes a value, and these are the values that it takes. -/
  | value (accepts : String → Bool)
  /-- It ends the reading. -/
  | stop (reason : Stop)

/-- An option that a command knows. -/
structure Rule where
  /-- The name behind two dashes. -/
  name : String
  /-- The letter behind one dash. -/
  letter? : Option Char := none
  /-- What it does. -/
  effect : Effect

/-- What was read. -/
structure Given where
  /-- The options by name, with their values; those without a value have an empty one. -/
  options : List (String × String) := []
  /-- The words. -/
  words : List String := []
  deriving Repr

namespace Given

/-- Whether an option was given. -/
def has (given : Given) (name : String) : Bool := given.options.any (·.1 == name)

/-- The value of an option. -/
def value? (given : Given) (name : String) : Option String :=
  (given.options.find? (·.1 == name)).map (·.2)

/-- Note an option. -/
def set (given : Given) (name value : String) : Given :=
  { given with options := given.options ++ [(name, value)] }

/-- Note an option that may be given once. -/
def setOnce (given : Given) (name value : String) : Except Stop Given :=
  if given.has name then .error .misuse else .ok (given.set name value)

/-- Note the value of an option. -/
def setValue (given : Given) (rule : Rule) (value : String) : Except Stop Given :=
  match rule.effect with
  | .value accepts =>
    if accepts value then given.setOnce rule.name value else .error .misuse
  | _ => .error .misuse

/-- Note a word, of which there may be so many. No word is empty. -/
def addWord (limit : Nat) (given : Given) (word : String) : Except Stop Given :=
  if word.isEmpty || limit ≤ given.words.length then .error .misuse
  else .ok { given with words := given.words ++ [word] }

/-- Note an option that stands without a value: the option that is left to get one from the
next argument, if it takes one. -/
def use (given : Given) (rule : Rule) : Except Stop (Given × Option Rule) :=
  match rule.effect with
  | .switch => return (← given.setOnce rule.name "", none)
  | .counter => return (given.set rule.name "", none)
  | .value _ => return (given, some rule)
  | .stop reason => throw reason

end Given

/-- Read options that stand behind one dash. -/
def readLetters (rules : List Rule) (given : Given) :
    List Char → Except Stop (Given × Option Rule)
  | [] => .ok (given, none)
  | c :: rest =>
    match rules.find? (·.letter? == some c) with
    | none => .error .misuse
    | some rule => do
      match ← given.use rule with
      | (given, none) => readLetters rules given rest
      | (given, some rule) =>
        match rest with
        | [] => return (given, some rule)
        | '=' :: value => return (← given.setValue rule (String.ofList value), none)
        | value => return (← given.setValue rule (String.ofList value), none)

/-- The name of an option and the value behind an equals sign. -/
def splitValue : List Char → List Char × Option (List Char)
  | [] => ([], none)
  | c :: rest =>
    if c = '=' then ([], some rest)
    else
      let (name, value?) := splitValue rest
      (c :: name, value?)

/-- Read an option that stands behind two dashes. -/
def readName (rules : List Rule) (given : Given) (text : List Char) :
    Except Stop (Given × Option Rule) :=
  let (name, value?) := splitValue text
  match rules.find? (·.name.toList == name), value? with
  | none, _ => .error .misuse
  | some rule, none => given.use rule
  | some rule, some value => return (← given.setValue rule (String.ofList value), none)

/-- Read an option. -/
def readOption (rules : List Rule) (given : Given) (argument : String) :
    Except Stop (Given × Option Rule) :=
  match argument.toList with
  | '-' :: '-' :: name => readName rules given name
  | _ :: letters => readLetters rules given letters
  | [] => .error .misuse

/-- Whether an argument is an option, or the mark behind which there are none. -/
def isOption (argument : String) : Bool :=
  Text.startsWith ['-'] argument.toList && argument != "-"

/-- Read the arguments of a command with these options and so many words. `waiting?` is the
option that the next argument is the value of. -/
def readAll (rules : List Rule) (limit : Nat) (given : Given) (waiting? : Option Rule) :
    List String → Except Stop Given
  | [] => if waiting?.isSome then .error .misuse else .ok given
  | argument :: rest =>
    match waiting? with
    | some rule => do
      if isOption argument then throw .misuse
      readAll rules limit (← given.setValue rule argument) none rest
    | none => do
      if argument = "--" then rest.foldlM (Given.addWord limit) given
      else if isOption argument then
        let (given, waiting?) ← readOption rules given argument
        readAll rules limit given waiting? rest
      else readAll rules limit (← given.addWord limit argument) none rest

/-! ## The commands -/

/-- What `generate` is asked to do. -/
structure GenerateRequest where
  /-- The folder of the chart. -/
  chart : String := "."
  /-- The values document, if it is not the chart's. -/
  values? : Option String := none
  /-- Where the definition is written, if the project does not say. -/
  crdOutput? : Option String := none
  /-- Where the JSON Schema is written, if the project does not say. -/
  jsonSchemaOutput? : Option String := none
  /-- The group, instead of the project's. -/
  group? : Option String := none
  /-- The version, instead of the project's. -/
  version? : Option String := none
  /-- The plural name, instead of the project's. -/
  plural? : Option String := none
  /-- The scope, instead of the project's. -/
  scope? : Option Scope := none
  /-- The policy, instead of the project's. -/
  policy? : Option Policy := none
  /-- Whether to write what the policy rejects. -/
  yes : Bool := false
  /-- Whether to print the products instead of writing them. -/
  dryRun : Bool := false
  deriving Repr

/-- The form in which `inspect` prints a schema. -/
inductive SchemaForm where
  /-- As a report. -/
  | text
  /-- As YAML. -/
  | yaml
  /-- As JSON. -/
  | json
  deriving Repr, DecidableEq

/-- The form of a name. -/
def SchemaForm.ofName? (name : String) : Option SchemaForm :=
  if name = "text" then some .text
  else if name = "yaml" then some .yaml
  else if name = "json" then some .json
  else none

/-- What `init` is asked to do. -/
structure InitRequest where
  /-- The folder of the chart. -/
  chart : String := "."
  /-- The API group. -/
  group? : Option String := none
  /-- The kind of the resource. -/
  kind? : Option String := none
  /-- The API version. -/
  version? : Option String := none
  deriving Repr

/-- What the program is asked to do. -/
inductive Request where
  /-- Make the definition and the JSON Schema of a chart. -/
  | generate (request : GenerateRequest)
  /-- Show the schema of a values document. -/
  | inspect (values : String) (form : SchemaForm)
  /-- Check a document against a JSON Schema or a definition. -/
  | validate (document schema : String) (asJson : Bool)
  /-- Compare two definitions. -/
  | diff (old new : String) (policy : Policy)
  /-- Declare the API version and the kind in a chart's values document. -/
  | init (request : InitRequest)
  deriving Repr

/-- The options that every command knows. -/
def globalRules : List Rule :=
  [{ name := "verbose", letter? := some 'v', effect := .counter },
    { name := "debug", effect := .switch },
    { name := "help", letter? := some 'h', effect := .stop .help }]

/-- An option with any value. -/
def anyValue (name : String) : Rule := { name, effect := .value fun _ => true }

/-- An option with a path. -/
def pathValue (name : String) (letter? : Option Char) : Rule :=
  { name, letter?, effect := .value (!·.isEmpty) }

/-- The option with a policy. -/
def policyRule : Rule := { name := "policy", effect := .value (Policy.parse? · |>.isSome) }

/-- The options of `generate`. -/
def generateRules : List Rule :=
  [pathValue "values" (some 'f'), pathValue "crd-out" none, pathValue "schema-out" none,
    anyValue "group", anyValue "version", anyValue "plural",
    { name := "scope", effect := .value (Scope.parse? · |>.isSome) }, policyRule,
    { name := "yes", letter? := some 'y', effect := .switch },
    { name := "dry-run", effect := .switch }]

/-- Read the arguments of `generate`. -/
def readGenerate (arguments : List String) : Except Stop Request := do
  let given ← readAll (generateRules ++ globalRules) 1 {} none arguments
  return .generate {
    chart := given.words.headD "."
    values? := given.value? "values"
    crdOutput? := given.value? "crd-out"
    jsonSchemaOutput? := given.value? "schema-out"
    group? := given.value? "group"
    version? := given.value? "version"
    plural? := given.value? "plural"
    scope? := given.value? "scope" >>= Scope.parse?
    policy? := given.value? "policy" >>= Policy.parse?
    yes := given.has "yes"
    dryRun := given.has "dry-run" }

/-- Read the arguments of `inspect`. -/
def readInspect (arguments : List String) : Except Stop Request := do
  let output : Rule :=
    { name := "output", letter? := some 'o', effect := .value (SchemaForm.ofName? · |>.isSome) }
  let given ← readAll (output :: globalRules) 1 {} none arguments
  match given.words with
  | [values] => return .inspect values ((given.value? "output" >>= SchemaForm.ofName?).getD .text)
  | _ => throw .misuse

/-- Read the arguments of `validate`. -/
def readValidate (arguments : List String) : Except Stop Request := do
  let rules := [pathValue "schema" (some 's'), { name := "json", effect := .switch }]
  let given ← readAll (rules ++ globalRules) 1 {} none arguments
  match given.words, given.value? "schema" with
  | [document], some schema => return .validate document schema (given.has "json")
  | _, _ => throw .misuse

/-- Read the arguments of `diff`. -/
def readDiff (arguments : List String) : Except Stop Request := do
  let given ← readAll (policyRule :: globalRules) 2 {} none arguments
  match given.words with
  | [old, new] => return .diff old new ((given.value? "policy" >>= Policy.parse?).getD .safe)
  | _ => throw .misuse

/-- Read the arguments of `init`. -/
def readInit (arguments : List String) : Except Stop Request := do
  let rules := [anyValue "group", anyValue "kind", anyValue "version"]
  let given ← readAll (rules ++ globalRules) 1 {} none arguments
  return .init {
    chart := given.words.headD "."
    group? := given.value? "group"
    kind? := given.value? "kind"
    version? := given.value? "version" }

/-- The commands by name. -/
def commands : List (String × (List String → Except Stop Request)) :=
  [("generate", readGenerate), ("inspect", readInspect), ("validate", readValidate),
    ("diff", readDiff), ("init", readInit)]

/-- Read the arguments of `help`: the name of a command, or nothing. -/
def readHelp (arguments : List String) : Except Stop Request :=
  match arguments with
  | [] => .error .help
  | [name] =>
    if name = "help" || commands.any (·.1 == name) then .error .help else .error .misuse
  | _ => .error .misuse

/-- Read a command line: options that every command knows, the name of a command, and its
arguments. -/
def read (given : Given) : List String → Except Stop Request
  | [] => .error .misuse
  | argument :: rest => do
    if argument = "--" then throw .misuse
    else if isOption argument then
      let versionRule : Rule :=
        { name := "version", letter? := some 'V', effect := .stop .version }
      let (given, _) ← readOption (versionRule :: globalRules) given argument
      read given rest
    else if argument = "help" then readHelp rest
    else
      match commands.find? (·.1 == argument) with
      | some (_, readCommand) => readCommand rest
      | none => throw .misuse

/-- The request of a command line. -/
def parse (arguments : List String) : Except Stop Request := read {} arguments

end ChartSchema.Arguments
