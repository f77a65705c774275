import ChartSchema.Crd.Definition
import ChartSchema.Crd.Error
import ChartSchema.JsonSchema.Form
import ChartSchema.JsonSchema.Keyword
import ChartSchema.JsonSchema.OpenApi
import ChartSchema.JsonSchema.Reference
/-!
# Values against a schema

`Context.check` turns a schema into its checker, by recursion on the schema: first the keywords
inside, then those that go on to them. Only a reference leads elsewhere, and where to is a
parameter, `follow`. `Registry.followUpTo` follows so many references inside each other, and
`Validator.checker` takes a number that is large enough: between two references that lead to the
same schema there is a step into the value, or there is no end.

A `Validator` is a document that was found to be a schema whose references lead somewhere.
-/

namespace ChartSchema.JsonSchema

/-- Where a schema stands. -/
structure Context where
  /-- The dialect around it. -/
  dialect : Dialect
  /-- The way to it. -/
  way : Way
  /-- What references may lead to. -/
  registry : Registry
  /-- What a schema that a reference leads to means. -/
  follow : Target → Checker

namespace Context

/-- Go on into a schema, which may have a dialect and a name of its own. -/
def enter (ctx : Context) (members : List (String × Json)) : Context :=
  let dialect := (ctx.dialect.detect? members).getD .draft2020
  { ctx with dialect, way := ctx.way.enter dialect members }

/-- What a reference leads to. -/
def target? (ctx : Context) (key : String) (argument : Json) : Option Target :=
  match key, argument with
  | "$ref", .string reference => ctx.registry.lookup? ctx.way reference
  | "$dynamicRef", .string reference =>
    if ctx.dialect = .draft2020 then ctx.registry.lookup? ctx.way reference else none
  | "$recursiveRef", .string _ =>
    if ctx.dialect = .draft2019 then ctx.registry.lookupRecursive? ctx.way else none
  | _, _ => none

/-- Whether a reference among the members of a schema leads back to the same reference. Such a
reference says nothing. -/
def isIdle (members : List (String × Json)) (argument : Json) (target : Target) : Bool :=
  match target.schema, argument with
  | .object others, .string reference =>
    (findKey? "$ref" others).bind Json.string? == some reference
      && (reference == "#" || (Json.object members).same (.object others))
  | _, _ => false

/-- What is in the value of a keyword that holds no schemas: an expression, or the meaning of what
it refers to. -/
def ownInner (ctx : Context) (members : List (String × Json)) (key : String) (argument : Json) :
    Inner :=
  if key = "pattern" then .expression (argument.string?.bind Regex.parse?)
  else
    match ctx.target? key argument with
    | some target =>
      if isIdle members argument target then .nothing
      else
        .schema
          { violations := fun path v => (ctx.follow target).violations path v
            coversKey := fun v key => (ctx.follow target).coversKey v key
            coversItem := fun v index => (ctx.follow target).coversItem v index }
    | none => .nothing

mutual

/-- What a schema means where it stands. A list of names stands for a schema that requires
members with these names. -/
def check (ctx : Context) (schema : Json) : Checker :=
  match schema with
  | .bool allowed => if allowed then .anything else .nothing
  | .object members =>
    Checker.ofKeywords (ctx.enter members).dialect (keywords (ctx.enter members) members members)
  | .array names => .requiring names
  | _ => .anything
termination_by structural schema

/-- The keywords of a schema that count; `all` has all its members. -/
def keywords (ctx : Context) (all members : List (String × Json)) : List Keyword :=
  match members with
  | [] => []
  | (key, argument) :: rest =>
    if ctx.dialect.isHidden all key then keywords ctx all rest
    else
      ⟨key, argument,
        match ctx.dialect.lead key with
        | .nothing => ctx.ownInner all key argument
        | .schema => .schema (check ctx argument)
        | .list => .list (checkItems ctx argument)
        | .schemaOrList =>
          if Form.isList argument then .list (checkItems ctx argument)
          else .schema (check ctx argument)
        | .named =>
          if key = "patternProperties" then
            .matched ((checkNamed ctx argument).map fun (pattern, c) => (Regex.parse? pattern, c))
          else .named (checkNamed ctx argument)⟩ :: keywords ctx all rest
termination_by structural members

/-- What the schemas of a list mean. -/
def checkItems (ctx : Context) (schemas : Json) : List Checker :=
  match schemas with
  | .array schemas => checkEach ctx schemas
  | _ => []
termination_by structural schemas

/-- What each of some schemas means. -/
def checkEach (ctx : Context) (schemas : List Json) : List Checker :=
  match schemas with
  | [] => []
  | schema :: rest => check ctx schema :: checkEach ctx rest
termination_by structural schemas

/-- What the schemas of an object mean. -/
def checkNamed (ctx : Context) (schemas : Json) : List (String × Checker) :=
  match schemas with
  | .object members => checkMembers ctx members
  | _ => []
termination_by structural schemas

/-- What each of some schemas with names means. -/
def checkMembers (ctx : Context) (members : List (String × Json)) : List (String × Checker) :=
  match members with
  | [] => []
  | (key, schema) :: rest => (key, check ctx schema) :: checkMembers ctx rest
termination_by structural members

end

/-- What a schema means that a reference leads to: its name is that of the place already. -/
def checkThere (ctx : Context) (schema : Json) : Checker :=
  match schema with
  | .object members => .ofKeywords ctx.dialect (ctx.keywords members members)
  | schema => ctx.check schema

/-! ## What can be used -/

/-- How the value of a keyword holds schemas that are used, with `all` members beside it: `then`
and `else` are used only behind a condition, and what is said about further items only where
items are described one by one. -/
def usedLead (ctx : Context) (all : List (String × Json)) (key : String) : Lead :=
  match key with
  | "then" | "else" => if hasKey "if" all then ctx.dialect.lead key else .nothing
  | "additionalItems" =>
    if (findKey? "items" all).any Form.isList then ctx.dialect.lead key else .nothing
  | key => ctx.dialect.lead key

/-- What a keyword of a schema refers to, if the keyword can be used: its expressions have to be
expressions, and its references have to lead somewhere. -/
def ownTargets? (ctx : Context) (all : List (String × Json)) (key : String) (argument : Json) :
    Option (List Target) :=
  let required (ok : Bool) : Option (List Target) := if ok then some [] else none
  let referred (here : Bool) : Option (List Target) :=
    if here then
      (ctx.target? key argument).map fun target =>
        if isIdle all argument target then [] else [target]
    else some []
  match key with
  | "$ref" => referred true
  | "$dynamicRef" => referred (ctx.dialect = .draft2020)
  | "$recursiveRef" => referred (ctx.dialect = .draft2019)
  | "pattern" => required (Form.isTextOf Form.isExpression argument)
  | "patternProperties" => required (Dialect.keysAreExpressions argument)
  | "contentMediaType" => required (!ctx.dialect.checksContent || Form.isText argument)
  | "contentEncoding" =>
    required (!ctx.dialect.checksContent || Form.isText argument || hasKey "contentMediaType" all)
  | _ => some []

/-- The targets of two parts, if both can be used. -/
def bothUsable (a b : Option (List Target)) : Option (List Target) := do
  return (← a) ++ (← b)

mutual

/-- What the references in a schema lead to, if the schema can be used. -/
def targets? (ctx : Context) (schema : Json) : Option (List Target) :=
  match schema with
  | .object members => keywordTargets? (ctx.enter members) members members
  | _ => some []
termination_by structural schema

/-- What the references under keywords of a schema lead to. -/
def keywordTargets? (ctx : Context) (all members : List (String × Json)) :
    Option (List Target) :=
  match members with
  | [] => some []
  | (key, argument) :: rest =>
    bothUsable
      (if ctx.dialect.isHidden all key then some []
        else
          bothUsable (ctx.ownTargets? all key argument)
            (match ctx.usedLead all key with
              | .nothing => some []
              | .schema => targets? ctx argument
              | .list | .named => innerTargets? ctx argument
              | .schemaOrList =>
                bothUsable (targets? ctx argument) (listTargets? ctx argument)))
      (keywordTargets? ctx all rest)
termination_by structural members

/-- What the references in the items of a list, or in the values of an object, lead to. -/
def innerTargets? (ctx : Context) (schemas : Json) : Option (List Target) :=
  match schemas with
  | .array schemas => eachTargets? ctx schemas
  | .object members => memberTargets? ctx members
  | _ => some []
termination_by structural schemas

/-- What the references in the items of a list lead to. -/
def listTargets? (ctx : Context) (schemas : Json) : Option (List Target) :=
  match schemas with
  | .array schemas => eachTargets? ctx schemas
  | _ => some []
termination_by structural schemas

/-- What the references in schemas lead to. -/
def eachTargets? (ctx : Context) (schemas : List Json) : Option (List Target) :=
  match schemas with
  | [] => some []
  | schema :: rest => bothUsable (targets? ctx schema) (eachTargets? ctx rest)
termination_by structural schemas

/-- What the references in schemas with names lead to. -/
def memberTargets? (ctx : Context) (members : List (String × Json)) : Option (List Target) :=
  match members with
  | [] => some []
  | (_, schema) :: rest => bothUsable (targets? ctx schema) (memberTargets? ctx rest)
termination_by structural members

end

end Context

namespace Registry

/-- What a schema means that a reference leads to, where so many references inside each other are
followed. -/
def followUpTo (registry : Registry) : (steps : Nat) → Target → Checker
  | 0, _ => .anything
  | steps + 1, target =>
    Context.checkThere
      { dialect := target.dialect, way := target.way, registry
        follow := registry.followUpTo steps }
      target.schema

/-- What the references in a schema lead to, that a reference leads to itself. -/
def targetsThere? (registry : Registry) (target : Target) : Option (List Target) :=
  let ctx : Context :=
    { dialect := target.dialect, way := target.way, registry, follow := fun _ => .anything }
  match target.schema with
  | .object members => ctx.keywordTargets? members members
  | .bool _ => some []
  | _ => none

/-- Whether the schemas that references lead to can be used, with those that the references in
them lead to. `seen` were looked at, and at most `steps` more are. -/
def areUsable (registry : Registry) (steps : Nat) (seen targets : List Target) : Bool :=
  match steps, targets with
  | 0, _ | _, [] => true
  | steps + 1, target :: rest =>
    if seen.any fun t => t.dialect == target.dialect && t.way.base == target.way.base &&
        t.schema.same target.schema then areUsable registry steps seen rest
    else
      match registry.targetsThere? target with
      | some more => areUsable registry steps (target :: seen) (more ++ rest)
      | none => false

end Registry

/-- A document that is a schema of a dialect. -/
structure Validator where
  /-- The dialect. -/
  dialect : Dialect
  /-- The document. -/
  schema : Json
  /-- What its references may lead to. -/
  registry : Registry
  /-- The name of the document. -/
  name : String
  /-- It is a schema of the dialect. -/
  isSchema : dialect.isSchema schema = true

namespace Validator

/-- Where the document stands, if references are followed in this way. -/
def context (validator : Validator) (follow : Target → Checker) : Context :=
  { dialect := validator.dialect, way := { base := validator.name }
    registry := validator.registry, follow }

/-- Whether the document can be used: its expressions are expressions, and its references lead to
schemas that can be used. -/
def isUsable (validator : Validator) : Bool :=
  let count := validator.schema.count + 1
  match (validator.context fun _ => .anything).targets? validator.schema with
  | some targets => validator.registry.areUsable (count * count * count) [] targets
  | none => false

/-- The validator of a document, if it is a schema of the dialect that it names, and can be
used. -/
def ofSchema (schema : Json) : Except CrdError Validator :=
  match Dialect.ofSchema? schema with
  | none => .error .invalidJsonSchema
  | some dialect =>
    match Registry.rootName? dialect schema, Registry.ofDocument? dialect schema with
    | some name, some registry =>
      if h : dialect.isSchema schema = true then
        let validator : Validator := ⟨dialect, schema, registry, name, h⟩
        if validator.isUsable then .ok validator else .error .invalidJsonSchema
      else .error .invalidJsonSchema
    | _, _ => .error .invalidJsonSchema

/-- The validator of a resource definition, which leaves its objects open. -/
def ofCrd (crd : Crd) : Except CrdError Validator := do
  ofSchema (← crd.jsonSchema false none)

/-- What the document means for values that are nested so deep. -/
def checker (validator : Validator) (depth : Nat) : Checker :=
  let steps :=
    (depth + 1) * (validator.schema.count + 1) * (validator.registry.resources.length + 1)
  (validator.context (validator.registry.followUpTo steps)).check validator.schema

/-- Everything about a document that the schema does not admit. -/
def violations (validator : Validator) (v : Json) : List Violation :=
  (validator.checker v.depth).violations [] v

/-- Whether the schema admits a document. -/
def accepts (validator : Validator) (v : Json) : Bool := (validator.violations v).isEmpty

/-- What `violations` lists, by location and message. -/
def report (validator : Validator) (v : Json) : List Violation :=
  (validator.violations v).mergeSort Violation.precedes

end Validator
end ChartSchema.JsonSchema
