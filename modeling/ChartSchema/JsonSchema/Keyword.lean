import ChartSchema.JsonSchema.Format
import ChartSchema.JsonSchema.Violation
import ChartSchema.Regex.Match
import ChartSchema.Text.Utf8
/-!
# What keywords do not admit

A `Checker` is what a schema means: what it does not admit about a value at a place, and which
members and items of a value it has said something about. A `Keyword` stands in a schema among
others, with the checkers of the schemas that it goes on to.

The keywords of a schema are independent of each other, but for a few that look at those beside
them: what is said about other members depends on the properties that are declared, and what is
said about other items on the items that are described one by one.
-/

namespace ChartSchema.JsonSchema

/-- What a schema means. -/
structure Checker where
  /-- What it does not admit about a value at a place. -/
  violations : List Step → Json → List Violation
  /-- Whether it says something about the member of a value with a key. -/
  coversKey : Json → String → Bool
  /-- Whether it says something about the item of a value at a position. -/
  coversItem : Json → Nat → Bool

namespace Checker

/-- Whether a value is admitted. -/
def accepts (c : Checker) (v : Json) : Bool := (c.violations [] v).isEmpty

/-- Everything is admitted. -/
def anything : Checker := ⟨fun _ _ => [], fun _ _ => false, fun _ _ => false⟩

/-- Nothing is admitted. -/
def nothing : Checker :=
  ⟨fun path v => [⟨path, .forbidden v⟩], fun _ _ => false, fun _ _ => false⟩

end Checker

/-- The faults of an object that lacks members. -/
def requiredFaults (keys : List Json) (members : List (String × Json)) : List Fault :=
  (keys.filterMap Json.string?).filterMap fun key =>
    if hasKey key members then none else some (.missing key)

/-- These members of an object are required. -/
def Checker.requiring (keys : List Json) : Checker :=
  { anything with
    violations := fun path v =>
      match v with
      | .object members => (requiredFaults keys members).map (⟨path, ·⟩)
      | _ => [] }

/-- What is in the value of a keyword: the checkers of schemas, and expressions, read once. -/
inductive Inner where
  /-- It goes on to no schema. -/
  | nothing
  /-- It is an expression. -/
  | expression (r? : Option Regex)
  /-- It goes on to one. -/
  | schema (checker : Checker)
  /-- It goes on to those of a list. -/
  | list (checkers : List Checker)
  /-- It goes on to those of an object. -/
  | named (checkers : List (String × Checker))
  /-- It goes on to those of an object whose keys are expressions. -/
  | matched (checkers : List (Option Regex × Checker))

/-- A keyword of a schema. -/
structure Keyword where
  /-- Its name. -/
  name : String
  /-- Its value. -/
  argument : Json
  /-- What it goes on to. -/
  inner : Inner

namespace Keyword

/-- The checker that a keyword goes on to. -/
def checker? (k : Keyword) : Option Checker :=
  match k.inner with
  | .schema c => some c
  | _ => none

/-- The checkers of a list that a keyword goes on to. -/
def checkers (k : Keyword) : List Checker :=
  match k.inner with
  | .list cs => cs
  | _ => []

/-- The checkers with names that a keyword goes on to. -/
def named (k : Keyword) : List (String × Checker) :=
  match k.inner with
  | .named cs => cs
  | _ => []

/-- The checkers under expressions that a keyword goes on to. -/
def matched (k : Keyword) : List (Option Regex × Checker) :=
  match k.inner with
  | .matched cs => cs
  | _ => []

/-- Whether an expression is known to match in a text. -/
def matchesIn (r? : Option Regex) (s : String) : Bool :=
  r?.any fun r => r.matchesIn? s.toList == some true

/-- The faults of a text that an expression has to match in. -/
def patternFaults (r? : Option Regex) (pattern s : String) : List Fault :=
  match r?.map (·.matchesIn? s.toList) with
  | some (some true) => []
  | some none => [.unanswered]
  | _ => [.noMatch (.string s) pattern]

/-- The keyword with a name among those of a schema. -/
def find? (name : String) (all : List Keyword) : Option Keyword := all.find? (·.name == name)

/-- The value of a keyword among those of a schema. -/
def argument? (name : String) (all : List Keyword) : Option Json :=
  (find? name all).map (·.argument)

/-! ## Keywords that go on to no schema -/

/-- Whether a value has a type. In draft 4 an integer is written as one. -/
def hasType (dialect : Dialect) (v : Json) (type : String) : Bool :=
  match v with
  | .null => type == "null"
  | .bool _ => type == "boolean"
  | .number (.int _) => type == "number" || type == "integer"
  | .number n => type == "number" || (type == "integer" && dialect != .draft4 && n.isInteger)
  | .string _ => type == "string"
  | .array _ => type == "array"
  | .object _ => type == "object"

/-- The types that a value of the keyword names, in the order in which a message lists them. -/
def namedTypes : Json → List String
  | .string type => [type]
  | .array items => Form.typeNames.filter fun type => items.any (·.string? == some type)
  | _ => []

/-- A number between zero and one, or any other, as a quotient: it is multiplied by ten, and
rounded each time, until it is whole. The second number counts how often. -/
def decimalQuotient (steps : Nat) (x : Binary64) (tens : Nat) : Option (Rat × Nat) :=
  match steps, x.toRat? with
  | _, none => none
  | 0, some r => some (r, tens)
  | steps + 1, some r =>
    if r.den = 1 then some (r, tens)
    else decimalQuotient steps (x.mul (Binary64.ofInt 10)) (tens + 1)

/-- Whether a number is a multiple of another one. Multiples of an integer are integers; for
other divisors the rounded quotient may not exceed an integer by more than the least step. A
quotient that is too large to be rounded is computed from the divisor as a decimal. -/
def isMultiple (n : Number) (divisor : Binary64) : Bool :=
  match n.toBinary64.toRat?, divisor.toRat? with
  | some x, some d =>
    if d.den = 1 then x.den = 1 && x.num % d.num == 0
    else
      match (Binary64.div n.toBinary64 divisor).toRat? with
      | some q => q - Int.tdiv q.num q.den < mkRat 1 (Nat.pow 2 52)
      | none =>
        match decimalQuotient 400 divisor 0 with
        | some (r, tens) => (x * (Nat.pow 10 tens : Nat) / r).den = 1
        | none => false
  | _, _ => false

/-- The faults of a number under a bound, which is not admitted itself if it is excluded. -/
def boundFaults (isMinimum excluded : Bool) (limit n : Number) : List Fault :=
  let order := Number.compare? n limit
  let (v, limit) := (Json.number n, Json.number limit)
  match isMinimum, excluded with
  | true, false => if order == some .lt then [.belowMinimum v limit] else []
  | false, false => if order == some .gt then [.aboveMaximum v limit] else []
  | true, true => if order == some .gt then [] else [.notAboveMinimum v limit]
  | false, true => if order == some .lt then [] else [.notBelowMaximum v limit]

/-- Whether a mark beside a bound excludes the bound, as it may in draft 4. -/
def isExcluded (dialect : Dialect) (all : List Keyword) (mark : String) : Bool :=
  match argument? mark all with
  | some (.bool excluded) => dialect == .draft4 && excluded
  | _ => false

/-- The faults of a number. -/
def numberFaults (dialect : Dialect) (all : List Keyword) (key : String) (limit n : Number) :
    List Fault :=
  match key with
  | "minimum" => boundFaults true (isExcluded dialect all "exclusiveMinimum") limit n
  | "maximum" => boundFaults false (isExcluded dialect all "exclusiveMaximum") limit n
  | "exclusiveMinimum" => boundFaults true true limit n
  | "exclusiveMaximum" => boundFaults false true limit n
  | "multipleOf" =>
    if isMultiple n limit.toBinary64 then []
    else [.notMultiple (.number n) limit.toBinary64]
  | _ => []

/-- The faults of a size, which has to be at least or at most a limit. -/
def sizeFaults (size : Nat) (limit : Nat) (atLeast : Bool) (fault : Nat → Fault) : List Fault :=
  if (atLeast && size < limit) || (!atLeast && limit < size) then [fault limit] else []

/-- The faults of a value under a keyword that counts. -/
def countFaults (key : String) (limit : Nat) (v : Json) : List Fault :=
  match key, v with
  | "minLength", .string s => sizeFaults s.length limit true (.tooShort v)
  | "maxLength", .string s => sizeFaults s.length limit false (.tooLong v)
  | "minItems", .array items => sizeFaults items.length limit true (.tooFewItems v)
  | "maxItems", .array items => sizeFaults items.length limit false (.tooManyItems v)
  | "minProperties", .object members => sizeFaults members.length limit true (.tooFewMembers v)
  | "maxProperties", .object members => sizeFaults members.length limit false (.tooManyMembers v)
  | _, _ => []

/-- The faults of a text whose content has a type. If it is encoded too, what it encodes has the
type. -/
def mediaTypeFaults (mediaType : String) (encoding? : Option Json) (s : String) : List Fault :=
  let v := Json.string s
  match mediaType? mediaType with
  | none => []
  | some ok =>
    match encoding? with
    | none => if ok s then [] else [.otherMediaType v mediaType]
    | some encoding =>
      match encoding.string?.bind fun name => (JsonSchema.encoding? name).map (name, ·) with
      | none => []
      | some (name, decode?) =>
        match decode? s with
        | none => [.otherEncoding v name]
        | some bytes =>
          match Text.notText? bytes, String.fromUTF8? ⟨bytes.toArray⟩ with
          | none, some content => if ok content then [] else [.otherMediaType v mediaType]
          | some (done, bad?), _ => [.notText done bad?]
          | none, none => []

/-- The faults of a text. -/
def textFaults (dialect : Dialect) (all : List Keyword) (key argument s : String) :
    List Fault :=
  let v := Json.string s
  match key with
  | "format" =>
    match dialect.format? argument with
    | some ok => if ok s.toList then [] else [.otherFormat v argument]
    | none => []
  | "contentEncoding" =>
    if !dialect.checksContent || (find? "contentMediaType" all).isSome then []
    else
      match encoding? argument with
      | some decode? => if (decode? s).isSome then [] else [.otherEncoding v argument]
      | none => []
  | "contentMediaType" =>
    if dialect.checksContent then
      mediaTypeFaults argument (argument? "contentEncoding" all) s
    else []
  | _ => []

/-- The faults of an object that lacks what its members depend on: `argument` has the names for
each member. -/
def dependentFaults (argument : Json) (members : List (String × Json)) : List Fault :=
  match argument with
  | .object dependencies =>
    dependencies.flatMap fun (key, names) =>
      match names with
      | .array names => if hasKey key members then requiredFaults names members else []
      | _ => []
  | _ => []

/-- Whether a value is the constant: numbers may differ by less than the least step. -/
def isConstant : Json → Json → Bool
  | .number a, .number b => a.isClose b
  | a, b => Json.equivalent a b

/-- The faults of a value under a keyword that leads to no other schema. -/
def plainFaults (dialect : Dialect) (all : List Keyword) (key : String) (argument v : Json) :
    List Fault :=
  match key, argument, v with
  | "type", types, v =>
    let types := namedTypes types
    if types.any (hasType dialect v) then [] else [.wrongType v types]
  | "enum", .array values, v => if values.any (Json.equivalent v) then [] else [.notListed v values]
  | "const", value, v =>
    if dialect = .draft4 || isConstant value v then [] else [.notConstant value]
  | "required", .array keys, .object members => requiredFaults keys members
  | "dependentRequired", names, .object members =>
    if dialect.isSince .draft2019 then dependentFaults names members else []
  | "uniqueItems", .bool true, .array items =>
    if Json.allDistinct items then [] else [.equalItems v]
  | key, .string argument, .string s => textFaults dialect all key argument s
  | key, .number limit, .number n => numberFaults dialect all key limit n
  | key, argument, v =>
    match Form.count? argument with
    | some limit => countFaults key limit v
    | none => []

/-! ## Members -/

/-- What checkers with names do not admit about the members with these names. -/
def propertyViolations (properties : List (String × Checker)) (path : List Step) (v : Json) :
    List Violation :=
  properties.flatMap fun (key, c) =>
    match v.get? key with
    | some member => c.violations (path ++ [.member key]) member
    | none => []

/-- What the checkers under expressions that match in a key do not admit about the member with this
key, which stands at `path`. -/
def matchedViolations (patterns : List (Option Regex × Checker)) (path : List Step)
    (key : String) (v : Json) : List Violation :=
  patterns.flatMap fun (r?, c) => if matchesIn r? key then c.violations path v else []

/-- Whether a member is declared, or its key is matched by an expression. -/
def isDescribed (properties : List (String × Checker)) (patterns : List (Option Regex × Checker))
    (key : String) : Bool :=
  hasKey key properties || patterns.any fun (r?, _) => matchesIn r? key

/-- Whether all members are checked together, because others than the declared ones are checked
or not allowed. -/
def checksOthers (all : List Keyword) : Bool :=
  match argument? "additionalProperties" all with
  | some (.bool allowed) => !allowed
  | some (.object _) => true
  | _ => false

/-- The keyword does not admit a value unless a list is empty. -/
def unlessEmpty {α : Type} (path : List Step) (fault : List α → Fault) : List α → List Violation
  | [] => []
  | things => [⟨path, fault things⟩]

/-- What is not admitted about the members of an object, one after the other: about the declared
ones and those whose keys are matched what is said about these, and about the others what `other?`
says. If it is absent, there may be no others. -/
def memberViolations (properties : List (String × Checker))
    (patterns : List (Option Regex × Checker)) (other? : Option Checker) (path : List Step)
    (members : List (String × Json)) : List Violation :=
  members.flatMap (fun (key, v) =>
    let path := path ++ [.member key]
    if isDescribed properties patterns key then
      ((findKey? key properties).map (·.violations path v)).getD [] ++
        matchedViolations patterns path key v
    else (other?.map (·.violations path v)).getD []) ++
  if other?.isSome then []
  else
    unlessEmpty path .unexpected
      ((members.map (·.1)).filter (!isDescribed properties patterns ·))

/-- What is not admitted about the members of an object where the declared ones and the others
are checked together. An object that may have no members at all is represented by the first one. -/
def otherViolations (all : List Keyword) (k : Keyword) (path : List Step)
    (members : List (String × Json)) : List Violation :=
  let properties := ((find? "properties" all).map named).getD []
  let patterns := ((find? "patternProperties" all).map matched).getD []
  match k.argument with
  | .bool false =>
    if (find? "properties" all).isNone && (find? "patternProperties" all).isNone then
      match members with
      | (_, v) :: _ => [⟨path, .forbidden v⟩]
      | [] => []
    else memberViolations properties patterns none path members
  | .object _ => memberViolations properties patterns k.checker? path members
  | _ => []

/-! ## Items -/

/-- What checkers do not admit about the items at their positions, from a position on. -/
def positionViolations (checkers : List Checker) (path : List Step) (index : Nat)
    (items : List Json) : List Violation :=
  match checkers, items with
  | c :: checkers, item :: items =>
    c.violations (path ++ [.item index]) item ++ positionViolations checkers path (index + 1) items
  | _, _ => []

/-- What a checker does not admit about the items from a position on. -/
def itemViolations (c : Checker) (path : List Step) (start : Nat) (items : List Json) :
    List Violation :=
  (items.drop start).zipIdx.flatMap fun (item, i) =>
    c.violations (path ++ [.item (start + i)]) item

/-- How many items are described one by one by a keyword of a schema. -/
def positions (name : String) (all : List Keyword) : Nat :=
  match argument? name all with
  | some (.array schemas) => schemas.length
  | _ => 0

/-- What is not admitted about the items of a list beyond those that are described one by one.
Where no item is admitted, no value is. -/
def furtherViolations (all : List Keyword) (k : Keyword) (path : List Step) (v : Json) :
    List Violation :=
  match argument? "items" all with
  | some (.bool false) => [⟨path, .forbidden v⟩]
  | some (.array schemas) =>
    match k.argument, v with
    | .bool false, .array items =>
      if items.length ≤ schemas.length then []
      else [⟨path, .unexpectedItems (items.drop schemas.length)⟩]
    | .object _, .array items =>
      match k.checker? with
      | some c => itemViolations c path schemas.length items
      | none => []
    | _, _ => []
  | _ => []

/-- Whether a list has as many items that are looked for as it has to: at least one, unless a
younger dialect says how many. -/
def containsEnough (dialect : Dialect) (all : List Keyword) (c : Checker) (items : List Json) :
    Bool :=
  let found := (items.filter c.accepts).length
  let bound? (name : String) : Option Nat :=
    if dialect.isSince .draft2019 then (argument? name all).bind Form.count? else none
  (bound? "minContains").getD 1 ≤ found && (bound? "maxContains").all (found ≤ ·)

/-! ## Alternatives -/

/-- The violation of alternatives of which one has to describe the value. -/
def anyOfViolations (branches : List Checker) (path : List Step) (v : Json) : List Violation :=
  if branches.any (·.accepts v) then [] else [⟨path, .noBranch v "anyOf"⟩]

/-- The violation of alternatives of which exactly one has to describe the value. -/
def oneOfViolations (branches : List Checker) (path : List Step) (v : Json) : List Violation :=
  match (branches.filter (·.accepts v)).length with
  | 0 => [⟨path, .noBranch v "oneOf"⟩]
  | 1 => []
  | _ => [⟨path, .severalBranches v⟩]

/-- The checker that counts after a condition: one of the keywords `then` and `else`. -/
def branch? (all : List Keyword) (condition : Checker) (v : Json) : Option Checker :=
  (find? (if condition.accepts v then "then" else "else") all).bind checker?

/-! ## What is said about members and items -/

/-- The checkers of other schemas that a keyword asks about a value as a whole, where these count
for what they say about its members and items. -/
def inPlace (all : List Keyword) (k : Keyword) (v : Json) : List Checker :=
  match k.name with
  | "$ref" | "$dynamicRef" | "$recursiveRef" => k.checker?.toList
  | "allOf" | "anyOf" => k.checkers.filter (·.accepts v)
  | "oneOf" =>
    match k.checkers.filter (·.accepts v) with
    | [c] => [c]
    | _ => []
  | "if" =>
    match k.checker? with
    | some c => (if c.accepts v then [c] else []) ++ (branch? all c v).toList
    | none => []
  | "dependentSchemas" => (k.named.filter fun (key, _) => (v.get? key).isSome).map (·.2)
  | _ => []

/-- Whether a keyword says something about the member of a value with a key, and admits it. -/
def coversKey (all : List Keyword) (k : Keyword) (v : Json) (key : String) : Bool :=
  (k.inPlace all v).any (·.coversKey v key) ||
    (v.get? key).any fun member =>
      match k.name with
      | "properties" => (findKey? key k.named).any (·.accepts member)
      | "patternProperties" => k.matched.any fun (r?, c) => matchesIn r? key && c.accepts member
      | "additionalProperties" | "unevaluatedProperties" => k.checker?.any (·.accepts member)
      | _ => false

/-- Whether a keyword says something about the item of a value at a position. -/
def coversItem (dialect : Dialect) (all : List Keyword) (k : Keyword) (v : Json) (index : Nat) :
    Bool :=
  (k.inPlace all v).any (·.coversItem v index) ||
    match v with
    | .array items =>
      items[index]?.any fun item =>
        match k.name with
        | "items" =>
          match k.argument with
          | .array schemas => index < schemas.length
          | _ => true
        | "prefixItems" => index < k.checkers.length
        | "additionalItems" =>
          match argument? "items" all with
          | some (.array _) => k.checker?.any (·.accepts item)
          | _ => false
        | "contains" => dialect = .draft2020 && k.checker?.any (·.accepts item)
        | "unevaluatedItems" => k.checker?.any (·.accepts item)
        | _ => false
    | _ => false

/-- The members that no other keyword says anything about, and that the keyword does not admit. -/
def unevaluatedMembers (all : List Keyword) (k : Keyword) (v : Json) : List String :=
  match v, k.checker? with
  | .object members, some c =>
    let others := all.filter (·.name != k.name)
    (members.filter fun (key, member) =>
      !others.any (·.coversKey others v key) && !c.accepts member).map (·.1)
  | _, _ => []

/-- The items that no other keyword says anything about, and that the keyword does not admit. -/
def unevaluatedItems (dialect : Dialect) (all : List Keyword) (k : Keyword) (v : Json) :
    List Json :=
  match v, k.checker? with
  | .array items, some c =>
    let others := all.filter (·.name != k.name)
    (items.zipIdx.filter fun (item, i) =>
      !others.any (·.coversItem dialect others v i) && !c.accepts item).map (·.1)
  | _, _ => []

/-! ## Keywords -/

/-- What a keyword that goes on to other schemas, or is an expression, does not admit, if it is one
here. -/
def innerViolations? (dialect : Dialect) (all : List Keyword) (k : Keyword) (path : List Step)
    (v : Json) : Option (List Violation) :=
  match k.name, k.inner with
  | "$ref", .schema c | "$dynamicRef", .schema c | "$recursiveRef", .schema c =>
    some (c.violations path v)
  | "allOf", .list cs => some (cs.flatMap (·.violations path v))
  | "anyOf", .list cs => some (anyOfViolations cs path v)
  | "oneOf", .list cs => some (oneOfViolations cs path v)
  | "not", .schema c => some (if c.accepts v then [⟨path, .excluded k.argument v⟩] else [])
  | "if", .schema c =>
    match branch? all c v with
    | some branch => some (branch.violations path v)
    | none => some []
  | "properties", .named cs =>
    some (if checksOthers all then [] else propertyViolations cs path v)
  | "pattern", .expression r? =>
    match v, k.argument with
    | .string s, .string pattern =>
      some ((patternFaults r? pattern s).map (⟨path, ·⟩))
    | _, _ => some []
  | "patternProperties", .matched cs =>
    match v with
    | .object members =>
      some (if checksOthers all then []
        else cs.flatMap fun pattern => members.flatMap fun (key, v) =>
          matchedViolations [pattern] (path ++ [.member key]) key v)
    | _ => some []
  | "additionalProperties", .schema _ =>
    match v with
    | .object members => some (otherViolations all k path members)
    | _ => some []
  | "propertyNames", .schema c =>
    match v with
    | .object members =>
      match k.argument with
      | .bool false => some (if members.isEmpty then [] else [⟨path, .forbidden v⟩])
      | _ => some (members.flatMap fun (key, _) =>
          (c.violations path (.string key)).map fun violation => { violation with path })
    | _ => some []
  | "dependencies", .named cs | "dependentSchemas", .named cs =>
    match v with
    | .object members =>
      some (cs.flatMap fun (key, c) => if hasKey key members then c.violations path v else [])
    | _ => some []
  | "items", .schema c =>
    match v with
    | .array items => some (itemViolations c path (positions "prefixItems" all) items)
    | _ => some []
  | "items", .list cs | "prefixItems", .list cs =>
    match v with
    | .array items => some (positionViolations cs path 0 items)
    | _ => some []
  | "additionalItems", .schema _ => some (furtherViolations all k path v)
  | "contains", .schema c =>
    match v with
    | .array items =>
      some (if containsEnough dialect all c items then [] else [⟨path, .otherContents v⟩])
    | _ => some []
  | "unevaluatedProperties", .schema _ =>
    some (unlessEmpty path .unevaluatedMembers (unevaluatedMembers all k v))
  | "unevaluatedItems", .schema _ =>
    some (unlessEmpty path .unevaluatedItems (unevaluatedItems dialect all k v))
  | "then", .schema _ | "else", .schema _ => some []
  | _, _ => none

/-- What a keyword of a schema does not admit about a value at a place; `all` has the keywords of
the schema. -/
def violations (dialect : Dialect) (all : List Keyword) (k : Keyword) (path : List Step)
    (v : Json) : List Violation :=
  match innerViolations? dialect all k path v with
  | some found => found
  | none =>
    (plainFaults dialect all k.name k.argument v).map fun fault =>
      ⟨if fault.isPlaced then path else [], fault⟩

end Keyword

/-- What a schema with these keywords means. -/
def Checker.ofKeywords (dialect : Dialect) (all : List Keyword) : Checker :=
  { violations := fun path v => all.flatMap (·.violations dialect all path v)
    coversKey := fun v key => all.any (·.coversKey all v key)
    coversItem := fun v index => all.any (·.coversItem dialect all v index) }

end ChartSchema.JsonSchema
