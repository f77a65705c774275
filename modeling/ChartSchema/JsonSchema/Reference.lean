import ChartSchema.Json.Pointer
import ChartSchema.JsonSchema.Standard
import ChartSchema.Net.Uri
/-!
# References between schemas

A schema may refer to another one: by a pointer into the document, by the name of a place, or by
the name of a resource. A `Registry` knows the resources of a document, which are the document
and the schemas in it that have names, and the places in them that have names.

A reference is read where it stands: relative to the resource around it. A dynamic name stands
for the outermost of the places with this name in the resources that were passed on the way, so a
`Way` says which they are.
-/

namespace ChartSchema.JsonSchema

open Net

/-! ## Names -/

/-- The name of a document that has none. -/
def unnamed : String := "json-schema:///"

/-- A text without the number signs at its end. -/
def withoutSigns (s : String) : String :=
  String.ofList (s.toList.reverse.dropWhile (· == '#')).reverse

namespace Dialect

/-- The keyword that names a resource. -/
def nameKey (dialect : Dialect) : String := if dialect = .draft4 then "id" else "$id"

/-- The name that a schema gives itself, relative to the resource around it. In older dialects a
schema that refers to another one has none, and a name that starts with a number sign is that of a
place. -/
def name? (dialect : Dialect) (members : List (String × Json)) : Option String :=
  match findKey? dialect.nameKey members with
  | some (.string name) =>
    if !dialect.isSince .draft2019 && (hasKey "$ref" members || name.toList.head? == some '#')
    then none
    else some (withoutSigns name)
  | _ => none

/-- The names of the place where a schema stands, and whether each is dynamic. -/
def placeNames (dialect : Dialect) (members : List (String × Json)) : List (String × Bool) :=
  let text? (key : String) : Option String := (findKey? key members).bind Json.string?
  let static := (text? "$anchor").toList.map (·, false)
  match dialect with
  | .draft2020 => static ++ (text? "$dynamicAnchor").toList.map (·, true)
  | .draft2019 => static
  | _ =>
    match (text? dialect.nameKey).map String.toList with
    | some ('#' :: name) => [(String.ofList name, false)]
    | _ => []

end Dialect

/-- The resource that a reference names where it stands in the resource `base`. -/
def resolveName? (base reference : String) : Option String :=
  let s := reference.toList
  if s.head? == some '#' && Text.endsWith s base.toList then some base
  else
    (Uri.parse? .ascii s).map fun uri =>
      String.ofList (((Uri.split base.toList).resolve uri).normal.render)

/-! ## Scopes -/

/-- A way through resources. -/
structure Way where
  /-- The resource at its end. -/
  base : String
  /-- The resources before it, last one first. -/
  passed : List String := []
  deriving Repr, DecidableEq

namespace Way

/-- Go on into a resource. -/
def pass (way : Way) (base : String) : Way :=
  if way.passed.isEmpty || base != way.base then
    { base, passed := way.base :: way.passed }
  else { way with base }

/-- Go on into a schema of the resource, which may be a resource of its own. -/
def enter (dialect : Dialect) (way : Way) (members : List (String × Json)) : Way :=
  match (dialect.name? members).bind (resolveName? way.base) with
  | some base => way.pass base
  | none => way

end Way

/-- A schema that a reference leads to. -/
structure Target where
  /-- Its dialect. -/
  dialect : Dialect
  /-- The way to it. -/
  way : Way
  /-- The schema. -/
  schema : Json

/-! ## The schemas of a document -/

/-- A schema of a document, where it stands and what it says. -/
structure Subschema where
  /-- How many schemas are around it. -/
  level : Nat
  /-- Its dialect. -/
  dialect : Dialect
  /-- The resource around it, or that it is. -/
  base : String
  /-- Its members. -/
  members : List (String × Json)

/-- The lists of schemas that are found one after the other, unless one is not found. -/
def bothFound (a b : Option (List Subschema)) : Option (List Subschema) := do
  return (← a) ++ (← b)

mutual

/-- The schemas in a schema, itself included. There are none if one of them names a dialect that
is not known, or gives itself a name that is no reference. -/
def subschemas? (dialect : Dialect) (base : String) (level : Nat) (schema : Json) :
    Option (List Subschema) :=
  match schema with
  | .object members =>
    (dialect.detect? members).bind fun dialect =>
      (match dialect.name? members with
        | some name => resolveName? base name
        | none => some base).bind fun base =>
          (inKeywords? dialect base (level + 1) members).map
            (⟨level, dialect, base, members⟩ :: ·)
  | _ => some []
termination_by structural schema

/-- The schemas under the keywords of a schema. -/
def inKeywords? (dialect : Dialect) (base : String) (level : Nat)
    (members : List (String × Json)) : Option (List Subschema) :=
  match members with
  | [] => some []
  | (key, v) :: rest =>
    bothFound
      (match dialect.holds key with
        | .nothing => some []
        | .schema => subschemas? dialect base level v
        | .list => inValues? dialect base level v
        | .schemaOrList =>
          bothFound (subschemas? dialect base level v) (inList? dialect base level v)
        | .named => inValues? dialect base level v)
      (inKeywords? dialect base level rest)
termination_by structural members

/-- The schemas that the items of a list, or the values of an object, are. -/
def inValues? (dialect : Dialect) (base : String) (level : Nat) (v : Json) :
    Option (List Subschema) :=
  match v with
  | .array items => inItems? dialect base level items
  | .object members => inMembers? dialect base level members
  | _ => some []
termination_by structural v

/-- The schemas that the items of a list are. -/
def inList? (dialect : Dialect) (base : String) (level : Nat) (v : Json) :
    Option (List Subschema) :=
  match v with
  | .array items => inItems? dialect base level items
  | _ => some []
termination_by structural v

/-- The schemas that some values are. -/
def inItems? (dialect : Dialect) (base : String) (level : Nat) (items : List Json) :
    Option (List Subschema) :=
  match items with
  | [] => some []
  | v :: rest =>
    bothFound (subschemas? dialect base level v) (inItems? dialect base level rest)
termination_by structural items

/-- The schemas that the values of members are. -/
def inMembers? (dialect : Dialect) (base : String) (level : Nat)
    (members : List (String × Json)) : Option (List Subschema) :=
  match members with
  | [] => some []
  | (_, v) :: rest =>
    bothFound (subschemas? dialect base level v) (inMembers? dialect base level rest)
termination_by structural members

end

/-! ## Registries -/

/-- A place that has a name. -/
structure NamedPlace where
  /-- The resource that it is in. -/
  base : String
  /-- Its name. -/
  name : String
  /-- Whether the name is dynamic. -/
  isDynamic : Bool
  /-- The dialect of the schema there. -/
  dialect : Dialect
  /-- The schema there. -/
  schema : Json

/-- The resources that references may name, and their places with names. Of two with one name the
last one counts. -/
structure Registry where
  /-- The resources. -/
  resources : List (String × Dialect × Json)
  /-- The places. -/
  places : List NamedPlace

namespace Registry

/-- The resource of a name. -/
def resource? (registry : Registry) (base : String) : Option (Dialect × Json) :=
  findKey? base registry.resources.reverse

/-- The place of a name in a resource. -/
def place? (registry : Registry) (base name : String) : Option NamedPlace :=
  registry.places.reverse.find? fun place => place.base == base && place.name == name

/-- The resource of a reference and what the reference says behind the number sign. -/
def splitReference? (base reference : String) : Option (String × List Char) :=
  match reference.toList with
  | '#' :: fragment => some (base, fragment)
  | s =>
    if s.contains '#' then
      let fragment := (s.reverse.takeWhile (· != '#')).reverse
      (resolveName? base (String.ofList (s.take (s.length - fragment.length - 1)))).map
        (·, fragment)
    else (resolveName? base reference).map (·, [])

/-- The bytes of a text whose escapes are undone. -/
def unescapedBytes : List Char → List UInt8
  | [] => []
  | '%' :: a :: b :: r =>
    let value (c : Char) : Nat :=
      if c.isDigit then c.toNat - '0'.toNat else c.toUpper.toNat - 'A'.toNat + 10
    if isHexDigit a && isHexDigit b then
      UInt8.ofNat (value a * 16 + value b) :: unescapedBytes r
    else '%'.toUInt8 :: unescapedBytes (a :: b :: r)
  | c :: r => (String.singleton c).toUTF8.toList ++ unescapedBytes r

/-- A text whose escapes are undone, if what they write is text. -/
def unescaped? (s : List Char) : Option (List Char) :=
  (String.fromUTF8? ⟨(unescapedBytes s).toArray⟩).map String.toList

/-- Where a step of a pointer leads to. -/
inductive Standing where
  /-- To a schema. -/
  | schema
  /-- To values that are schemas. -/
  | schemas
  /-- To something else. -/
  | elsewhere
  deriving DecidableEq

/-- Where a step from somewhere to a value leads to. -/
def Standing.next (dialect : Dialect) (standing : Standing) (step : List Char) (v : Json) :
    Standing :=
  match standing with
  | .schema =>
    match dialect.holds (String.ofList (Json.Pointer.unescape step)), v with
    | .schema, _ | .schemaOrList, .object _ => .schema
    | .list, _ | .named, _ | .schemaOrList, .array _ => .schemas
    | _, _ => .elsewhere
  | .schemas => .schema
  | .elsewhere => .elsewhere

/-- The value that the steps of a pointer lead to, and the way to it. Schemas with names that the
steps pass through are passed. -/
def walk? (dialect : Dialect) (standing : Standing) (way : Way) (v : Json) :
    List (List Char) → Option (Way × Json)
  | [] => some (way, v)
  | step :: steps =>
    match Json.Pointer.step? v step with
    | none => none
    | some inner =>
      let standing := standing.next dialect step inner
      let way := match standing, inner with
        | .schema, .object members => way.enter dialect members
        | _, _ => way
      walk? dialect standing way inner steps

/-- The outermost dynamic place with a name on a way, or else `place`. -/
def outermost (registry : Registry) (place : NamedPlace) (way : Way) : NamedPlace :=
  way.passed.foldl (fun last base =>
    match registry.place? base place.name with
    | some outer => if outer.isDynamic then outer else last
    | none => last) place

/-- What a reference leads to where it stands. -/
def lookup? (registry : Registry) (way : Way) (reference : String) : Option Target :=
  if (Uri.parse? .ascii reference.toList).isNone then none
  else
    match splitReference? way.base reference with
    | none => none
    | some (base, fragment) =>
      match registry.resource? base with
      | none => none
      | some (dialect, schema) =>
        let way := way.pass base
        match fragment with
        | [] => some { dialect, way, schema }
        | '/' :: _ => do
          let pointer ← unescaped? fragment.tail
          let (way, schema) ←
            walk? dialect .schema way schema (Text.splitOn (· == '/') pointer)
          return { dialect, way, schema }
        | name => do
          let place ← registry.place? base (String.ofList name)
          if place.isDynamic then
            let place := registry.outermost place way
            let way := match place.schema with
              | .object members => way.enter place.dialect members
              | _ => way
            return { dialect := place.dialect, way, schema := place.schema }
          else return { dialect := place.dialect, way, schema := place.schema }

/-- Whether a schema says that references to it may go on outwards. -/
def goesOut (schema : Json) : Bool :=
  match schema.get? "$recursiveAnchor" with
  | some (.bool b) => b
  | _ => false

/-- The outermost of the resources on a way that say so, without a gap between them. -/
def outwards (registry : Registry) (way : Way) (target : Target) : List String → Target
  | [] => target
  | base :: rest =>
    match registry.lookup? way base with
    | some next => if goesOut next.schema then outwards registry way next rest else target
    | none => target

/-- What a reference to the resource around it leads to: the outermost resource on the way, where
the resources say so. -/
def lookupRecursive? (registry : Registry) (way : Way) : Option Target :=
  (registry.lookup? way "#").map fun target =>
    if goesOut target.schema then registry.outwards way target way.passed else target

/-! ## The registry of a document -/

/-- The registry of some schemas. Schemas that are not inside others come first. -/
def ofSubschemas (schemas : List Subschema) : Registry :=
  let ordered := schemas.mergeSort fun a b => decide (a.level ≤ b.level)
  { resources := ordered.filterMap fun s =>
      if s.level = 0 || (s.dialect.name? s.members).isSome then
        some (s.base, s.dialect, .object s.members)
      else none
    places := ordered.flatMap fun s =>
      (s.dialect.placeNames s.members).map fun (name, isDynamic) =>
        { base := s.base, name, isDynamic, dialect := s.dialect, schema := .object s.members } }

/-- The registry of the schemas of all dialects. -/
def standard : Registry :=
  ofSubschemas (Standard.all.flatMap fun (dialect, schema) =>
    (subschemas? dialect unnamed 0 schema).getD [])

/-- A registry that knows what two registries know. -/
def append (a b : Registry) : Registry :=
  { resources := a.resources ++ b.resources, places := a.places ++ b.places }

/-- Whether the resource that a schema refers to is known. References into the same resource are
not looked at, nor are those to the schemas of the dialects. -/
def knows (registry : Registry) (schema : Subschema) : Bool :=
  match findKey? "$ref" schema.members with
  | some (.string reference) =>
    let standard := ["https://json-schema.org/draft/", "http://json-schema.org/draft-"]
    if reference.toList.head? == some '#' ||
      standard.any fun lead => Text.startsWith lead.toList reference.toList then true
    else
      match splitReference? schema.base reference with
      | some (base, _) => (registry.resource? base).isSome
      | none => false
  | _ => true

/-- The name of a document. -/
def rootName? (dialect : Dialect) (document : Json) : Option String :=
  match document with
  | .object members =>
    match dialect.name? members with
    | some name => resolveName? unnamed name
    | none => some unnamed
  | _ => some unnamed

/-- The registry of a document, if the names in it can be read, and the resources that it refers
to are known. -/
def ofDocument? (dialect : Dialect) (document : Json) : Option Registry := do
  let schemas ← subschemas? dialect unnamed 0 document
  let own := ofSubschemas schemas
  if schemas.all own.knows then some (standard.append own) else none

end Registry
end ChartSchema.JsonSchema
