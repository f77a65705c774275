import ChartSchema.Text.Alphanumeric
import ChartSchema.Text.Basic
import ChartSchema.Text.Case
import ChartSchema.Schema.Options
/-!
# Names of fields and structs

`identifier` turns a key of a document into a name: the pieces of the key between separators
are joined with their first letters in upper case, and every other character that is neither a
letter nor a digit is dropped.

`structName` is the name a key gives to the struct of its mapping. Several keys may want one
name; a `NameRegistry` hands out names so that no two structs share one. A name wanted only
once is given as it is. Where it is taken, or known to be wanted by several structs, the parent's
identifier goes before it, and where that is taken as well, the least free number from 2 on goes
behind.
-/

namespace ChartSchema

/-- The characters that separate the pieces of a key. -/
def isKeySeparator (c : Char) : Bool :=
  c == '_' || c == '-' || c == '.' || c == '/' || c == ':'

/-- A piece of a key as a part of a name: its letters and digits, the first in upper case. -/
def identifierPart (piece : List Char) : List Char :=
  match piece.filter Text.isAlphanumeric with
  | [] => []
  | first :: rest => Text.upper first ++ rest

/-- The name of a key. A key without letters and digits is called `Field`, and a name that
would start with a digit starts with `X`. -/
def identifier (key : String) : String :=
  match (Text.splitOn isKeySeparator key.toList).flatMap identifierPart with
  | [] => "Field"
  | c :: rest => String.ofList (if c.isDigit then 'X' :: c :: rest else c :: rest)

/-- The struct name a key gives: its identifier, and the suffix of the options unless it ends
with that or with another known suffix. -/
def structName (options : BuildOptions) (key : String) : String :=
  let name := identifier key
  let known := (options.knownSuffixes ++ [options.structSuffix]).any fun suffix =>
    !suffix.isEmpty && Text.endsWith suffix.toList name.toList
  if known then name else name ++ options.structSuffix

/-- The struct names in use, and those that several structs want. -/
structure NameRegistry where
  /-- The names that have been given. -/
  reserved : List String
  /-- The names that are never given without the parent before them. -/
  shared : List String
  deriving Repr

namespace NameRegistry

/-- The registry in which no name is given yet. -/
def ofShared (shared : List String) : NameRegistry := ⟨[], shared⟩

/-- Whether a name has been given. -/
def isReserved (registry : NameRegistry) (name : String) : Bool :=
  registry.reserved.contains name

/-- Take a name; the answer says whether it was free. -/
def reserve (registry : NameRegistry) (name : String) : Bool × NameRegistry :=
  if registry.isReserved name then (false, registry)
  else (true, { registry with reserved := name :: registry.reserved })

/-- The first of `name ++ counter`, `name ++ (counter + 1)`, … that is free, among `steps`
many; if all of them are taken, the next one. -/
def firstNumbered (registry : NameRegistry) (name : String) : (steps counter : Nat) → String
  | 0, counter => name ++ toString counter
  | steps + 1, counter =>
    if registry.isReserved (name ++ toString counter) then
      firstNumbered registry name steps (counter + 1)
    else name ++ toString counter

/-- The name for a struct that wants `wanted` and whose parent's key is `parent`. As many
numbers are tried as there are names in use, so one of them is free. -/
def freshName (registry : NameRegistry) (wanted parent : String) : String :=
  if !registry.shared.contains wanted && !registry.isReserved wanted then wanted
  else
    let prefixed := identifier parent ++ wanted
    if !registry.isReserved prefixed then prefixed
    else registry.firstNumbered prefixed registry.reserved.length 2

/-- Give the struct of `key` below `parent` a name that no other struct has. -/
def uniqueName (registry : NameRegistry) (options : BuildOptions) (key parent : String) :
    String × NameRegistry :=
  let name := registry.freshName (structName options key) parent
  (name, { registry with reserved := name :: registry.reserved })

end NameRegistry
end ChartSchema
