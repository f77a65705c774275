import ChartSchema.Schema.Document
/-!
# The census of struct names

Before any struct is named, the census lists the name that each struct of a document wants, once
per struct. A name in the list more than once is **shared**, and no struct gets it as it is.

The census follows the structs that will be built. An empty mapping with a hint makes none. A
list makes one if its first item is a mapping, and the keys of its mappings are followed where
each occurs first, because their later occurrences are merged into that one.
-/

namespace ChartSchema.Census

open Yaml (Value)

mutual

/-- The names wanted by the value of a key. -/
def ofValue (ctx : DocumentContext) (key : String) (place : Place) (v : Value) : List String :=
  match v with
  | .tagged _ inner => ofValue ctx key place inner
  | .mapping entries =>
    if entries.isEmpty && ctx.hasHint place then []
    else structName ctx.options key :: ofEntries ctx place entries
  | .sequence items =>
    if startsWithMapping items then
      structName ctx.options key :: ofItems ctx place 0 [] items
    else []
  | _ => []
termination_by structural v

/-- The names wanted below the entries of a mapping. -/
def ofEntries (ctx : DocumentContext) (place : Place) (entries : List (Value × Value)) :
    List String :=
  match entries with
  | [] => []
  | (key, v) :: rest =>
    (match keyText? key with
      | some key => ofValue ctx key (place.key key) v
      | none => []) ++ ofEntries ctx place rest
termination_by structural entries

/-- The names wanted below the items of a list; `seen` holds the keys of the items before. -/
def ofItems (ctx : DocumentContext) (place : Place) (position : Nat) (seen : List String)
    (items : List Value) : List String :=
  match items with
  | [] => []
  | item :: rest =>
    let (names, seen) := ofItem ctx (place.index position) seen item
    names ++ ofItems ctx place (position + 1) seen rest
termination_by structural items

/-- The names wanted below an item of a list, and the keys seen after it. -/
def ofItem (ctx : DocumentContext) (place : Place) (seen : List String) (item : Value) :
    List String × List String :=
  match item with
  | .tagged _ inner => ofItem ctx place seen inner
  | .mapping entries => ofNewEntries ctx place seen entries
  | _ => ([], seen)
termination_by structural item

/-- The names wanted below those entries whose key was not seen before. -/
def ofNewEntries (ctx : DocumentContext) (place : Place) (seen : List String)
    (entries : List (Value × Value)) : List String × List String :=
  match entries with
  | [] => ([], seen)
  | (key, v) :: rest =>
    match keyText? key with
    | none => ofNewEntries ctx place seen rest
    | some key =>
      if seen.contains key then ofNewEntries ctx place seen rest
      else
        let names := ofValue ctx key (place.key key) v
        let (others, seen) := ofNewEntries ctx place (key :: seen) rest
        (names ++ others, seen)
termination_by structural entries

end

/-- The names wanted by the structs of a document, the resource itself aside. -/
def ofRoot (ctx : DocumentContext) (place : Place) (entries : List (Value × Value)) :
    List String :=
  entries.flatMap fun (key, v) =>
    match keyText? key with
    | some key => if reservedKeys.contains key then [] else ofValue ctx key (place.key key) v
    | none => []

/-- The names that more than one struct wants. -/
def shared (names : List String) : List String :=
  names.filter fun name => 1 < names.count name

end ChartSchema.Census
