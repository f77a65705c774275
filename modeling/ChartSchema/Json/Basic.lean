import ChartSchema.Number.Basic
/-!
# JSON values

`Json` keeps the members of an object as a list of pairs. A list in increasing order of its
keys, each key once, is the **canonical form**; `Json.canonical` brings every object of a value
into it, the last of several members with one key winning. Objects that this library builds
are canonical because they are built with `insertKey`.
-/

namespace ChartSchema

/-! ## Members in key order -/

/-- The value of the first pair with this key. -/
def findKey? {α : Type} (key : String) : List (String × α) → Option α
  | [] => none
  | (k, v) :: rest => if k = key then some v else findKey? key rest

/-- Whether some pair has this key. -/
def hasKey {α : Type} (key : String) (pairs : List (String × α)) : Bool :=
  (findKey? key pairs).isSome

/-- Put a value under a key of a list in increasing key order, in place of the one it had. -/
def insertKey {α : Type} (key : String) (value : α) : List (String × α) → List (String × α)
  | [] => [(key, value)]
  | (k, v) :: rest =>
    if key < k then (key, value) :: (k, v) :: rest
    else if key = k then (key, value) :: rest
    else (k, v) :: insertKey key value rest

/-- The pairs in increasing key order; of several pairs with one key the last one stays. -/
def sortKeys {α : Type} (pairs : List (String × α)) : List (String × α) :=
  pairs.foldl (fun sorted pair => insertKey pair.1 pair.2 sorted) []

/-- The pairs without those that have this key. -/
def eraseKey {α : Type} (key : String) (pairs : List (String × α)) : List (String × α) :=
  pairs.filter (·.1 != key)

/-! ## Values -/

/-- A JSON value. -/
inductive Json where
  /-- The null value. -/
  | null
  /-- A truth value. -/
  | bool (value : Bool)
  /-- A number. -/
  | number (value : Number)
  /-- A text. -/
  | string (value : String)
  /-- A list of values. -/
  | array (items : List Json)
  /-- Named members. -/
  | object (members : List (String × Json))
  deriving Repr, Inhabited

namespace Json

/-- An integer as a value. -/
def int (n : Int) : Json := .number (.int n)

/-- A list of texts as a value. -/
def strings (texts : List String) : Json := .array (texts.map .string)

/-- The member of an object with this key. -/
def get? (key : String) : Json → Option Json
  | .object members => findKey? key members
  | _ => none

/-- The text of a string value. -/
def string? : Json → Option String
  | .string s => some s
  | _ => none

mutual

/-- The value with every object in canonical form. -/
def canonical (v : Json) : Json :=
  match v with
  | .array items => .array (canonicalItems items)
  | .object members => .object (sortKeys (canonicalMembers members))
  | v => v
termination_by structural v

/-- `canonical` on each item of a list. -/
def canonicalItems (items : List Json) : List Json :=
  match items with
  | [] => []
  | v :: rest => v.canonical :: canonicalItems rest
termination_by structural items

/-- `canonical` on each value of a list of members. -/
def canonicalMembers (members : List (String × Json)) : List (String × Json) :=
  match members with
  | [] => []
  | (k, v) :: rest => (k, v.canonical) :: canonicalMembers rest
termination_by structural members

end

mutual

/-- Equality of values whose numbers are compared by `eqNumber`. Members of canonical objects
are in one order, so they are compared pair by pair. -/
def sameBy (eqNumber : Number → Number → Bool) (a b : Json) : Bool :=
  match a, b with
  | .null, .null => true
  | .bool x, .bool y => x == y
  | .number x, .number y => eqNumber x y
  | .string x, .string y => x == y
  | .array xs, .array ys => sameItems eqNumber xs ys
  | .object xs, .object ys => sameMembers eqNumber xs ys
  | _, _ => false
termination_by structural a

/-- `sameBy` item by item. -/
def sameItems (eqNumber : Number → Number → Bool) (xs ys : List Json) : Bool :=
  match xs, ys with
  | [], [] => true
  | x :: xs, y :: ys => sameBy eqNumber x y && sameItems eqNumber xs ys
  | _, _ => false
termination_by structural xs

/-- `sameBy` member by member. -/
def sameMembers (eqNumber : Number → Number → Bool) (xs ys : List (String × Json)) : Bool :=
  match xs, ys with
  | [], [] => true
  | (k, x) :: xs, (l, y) :: ys => k == l && sameBy eqNumber x y && sameMembers eqNumber xs ys
  | _, _ => false
termination_by structural xs

end

/-- Equality of values, where `1` and `1.0` differ. -/
def same : Json → Json → Bool := sameBy Number.same

/-- Equality of values by what they measure, where `1` and `1.0` are equal. -/
def equivalent : Json → Json → Bool := sameBy Number.equivalent

/-- Equality of values by what they measure, where zeros of different signs differ. -/
def indistinct : Json → Json → Bool :=
  sameBy fun x y => x.equivalent y && x.isNegativeZero == y.isNegativeZero

/-- Whether no two items of a list are equal. The sign of a zero tells items apart only in lists
of more than fifteen. -/
def allDistinct (items : List Json) : Bool :=
  let eq := if items.length ≤ 15 then equivalent else indistinct
  let rec noneEqual : List Json → Bool
    | [] => true
    | v :: rest => !rest.any (eq v) && noneEqual rest
  noneEqual items

mutual

/-- How deep lists and objects are nested in a value. -/
def depth (v : Json) : Nat :=
  match v with
  | .array items => 1 + depthItems items
  | .object members => 1 + depthMembers members
  | _ => 0
termination_by structural v

/-- The largest depth of a list of values. -/
def depthItems (items : List Json) : Nat :=
  match items with
  | [] => 0
  | v :: rest => max v.depth (depthItems rest)
termination_by structural items

/-- The largest depth of the values of members. -/
def depthMembers (members : List (String × Json)) : Nat :=
  match members with
  | [] => 0
  | (_, v) :: rest => max v.depth (depthMembers rest)
termination_by structural members

end

mutual

/-- How many values there are in a value, itself included. -/
def count (v : Json) : Nat :=
  match v with
  | .array items => 1 + countItems items
  | .object members => 1 + countMembers members
  | _ => 1
termination_by structural v

/-- How many values there are in a list of values. -/
def countItems (items : List Json) : Nat :=
  match items with
  | [] => 0
  | v :: rest => v.count + countItems rest
termination_by structural items

/-- How many values there are in the values of members. -/
def countMembers (members : List (String × Json)) : Nat :=
  match members with
  | [] => 0
  | (_, v) :: rest => v.count + countMembers rest
termination_by structural members

end

end Json
end ChartSchema
