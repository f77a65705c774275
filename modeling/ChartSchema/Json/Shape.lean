import ChartSchema.Json.Basic
import ChartSchema.Text.Base64
import ChartSchema.Text.Moment
/-!
# Shapes of JSON values

A shape says which JSON values a typed reader accepts: a record takes any object whose known
members have their shapes, where a member that is absent or null is left out, and a member that
the record does not know may be anything.
-/

namespace ChartSchema

/-- What a JSON value has to look like. -/
inductive Shape where
  /-- Any value. -/
  | anything
  /-- A text. -/
  | text
  /-- A text that writes a moment. -/
  | moment
  /-- A text that writes bytes. -/
  | bytes
  /-- A truth value. -/
  | flag
  /-- An integer of a signed word of so many bits. -/
  | integer (bits : Nat)
  /-- A number. -/
  | number
  /-- A list of values of one shape. -/
  | list (item : Shape)
  /-- An object whose values have one shape. -/
  | map (value : Shape)
  /-- An object with known members. -/
  | record (fields : List (String × Shape))
  deriving Repr, Inhabited

namespace Shape

/-- Whether a number is an integer of a signed word of so many bits. -/
def fitsInteger (bits : Nat) : Number → Bool
  | .int n => -(Nat.pow 2 (bits - 1) : Int) ≤ n && n < Nat.pow 2 (bits - 1)
  | .float _ => false

mutual

/-- Whether a value has a shape. -/
def fits (shape : Shape) (v : Json) : Bool :=
  match shape with
  | .anything => true
  | .text => match v with
    | .string _ => true
    | _ => false
  | .moment => match v with
    | .string s => Text.isMoment s.toList
    | _ => false
  | .bytes => match v with
    | .string s => (Text.Base64.decode? s.toList).isSome
    | _ => false
  | .flag => match v with
    | .bool _ => true
    | _ => false
  | .integer bits => match v with
    | .number n => fitsInteger bits n
    | _ => false
  | .number => match v with
    | .number _ => true
    | _ => false
  | .list item => match v with
    | .array items => items.all (fits item ·)
    | _ => false
  | .map value => match v with
    | .object members => members.all fun member => fits value member.2
    | _ => false
  | .record fields => match v with
    | .object members => fieldsFit fields members
    | _ => false
termination_by structural shape

/-- Whether the members that a record knows have their shapes. -/
def fieldsFit (fields : List (String × Shape)) (members : List (String × Json)) : Bool :=
  match fields with
  | [] => true
  | (key, shape) :: rest =>
    (match findKey? key members with
      | none | some .null => true
      | some v => fits shape v) && fieldsFit rest members
termination_by structural fields

end

end Shape
end ChartSchema
