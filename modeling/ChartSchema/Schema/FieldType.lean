import ChartSchema.Text.Basic
/-!
# Field types and type hints

A field of a schema is a single value or a list of values. A `TypeRef` is the type of a single
value: a scalar, a struct of the schema, a map from strings, a list inside a list, a type known
only by its name, or nothing known at all.

A **hint** is a type written in a comment: `[]T` for a list, `map[string]T` for a map, a name
otherwise, with blanks allowed around each part. The printed form of a type is again a hint;
it is the same expression with the blanks gone and the names of scalars in one spelling.
-/

namespace ChartSchema

mutual

/-- The type of a single value. -/
inductive TypeRef where
  /-- A whole number. -/
  | integer
  /-- A number. -/
  | float
  /-- A text. -/
  | string
  /-- A truth value. -/
  | boolean
  /-- A struct of the schema, by name. -/
  | struct (name : String)
  /-- A map from strings to values of one type. -/
  | map (value : FieldType)
  /-- A list as the element of a list. -/
  | list (element : TypeRef)
  /-- A type given by a hint and kept as it was written. -/
  | named (name : String)
  /-- Neither an example value nor a hint says what the type is. -/
  | unknown
  deriving Repr, Inhabited

/-- The type of a field. -/
inductive FieldType where
  /-- One value. -/
  | single (type : TypeRef)
  /-- A list of values. -/
  | list (element : TypeRef)
  deriving Repr, Inhabited

end

deriving instance DecidableEq for TypeRef, FieldType

/-! ## Hints -/

namespace Text

theorem length_trimEnd_le (s : List Char) : (trimEnd s).length ≤ s.length := by
  induction s with
  | nil => simp [trimEnd]
  | cons c r ih =>
    cases h : trimEnd r with
    | nil => simp only [trimEnd, h]; split <;> simp
    | cons d kept => simpa [trimEnd, h] using ih

theorem length_trim_le (s : List Char) : (trim s).length ≤ s.length :=
  Nat.le_trans (length_trimEnd_le _) (List.dropWhile_sublist _).length_le

theorem length_of_after? {lead s r : List Char} (h : after? lead s = some r) :
    s.length = lead.length + r.length := by
  rw [eq_append_of_after? h, List.length_append]

end Text

/-- What a list hint starts with. -/
def listLead : List Char := ['[', ']']

/-- What a map hint starts with. -/
def mapLead : List Char := "map[string]".toList

/-- The type that a name in a hint stands for: a scalar under one of its names, or the name
itself. -/
def TypeRef.ofName (name : String) : TypeRef :=
  if ["int", "int8", "int16", "int32", "int64", "integer", "uint", "uint8", "uint16", "uint32",
      "uint64"].contains name then .integer
  else if ["float", "float32", "float64", "number", "double"].contains name then .float
  else if ["bool", "boolean"].contains name then .boolean
  else if ["string", "str"].contains name then .string
  else .named name

/-- The type that a hint says, as a single value. What follows `map[string]` is the type of a
field, so a list there is a list field. -/
def TypeRef.ofHint (hint : List Char) : TypeRef :=
  match _h₁ : Text.after? listLead (Text.trim hint) with
  | some element => .list (TypeRef.ofHint element)
  | none =>
    match _h₂ : Text.after? mapLead (Text.trim hint) with
    | some value =>
      match _h₃ : Text.after? listLead (Text.trim value) with
      | some element => .map (.list (TypeRef.ofHint element))
      | none => .map (.single (TypeRef.ofHint value))
    | none => .ofName (String.ofList (Text.trim hint))
termination_by hint.length
decreasing_by
  · have := Text.length_of_after? _h₁
    have := Text.length_trim_le hint
    simp only [listLead, List.length_cons] at *
    omega
  · have := Text.length_of_after? _h₂
    have := Text.length_of_after? _h₃
    have := Text.length_trim_le hint
    have := Text.length_trim_le value
    simp only [listLead, List.length_cons] at *
    omega
  · have := Text.length_of_after? _h₂
    have := Text.length_trim_le hint
    have : 0 < mapLead.length := by decide
    omega

namespace FieldType

/-- The type that a hint says for a field: a leading `[]` makes it a list. -/
def ofHint (hint : List Char) : FieldType :=
  match Text.after? listLead (Text.trim hint) with
  | some element => .list (TypeRef.ofHint element)
  | none => .single (TypeRef.ofHint hint)

/-- The single value type, or the element type of a list. -/
def base : FieldType → TypeRef
  | .single type => type
  | .list element => element

/-- The type that a hint says for a field whose value is a list: a hint without `[]` names the
element. -/
def ofSequenceHint (hint : List Char) : FieldType :=
  .list (ofHint hint).base

/-- Whether the field is a list. -/
def isList : FieldType → Bool
  | .single _ => false
  | .list _ => true

/-- The element type of a list. -/
def element? : FieldType → Option TypeRef
  | .single _ => none
  | .list element => some element

end FieldType

/-! ## Printed forms -/

mutual

/-- The printed form of the type of a single value. -/
def TypeRef.text (type : TypeRef) : String :=
  match type with
  | .integer => "integer"
  | .float => "float"
  | .string => "string"
  | .boolean => "boolean"
  | .struct name => name
  | .map value => "map[string]" ++ value.text
  | .list element => "[]" ++ element.text
  | .named name => name
  | .unknown => "unknown"
termination_by structural type

/-- The printed form of the type of a field. -/
def FieldType.text (type : FieldType) : String :=
  match type with
  | .single type => type.text
  | .list element => "[]" ++ element.text
termination_by structural type

end

/-- Whether nothing is known about the type. -/
def TypeRef.isUnknown : TypeRef → Bool
  | .unknown => true
  | _ => false

/-- The name of the struct that the type is, if it is one. -/
def TypeRef.struct? : TypeRef → Option String
  | .struct name => some name
  | _ => none

end ChartSchema
