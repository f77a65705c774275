import ChartSchema.Compatibility.Property
import ChartSchema.Proofs.Crd.Slots
/-!
# The property that a node describes

A property is read from the JSON form of a node, with tolerance for everything that a node of
another maker may hold. For the nodes of this library the reading is exact: `SchemaNode.view`
gives the property directly, and `SchemaNode.view_eq` is its equation, in which nothing of the
detour over JSON is left.
-/

namespace ChartSchema

/-! ## What readers of members find -/

namespace Rules

variable {members : List (String × Json)} {key : String}

/-- A text is found where one was written. -/
theorem text?_of_find {text? : Option String} (h : findKey? key members = text?.map .string) :
    Rules.text? members key = text? := by
  rw [Rules.text?, h]
  cases text? <;> rfl

theorem number?_of_find {x? : Option Binary64} (h : findKey? key members = x?.map .float) :
    number? members key = x? := by
  rw [number?, h]
  cases x? <;> rfl

/-- A truth value is found where one was written, and nothing is as good as false. -/
theorem flag_of_find {b? : Option Bool} (h : findKey? key members = b?.map .bool) :
    flag members key = b?.getD false := by
  rw [flag, h]
  cases b? <;> rfl

theorem list?_of_find {values? : Option (List Json)}
    (h : findKey? key members = values?.map .array) : list? members key = values? := by
  rw [list?, h]
  cases values? <;> rfl

theorem count?_of_find {n? : Option Int} (h : findKey? key members = n?.map .int) :
    count? members key = n?.bind fun n => if 0 ≤ n then some n.toNat else none := by
  rw [count?, h]
  cases n? <;> rfl

/-- A bound is found with its mark. -/
theorem bound_of_find {limit exclusive : String} {x? : Option Binary64} {b? : Option Bool}
    (hlimit : findKey? limit members = x?.map .float)
    (hexclusive : findKey? exclusive members = b?.map .bool) :
    bound members limit exclusive = (x?, b?.getD false) := by
  rw [bound, hexclusive, number?_of_find hlimit]
  cases b? <;> rfl

theorem texts_of_find {texts? : Option (List String)}
    (h : findKey? key members = texts?.map Json.strings) :
    ((list? members key).getD []).filterMap Json.string? = texts?.getD [] := by
  rw [list?, h]
  cases texts? with
  | none => rfl
  | some texts =>
    show (texts.map Json.string).filterMap Json.string? = texts
    rw [List.filterMap_map]
    exact List.filterMap_some

end Rules

/-- A count as it is compared. -/
def Facets.natural? (n? : Option Int) : Option Nat :=
  n?.bind fun n => if 0 ≤ n then some n.toNat else none

/-- **What facets say about a value**, as it is compared. -/
def Facets.rules (f : Facets) : Rules :=
  { description? := f.description?, default? := f.default?, format? := f.format?
    pattern? := f.pattern?, enum? := f.enum?, minimum? := f.minimum?, maximum? := f.maximum?
    exclusiveMinimum := f.exclusiveMinimum?.getD false
    exclusiveMaximum := f.exclusiveMaximum?.getD false, multipleOf? := f.multipleOf?
    minLength? := natural? f.minLength?, maxLength? := natural? f.maxLength?
    minItems? := natural? f.minItems?, maxItems? := natural? f.maxItems?
    uniqueItems := f.uniqueItems?.getD false
    minProperties? := natural? f.minProperties?, maxProperties? := natural? f.maxProperties?
    nullable := f.nullable?.getD false, required := f.required?.getD []
    preserveUnknown := f.preserveUnknown?.getD false }

/-- The type of the values of a node, as it is compared. -/
def SchemaNode.propertyType (node : SchemaNode) : PropertyType :=
  if node.facets.intOrString?.getD false then .intOrString
  else
    match node.type? with
    | some name => .ofName name
    | none => if node.facets.preserveUnknown?.getD false then .any else .object

namespace Property

theorem propertiesOf_eq (members : List (String × Json)) :
    propertiesOf members = ((findKey? "properties" members).map ofMap).getD [] := by
  induction members with
  | nil => rfl
  | cons member rest ih =>
    rw [propertiesOf, findKey?_cons, ih]
    split <;> rfl

theorem itemsOf?_eq (members : List (String × Json)) :
    itemsOf? members = (findKey? "items" members).map ofJson := by
  induction members with
  | nil => rfl
  | cons member rest ih =>
    rw [itemsOf?, findKey?_cons, ih]
    split <;> rfl

/-- What is said about members without a property. -/
def additionalOfJson (v : Json) : OrBool Property :=
  match v with
  | .bool allowed => .bool allowed
  | v => .value (ofJson v)

/-- What is said about members without a property is read under its keyword. -/
theorem additionalOf?_eq (members : List (String × Json)) :
    additionalOf? members = (findKey? "additionalProperties" members).map additionalOfJson := by
  induction members with
  | nil => rfl
  | cons member rest ih =>
    obtain ⟨key, v⟩ := member
    unfold additionalOf?
    rw [findKey?_cons]
    split
    · cases v <;> rfl
    · exact ih

theorem ofEach_eq (members : List (String × Json)) :
    ofEach members = members.map fun member => (member.1, ofJson member.2) := by
  induction members with
  | nil => rfl
  | cons member rest ih => rw [ofEach, ih, List.map_cons]

end Property

namespace SchemaNode

/-- The property that a node describes. -/
def view (node : SchemaNode) : Property := .ofJson node.toJson

/-- What a node says about members without a property, as it is compared. -/
def viewAdditional : OrBool SchemaNode → OrBool Property
  | .bool allowed => .bool allowed
  | .value node => .value node.view

variable {node : SchemaNode} {members : List (String × Json)}

theorem ofMembers_propertyType
    (hfind : ∀ key, findKey? key members = (findKey? key node.slots).join) :
    PropertyType.ofMembers members = node.propertyType := by
  show (if Rules.flag members "x-kubernetes-int-or-string" then PropertyType.intOrString
    else
      match Rules.text? members "type" with
      | some name => .ofName name
      | none => if Rules.flag members "x-kubernetes-preserve-unknown-fields" then .any else .object)
    = if node.facets.intOrString?.getD false then .intOrString
      else
        match node.type? with
        | some name => .ofName name
        | none => if node.facets.preserveUnknown?.getD false then .any else .object
  rw [Rules.flag_of_find (hfind "x-kubernetes-int-or-string"), Rules.text?_of_find (hfind "type"),
    Rules.flag_of_find (hfind "x-kubernetes-preserve-unknown-fields")]

/-- What is said about the value is read as it was written. -/
theorem ofMembers_rules
    (hfind : ∀ key, findKey? key members = (findKey? key node.slots).join) :
    Rules.ofMembers members = node.facets.rules := by
  have hdefault : findKey? "default" members = node.facets.default? := hfind "default"
  unfold Rules.ofMembers
  rw [Rules.bound_of_find (hfind "minimum") (hfind "exclusiveMinimum"),
    Rules.bound_of_find (hfind "maximum") (hfind "exclusiveMaximum"), hdefault,
    Rules.text?_of_find (hfind "description"), Rules.text?_of_find (hfind "format"),
    Rules.text?_of_find (hfind "pattern"), Rules.list?_of_find (hfind "enum"),
    Rules.number?_of_find (hfind "multipleOf"), Rules.count?_of_find (hfind "minLength"),
    Rules.count?_of_find (hfind "maxLength"), Rules.count?_of_find (hfind "minItems"),
    Rules.count?_of_find (hfind "maxItems"), Rules.flag_of_find (hfind "uniqueItems"),
    Rules.count?_of_find (hfind "minProperties"), Rules.count?_of_find (hfind "maxProperties"),
    Rules.flag_of_find (hfind "nullable"), Rules.texts_of_find (hfind "required"),
    Rules.flag_of_find (hfind "x-kubernetes-preserve-unknown-fields")]
  rfl

/-- **The property that a node describes has what the node says.** Its JSON form is read slot by
slot, and no slot takes the place of another one. -/
theorem view_eq (hothers : node.others = []) :
    node.view = {
      type := node.propertyType, rules := node.facets.rules
      properties := (node.properties?.getD []).map fun p => (p.1, p.2.view)
      items? := node.items?.map view, additional? := node.additional?.map viewAdditional } := by
  have hfind (key : String) :
      findKey? key (sortKeys (filled node.slots)) = (findKey? key node.slots).join := by
    have h := get?_toJson hothers key
    rwa [toJson_eq hothers] at h
  rw [view, toJson_eq hothers, Property.ofJson, ofMembers_propertyType hfind,
    ofMembers_rules hfind, Property.propertiesOf_eq, Property.itemsOf?_eq,
    Property.additionalOf?_eq, hfind, hfind, hfind]
  congr 1
  · show ((node.properties?.map _).map Property.ofMap).getD [] = _
    cases node.properties? with
    | none => rfl
    | some properties =>
      show Property.ofEach (properties.map _) = properties.map _
      rw [Property.ofEach_eq, List.map_map]
      rfl
  · show (node.items?.map toJson).map Property.ofJson = _
    rw [Option.map_map]
    rfl
  · show (node.additional?.map additionalValue).map Property.additionalOfJson = _
    rw [Option.map_map]
    congr 1
    funext additional
    -- A node is written as an object, so it is not taken for a truth value.
    cases additional with
    | bool allowed => rfl
    | value node => cases node; rfl

end SchemaNode
end ChartSchema
