import ChartSchema.Crd.Node
import ChartSchema.Proofs.Json.Members
/-!
# The keywords of a node

A node is written as JSON keyword by keyword, and what is read from it again is found by keyword.
`SchemaNode.slots` lists the keywords that a node may have, each with its value if it has one.
What is found in the JSON form of a node under a keyword is what stands in its slot, so readers
of nodes need not know how members are collected and sorted.
-/

namespace ChartSchema

/-! ## Lists with gaps -/

/-- The pairs that have a value. -/
def filled (slots : List (String × Option Json)) : List (String × Json) :=
  slots.flatMap fun slot => keywordMember slot.1 id slot.2

/-- The keys of the pairs that have a value stand in the order of the slots. -/
theorem keys_filled_sublist (slots : List (String × Option Json)) :
    ((filled slots).map (·.1)).Sublist (slots.map (·.1)) := by
  induction slots with
  | nil => exact List.Sublist.refl _
  | cons slot rest ih =>
    obtain ⟨key, value?⟩ := slot
    cases value? with
    | none => exact ih.cons _
    | some value => exact ih.cons_cons _

theorem findKey?_filled {key : String} {slots : List (String × Option Json)}
    (hnodup : (slots.map (·.1)).Nodup) :
    findKey? key (filled slots) = (findKey? key slots).join := by
  induction slots with
  | nil => rfl
  | cons slot rest ih =>
    obtain ⟨k, value?⟩ := slot
    rw [List.map_cons, List.nodup_cons] at hnodup
    rw [filled, List.flatMap_cons, findKey?_append, findKey?_cons]
    refine (congrArg _ (ih hnodup.2)).trans ?_
    by_cases hk : k = key
    · -- The key is that of the slot, so no later slot has it.
      have hnone : findKey? key rest = none := findKey?_eq_none.mpr (hk ▸ hnodup.1)
      rw [if_pos hk, hnone, Option.join_none, Option.or_none]
      cases value? with
      | none => rfl
      | some value => exact if_pos hk
    · rw [if_neg hk]
      cases value? with
      | none => rfl
      | some value =>
        have hone : findKey? key (keywordMember k id (some value)) = none := if_neg hk
        rw [hone, Option.none_or]

theorem keywordMember_write {α : Type} (key : String) (write : α → Json) (value? : Option α) :
    keywordMember key write value? = keywordMember key id (value?.map write) := by
  cases value? <;> rfl

/-- The keywords that lead to no other node, each with its value if it has one. -/
def Facets.slots (f : Facets) : List (String × Option Json) :=
  [("description", f.description?.map .string),
   ("default", f.default?),
   ("enum", f.enum?.map .array),
   ("format", f.format?.map .string),
   ("pattern", f.pattern?.map .string),
   ("minimum", f.minimum?.map .float),
   ("maximum", f.maximum?.map .float),
   ("exclusiveMinimum", f.exclusiveMinimum?.map .bool),
   ("exclusiveMaximum", f.exclusiveMaximum?.map .bool),
   ("multipleOf", f.multipleOf?.map .float),
   ("minLength", f.minLength?.map .int),
   ("maxLength", f.maxLength?.map .int),
   ("minItems", f.minItems?.map .int),
   ("maxItems", f.maxItems?.map .int),
   ("uniqueItems", f.uniqueItems?.map .bool),
   ("minProperties", f.minProperties?.map .int),
   ("maxProperties", f.maxProperties?.map .int),
   ("required", f.required?.map Json.strings),
   ("nullable", f.nullable?.map .bool),
   ("x-kubernetes-int-or-string", f.intOrString?.map .bool),
   ("x-kubernetes-preserve-unknown-fields", f.preserveUnknown?.map .bool),
   ("x-kubernetes-list-type", f.listType?.map .string),
   ("x-kubernetes-list-map-keys", f.listMapKeys?.map Json.strings)]

/-- The members that facets have are their filled slots. -/
theorem Facets.members_eq (f : Facets) : f.members = filled f.slots := by
  unfold Facets.members
  simp only [keywordMember_write _ Json.string, keywordMember_write _ Json.array,
    keywordMember_write _ Json.float, keywordMember_write _ Json.bool,
    keywordMember_write _ Json.int, keywordMember_write _ Json.strings,
    filled, slots, List.flatMap_cons, List.flatMap_nil, List.append_assoc, List.append_nil]

namespace SchemaNode

/-- The JSON form of what members without a property are. -/
def additionalValue : OrBool SchemaNode → Json
  | .bool allowed => .bool allowed
  | .value node => node.toJson

/-- **The keywords of a node**, each with its value if it has one. -/
def slots (node : SchemaNode) : List (String × Option Json) :=
  ("type", node.type?.map .string) :: (node.facets.slots ++
    [("properties", node.properties?.map fun ps => .object (ps.map fun p => (p.1, p.2.toJson))),
     ("items", node.items?.map toJson),
     ("additionalProperties", node.additional?.map additionalValue),
     ("anyOf", node.anyOf?.map fun nodes => .array (nodes.map toJson))])

theorem slots_keys_nodup (node : SchemaNode) : (node.slots.map (·.1)).Nodup := by
  show ((slots {}).map (·.1)).Nodup
  decide +kernel

theorem propertiesJson_eq (properties? : Option (List (String × SchemaNode))) :
    propertiesJson properties? = keywordMember "properties" id
      (properties?.map fun ps => .object (ps.map fun p => (p.1, p.2.toJson))) := by
  have hmembers (properties : List (String × SchemaNode)) :
      propertyMembers properties = properties.map fun p => (p.1, p.2.toJson) := by
    induction properties with
    | nil => rfl
    | cons p rest ih => rw [propertyMembers, ih, List.map_cons]
  cases properties? with
  | none => rfl
  | some properties => rw [propertiesJson, hmembers]; rfl

theorem itemsJson_eq (items? : Option SchemaNode) :
    itemsJson items? = keywordMember "items" id (items?.map toJson) := by
  cases items? <;> rfl

theorem additionalJson_eq (additional? : Option (OrBool SchemaNode)) :
    additionalJson additional?
      = keywordMember "additionalProperties" id (additional?.map additionalValue) := by
  rcases additional? with - | - | - <;> rfl

theorem anyOfJson_eq (anyOf? : Option (List SchemaNode)) :
    anyOfJson anyOf?
      = keywordMember "anyOf" id (anyOf?.map fun nodes => .array (nodes.map toJson)) := by
  have hnodes (nodes : List SchemaNode) : nodesJson nodes = nodes.map toJson := by
    induction nodes with
    | nil => rfl
    | cons node rest ih => rw [nodesJson, ih, List.map_cons]
  cases anyOf? with
  | none => rfl
  | some nodes => rw [anyOfJson, hnodes]; rfl

/-- **The JSON form of a node has its filled slots**, if no keywords are carried along. Every
keyword has one slot, so this is a table of all that a node can say. -/
theorem toJson_eq {node : SchemaNode} (hothers : node.others = []) :
    node.toJson = .object (sortKeys (filled node.slots)) := by
  obtain ⟨type?, facets, properties?, items?, additional?, anyOf?, others⟩ := node
  obtain rfl := hothers
  rw [toJson, List.append_nil, propertiesJson_eq, itemsJson_eq, additionalJson_eq, anyOfJson_eq,
    Facets.members_eq, keywordMember_write "type"]
  refine congrArg (fun members => Json.object (sortKeys members)) ?_
  rw [filled, filled, slots, List.flatMap_cons, List.flatMap_append, List.flatMap_cons,
    List.flatMap_cons, List.flatMap_cons, List.flatMap_cons, List.flatMap_nil]
  simp only [List.append_assoc, List.append_nil]

/-- **What is found in the JSON form of a node is what stands in the slot.** So keywords are looked
up, and the order in which they are written does not matter. -/
theorem get?_toJson {node : SchemaNode} (hothers : node.others = []) (key : String) :
    node.toJson.get? key = (findKey? key node.slots).join := by
  rw [toJson_eq hothers, Json.get?, findKey?_sortKeys, findKey?_filled node.slots_keys_nodup]
  exact node.slots_keys_nodup.sublist (keys_filled_sublist _)

end SchemaNode

end ChartSchema
