import ChartSchema.Proofs.Crd.Defaults
/-!
# Generated schemas are structural

A cluster takes a resource definition only if its schema is **structural**: at every node it is
clear what the value is, from a type or from one of the two marks that stand for a type, and
members are described in one way only. `SchemaNode.IsStructural` says this of a single node, and
`Crd.ofSchema_structural` that it holds at every node of a definition, however deep.

Of the forms of generated nodes each is structural (`SchemaNode.Generated.isStructural`), and the
markers, which may replace a node by another one, keep these forms; so there is nothing to be said
here about markers. What remains is the root of the schema, where the fields of the resource meet
the properties that every resource has. The latter are put in last and would replace a field of
the same key; but the walk passes over the entries at the root that have such a key, so that no
field of the root has one (`Walk.resolveRoot_notReserved`).
-/

namespace ChartSchema

open Yaml (Value)

/-! ## Structural nodes -/

namespace SchemaNode

/-- **A node of a structural schema.** -/
structure IsStructural (node : SchemaNode) : Prop where
  /-- The node has a type, or it is marked as an integer or a text, or it keeps all members. -/
  typed : (∃ type ∈ ["object", "array", "string", "integer", "number", "boolean"],
      node.type? = some type) ∨
    node.type? = none ∧
      (node.facets.intOrString? = some true ∧
          node.anyOf? = some [SchemaNode.typed "integer", SchemaNode.typed "string"] ∨
        node.facets.preserveUnknown? = some true)
  /-- A list says what its items are. -/
  items : node.type? = some "array" → node.items?.isSome = true
  /-- Members are described by their keys or all at once, but not both. -/
  members : node.properties? = none ∨ node.additional? = none
  /-- What has to be there is described. -/
  required : ∀ key ∈ node.facets.required?.getD [], key ∈ node.declared.map (·.1)

variable {node : SchemaNode}

/-- Each form of generated nodes is structural. -/
theorem Generated.isStructural (h : node.Generated) : node.IsStructural := by
  have hnone {f : Facets} (hplain : f.Plain) (keys : List String) :
      ∀ key ∈ f.required?.getD [], key ∈ keys := by
    rw [hplain.required]
    exact fun _ hkey => absurd hkey List.not_mem_nil
  have hobject : some "object" ≠ some "array" := by decide
  cases h with
  | @scalar type f htype _ hplain =>
    refine ⟨Or.inl ⟨type, ?_, rfl⟩, fun harray => ?_, Or.inl rfl, hnone hplain _⟩
    · simp only [List.mem_cons, List.not_mem_nil, or_false] at htype ⊢
      rcases htype with rfl | rfl | rfl | rfl <;> decide
    · obtain rfl := Option.some.inj harray
      exact absurd htype (by decide)
  | anything hpreserved _ hplain =>
    exact ⟨Or.inr ⟨rfl, Or.inr hpreserved⟩, nofun, Or.inl rfl, hnone hplain _⟩
  | object _ hplain =>
    exact ⟨Or.inl ⟨"object", by decide, rfl⟩, fun harray => absurd harray hobject, Or.inl rfl,
      hnone hplain _⟩
  | intOrString hset hrequired _ =>
    refine ⟨Or.inr ⟨rfl, Or.inl ⟨hset, rfl⟩⟩, nofun, Or.inl rfl, ?_⟩
    rw [hrequired]
    exact fun _ hkey => absurd hkey List.not_mem_nil
  | list _ _ hplain =>
    exact ⟨Or.inl ⟨"array", by decide, rfl⟩, fun _ => rfl, Or.inl rfl, hnone hplain _⟩
  | map _ _ hplain =>
    exact ⟨Or.inl ⟨"object", by decide, rfl⟩, fun harray => absurd harray hobject, Or.inl rfl,
      hnone hplain _⟩
  | struct _ _ hkeys _ _ =>
    exact ⟨Or.inl ⟨"object", by decide, rfl⟩, fun harray => absurd harray hobject, Or.inr rfl,
      fun key hkey => hasKey_iff.mp (hkeys key hkey)⟩

/-- The nodes that a generated node leads to are generated nodes. -/
theorem Generated.of_reaches (h : node.Generated) {inner : SchemaNode}
    (hreaches : Relation.ReflTransGen Holds node inner) : inner.Generated := by
  induction hreaches with
  | refl => exact h
  | tail _ hinner ih => exact ih.holds hinner

/-- **The node of a resource describes** what every resource has, and beside it the fields of the
resource as the node of its struct does. -/
structure DescribesResource (node : SchemaNode) (root : Struct) (own : SchemaNode) : Prop where
  /-- The members are those of every resource and those of the struct. -/
  keys : ∀ key, key ∈ node.declared.map (·.1) ↔
    key ∈ ["apiVersion", "kind", "metadata"] ∨ key ∈ root.fields.map (·.sourceKey)
  /-- No member is described twice. -/
  keys_nodup : (node.declared.map (·.1)).Nodup
  /-- No field of the struct is a member of every resource. -/
  apart : ∀ f ∈ root.fields, f.sourceKey ∉ ["apiVersion", "kind", "metadata"]
  /-- The members of the struct are what they are in the node of the struct. -/
  kept : ∀ f ∈ root.fields, ∃ property, findKey? f.sourceKey own.declared = some property ∧
    findKey? f.sourceKey node.declared = some property

end SchemaNode

/-! ## The fields of a resource -/

/-- The fields of a resource have none of the keys that every resource has. -/
theorem Walk.resolveRoot_notReserved {ctx : DocumentContext} {place : Place}
    (entries : List (Value × Value)) {fields : List Field} {structs : List Struct}
    {r r' : NameRegistry} (h : resolveRoot ctx place entries r = .ok ((fields, structs), r')) :
    ∀ f ∈ fields, f.sourceKey ∉ reservedKeys := by
  induction entries generalizing r fields structs with
  | nil =>
    obtain ⟨rfl, -, -⟩ := resolveRoot_nil h
    exact fun _ hf => absurd hf List.not_mem_nil
  | cons entry rest ih =>
    obtain ⟨key, -, ⟨-, h⟩ | ⟨type, own, r₁, others, nested, hreserved, -, hrest, rfl, -⟩⟩ :=
      resolveRoot_cons h
    · exact ih h
    · intro f hf
      rcases List.mem_cons.mp hf with rfl | hf
      · exact fun hmem =>
          Bool.false_ne_true (hreserved.symm.trans (List.contains_iff_mem.mpr hmem))
      · exact ih hrest f hf

/-- The struct of the resource comes first in a schema, and none of its fields has a key that
every resource has. -/
theorem Schema.root?_notReserved {ctx : DocumentContext} {v : Value} {schema : Schema}
    (h : ofValue ctx v = .ok schema) {root : Struct} (hroot : schema.root? = some root) :
    ∀ f ∈ root.fields, f.sourceKey ∉ reservedKeys := by
  obtain ⟨entries, kind, apiVersion, fields, nested, r', -, -, -, hrun, rfl⟩ := ofValue_eq_ok h
  rw [root?, struct?, List.find?_cons_of_pos (by exact beq_self_eq_true kind)] at hroot
  obtain rfl := Option.some.inj hroot
  exact Walk.resolveRoot_notReserved entries hrun

theorem keys_of_fieldNodes {node : Field → Except CrdError SchemaNode} {fields : List Field}
    {nodes : List (String × SchemaNode)} {required : List String}
    (h : fieldNodes node fields = .ok (nodes, required)) :
    nodes.map (·.1) = fields.map (·.sourceKey) := by
  induction fields generalizing nodes required with
  | nil =>
    obtain ⟨rfl, -⟩ := Prod.mk.inj (Except.ok.inj h)
    rfl
  | cons field rest ih =>
    obtain ⟨bare, -, h⟩ := Outcome.bind_eq_ok.mp h
    obtain ⟨⟨own, isRequired⟩, -, h⟩ := Outcome.bind_eq_ok.mp h
    obtain ⟨⟨others, keys⟩, hothers, h⟩ := Outcome.bind_eq_ok.mp h
    obtain ⟨rfl, -⟩ := Prod.mk.inj (Outcome.pure_eq_ok.mp h)
    rw [List.map_cons, List.map_cons, ih hothers]

/-- The node of a struct describes the fields of the struct. -/
theorem keys_of_structNode {schema : Schema} {fuel : Nat} {visiting : List String} {s : Struct}
    {node : SchemaNode} (h : structNode schema (fuel + 1) visiting s = .ok node) (key : String) :
    key ∈ node.declared.map (·.1) ↔ key ∈ s.fields.map (·.sourceKey) := by
  rcases structNode_eq_ok h with ⟨hempty, rfl⟩ | ⟨nodes, required, -, hfields, rfl⟩
  · rw [hempty]
    exact Iff.rfl
  · show key ∈ (sortKeys nodes).map (·.1) ↔ _
    rw [mem_keys_sortKeys, keys_of_fieldNodes hfields]

/-- A property of a resource is one that every resource has, or one of its own. -/
theorem mem_keys_resourceProperties {own : List (String × SchemaNode)} {key : String} :
    key ∈ (resourceProperties own).map (·.1) ↔ key ∈ reservedKeys ∨ key ∈ own.map (·.1) := by
  rw [← hasKey_iff, ← hasKey_iff, resourceProperties, hasKey_insertKey, hasKey_insertKey,
    hasKey_insertKey, reservedKeys]
  simp only [Bool.or_eq_true, decide_eq_true_eq, List.mem_cons, List.not_mem_nil, or_false]
  tauto

namespace Crd

/-- **The schema of every definition is structural.** Whatever the document, the hints, the markers
and the options: every node that the schema leads to is structural, and the members at its root
are those of every resource and, beside them, untouched by them, the fields of the document. -/
theorem ofSchema_structural {ctx : DocumentContext} {v : Value} {options : CrdOptions}
    {schema : Schema} {crd : Crd} (hschema : Schema.ofValue ctx v = .ok schema)
    (hcrd : ofSchema options schema = .ok crd) :
    ∃ version node root own, crd.versions = [version] ∧ version.schema? = some node ∧
      schema.root? = some root ∧
      structNode schema (schema.structs.length + 1) [] root = .ok own ∧
      node.DescribesResource root own ∧
      ∀ inner, Relation.ReflTransGen SchemaNode.Holds node inner → inner.IsStructural := by
  obtain ⟨group, name, root, own, declared, node, hroot, hown, rfl, -, hresource, rfl⟩ :=
    ofSchema_eq_ok hcrd
  have hdeclared : node.declared = resourceProperties own.declared := by
    obtain ⟨description?, required?, -, rfl⟩ := hresource.eq
    rfl
  have happart := Schema.root?_notReserved hschema hroot
  have horder : InKeyOrder (resourceProperties own.declared) :=
    (resourceProperties_generated hresource.own_generated hresource.own_inKeyOrder).2
  refine ⟨_, node, root, own, rfl, rfl, hroot, hown, ⟨fun key => ?_, ?_, happart, fun f hf => ?_⟩,
    fun inner hinner => (hresource.generated.of_reaches hinner).isStructural⟩
  · rw [hdeclared, mem_keys_resourceProperties, keys_of_structNode hown]
    exact Iff.rfl
  · rw [hdeclared]
    exact horder.nodup
  · have hkey : f.sourceKey ∈ own.declared.map (·.1) :=
      (keys_of_structNode hown _).mpr (List.mem_map_of_mem hf)
    obtain ⟨property, hproperty⟩ := Option.isSome_iff_exists.mp (hasKey_iff.mpr hkey)
    refine ⟨property, hproperty, ?_⟩
    rw [hdeclared, findKey?_resourceProperties (happart f hf), hproperty]

/-- A document with a scalar, a mapping, two lists, and two empty mappings. -/
def valve : Value :=
  .mapping [(.string "apiVersion", .string "a.io/v1"), (.string "kind", .string "Valve"),
    (.string "port", .number (.int 80)),
    (.string "limits", .mapping [(.string "cpu", .number (.int 1))]),
    (.string "names", .sequence [.string "a"]),
    (.string "grid", .sequence [.sequence [.number (.int 1)]]),
    (.string "sizes", .mapping []), (.string "rest", .mapping [])]

/-- Markers and hints above its keys. -/
def valveSources : SourceMap :=
  ⟨[([.key "port"], ⟨3, ["# +XIntOrString", "# +nullable"]⟩),
    ([.key "limits"], ⟨4, ["# +preserveUnknownFields"]⟩),
    ([.key "limits", .key "cpu"], ⟨5, ["# +required"]⟩),
    ([.key "names"], ⟨6, ["# +Enum=a;b", "# +MinItems=1"]⟩),
    ([.key "grid"], ⟨7, ["# +miaka:type:[][]int", "# +XIntOrString"]⟩),
    ([.key "sizes"], ⟨8, ["# +miaka:type:map[string]Quantity"]⟩),
    ([.key "rest"], ⟨9, ["# +miaka:type:any", "# +default=1"]⟩)]⟩

/-- The schema of the definition of this document is structural. -/
theorem ofSchema_structural_valve :
    ∃ schema crd, Schema.ofValue ⟨{}, valveSources⟩ valve = .ok schema ∧
      ofSchema {} schema = .ok crd ∧
      ∃ version node root own, crd.versions = [version] ∧ version.schema? = some node ∧
        schema.root? = some root ∧
        structNode schema (schema.structs.length + 1) [] root = .ok own ∧
        node.DescribesResource root own ∧
        ∀ inner, Relation.ReflTransGen SchemaNode.Holds node inner → inner.IsStructural := by
  have hsome : ((Schema.ofValue ⟨{}, valveSources⟩ valve).toOption.bind fun schema =>
      (ofSchema {} schema).toOption).isSome = true := by decide +kernel
  obtain ⟨crd, hbind⟩ := Option.isSome_iff_exists.mp hsome
  obtain ⟨schema, hschema, hcrd⟩ := Option.bind_eq_some_iff.mp hbind
  have hbuilt := Outcome.toOption_eq_some.mp hschema
  have hmade := Outcome.toOption_eq_some.mp hcrd
  exact ⟨schema, crd, hbuilt, hmade, ofSchema_structural hbuilt hmade⟩

end Crd
end ChartSchema
