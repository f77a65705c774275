import ChartSchema.Proofs.JsonSchema.PlainSchema
import ChartSchema.Proofs.JsonSchema.Translation
/-!
# What the schema of a node admits

`SchemaNode.Admits` says that the JSON Schema of a node admits a value. For generated nodes
`Generated.admits_iff` puts it together from what the node says about the value itself and from
what the nodes inside it admit: an equation with which everything about acceptance is proved, by
induction on nodes or on values, without a look at checkers.

The schemas of nodes are plain, so the registry of a validator and the way to a schema make no
difference, and neither does the place of a value in a document
(`Generated.violations_eq_nil_iff`).
-/

namespace ChartSchema

open JsonSchema (Context Keyword Step ofOpenApi ownFaults)

/-! ## The parts of a meaning -/

/-- **What facets say about a value**, but for the values that they list. -/
def Facets.Admits (f : Facets) (v : Json) : Prop :=
  ∀ key argument, (findKey? key f.translated).join = some argument → ownFaults key argument v = []

theorem Facets.translated_keys (f : Facets) : f.translated.map (·.1) =
    ["description", "default", "format", "pattern", "minimum", "maximum", "exclusiveMinimum",
      "exclusiveMaximum", "multipleOf", "minLength", "maxLength", "minItems", "maxItems",
      "uniqueItems", "minProperties", "maxProperties", "required"] := rfl

namespace SchemaNode

/-- The properties of a node. -/
def declared (node : SchemaNode) : List (String × SchemaNode) := node.properties?.getD []

/-- Whether objects of a node have declared members only. -/
def isClosed (strict : Bool) (node : SchemaNode) : Bool :=
  strict && !node.facets.preserveUnknown?.getD false && !node.declared.isEmpty

/-- A node inside a node. -/
def Holds (node inner : SchemaNode) : Prop :=
  (∃ key, (key, inner) ∈ node.declared) ∨ node.items? = some inner ∨
    node.additional? = some (.value inner)

/-- What a node says about members without a property, if it says anything. -/
def otherNode? (node : SchemaNode) : Option SchemaNode :=
  match node.additional? with
  | some (.value value) => some value
  | _ => none

/-- **What a node says about the members of an object**, where `P` is what inner nodes admit. -/
structure MembersFit (strict : Bool) (node : SchemaNode) (P : SchemaNode → Json → Prop)
    (members : List (String × Json)) : Prop where
  /-- Declared members are what is said about them. -/
  declared : ∀ key inner, (key, inner) ∈ node.declared → ∀ w, findKey? key members = some w →
    node.otherNode? = none → node.isClosed strict = false → P inner w
  /-- Where all members are looked at, each is what is said about it or about others. -/
  checked : (node.otherNode?.isSome || node.isClosed strict) = true → ∀ m ∈ members,
    ∃ inner, (findKey? m.1 node.declared).or node.otherNode? = some inner ∧ P inner m.2

/-- **What a node says about a value**, where `P` is what inner nodes admit. -/
structure Fits (strict : Bool) (node : SchemaNode) (P : SchemaNode → Json → Prop) (v : Json) :
    Prop where
  /-- The value has the type, or it is null where null is allowed. -/
  type : ∀ type, node.type? = some type →
    Keyword.hasType .draft7 v type = true ∨ (node.facets.isNullable = true ∧ v = .null)
  /-- The value is listed, or it is null where null is allowed. -/
  listed : ∀ values, node.facets.enum? = some values →
    values.any (Json.equivalent v) = true ∨
      (node.facets.isNullable = true ∧ node.anyOf? = none ∧ v = .null)
  /-- The value is an integer or a text, or it is null where null is allowed. -/
  alternatives : node.anyOf?.isSome = true →
    Keyword.hasType .draft7 v "integer" = true ∨ Keyword.hasType .draft7 v "string" = true ∨
      (node.facets.isNullable = true ∧ v = .null)
  /-- The value is what the facets say. -/
  facets : node.facets.Admits v
  /-- The items of the value are what is said about them. -/
  items : ∀ inner, node.items? = some inner → ∀ items, v = .array items →
    ∀ item ∈ items, P inner item
  /-- The members of the value are what is said about them. -/
  members : ∀ members, v = .object members → node.MembersFit strict P members

/-! ## Keywords about the value itself -/

/-- A single fault that is found unless something holds. -/
theorem unless_eq_nil_iff {α : Type} {p : Prop} [Decidable p] {fault : α} :
    (if p then [] else [fault]) = [] ↔ p := by
  split
  · next h => exact ⟨fun _ => h, fun _ => rfl⟩
  · next h => exact ⟨nofun, fun h' => absurd h' h⟩

/-- What is in a list of type names is what a message lists of them. -/
theorem any_namedTypes {type : String} (htype : type ∈ JsonSchema.Form.typeNames)
    (P : String → Bool) (nullable : Bool) :
    (Keyword.namedTypes (typeWords nullable type)).any P = true ↔
      P type = true ∨ (nullable = true ∧ P "null" = true) := by
  cases nullable with
  | false =>
    show ([type].any P) = true ↔ _
    simp
  | true =>
    show ((JsonSchema.Form.typeNames.filter fun t =>
      [Json.string type, .string "null"].any (·.string? == some t)).any P) = true ↔ _
    have hlisted (t : String) :
        [Json.string type, .string "null"].any (·.string? == some t) = true ↔
          type = t ∨ "null" = t := by
      rw [List.any_cons, List.any_cons, List.any_nil, Bool.or_false, Bool.or_eq_true,
        beq_iff_eq, beq_iff_eq]
      exact or_congr Option.some_inj Option.some_inj
    rw [List.any_eq_true]
    constructor
    · rintro ⟨t, hmem, ht⟩
      rcases (hlisted t).mp (List.mem_filter.mp hmem).2 with rfl | rfl
      · exact Or.inl ht
      · exact Or.inr ⟨rfl, ht⟩
    · rintro (ht | ⟨-, ht⟩)
      · exact ⟨type, List.mem_filter.mpr ⟨htype, (hlisted type).mpr (Or.inl rfl)⟩, ht⟩
      · exact ⟨"null", List.mem_filter.mpr
          ⟨by decide +kernel, (hlisted "null").mpr (Or.inr rfl)⟩, ht⟩

theorem hasType_null {v : Json} : Keyword.hasType .draft7 v "null" = true ↔ v = .null := by
  cases v with
  | number n => cases n <;> exact ⟨nofun, nofun⟩
  | null => exact ⟨fun _ => rfl, fun _ => rfl⟩
  | _ => exact ⟨nofun, nofun⟩

/-- When the keyword of the type has nothing against a value. -/
theorem ownFaults_type {type : String} (htype : type ∈ JsonSchema.Form.typeNames) {nullable : Bool}
    {v : Json} :
    ownFaults "type" (typeWords nullable type) v = [] ↔
      Keyword.hasType .draft7 v type = true ∨ (nullable = true ∧ v = .null) := by
  rw [← hasType_null, ← any_namedTypes htype]
  exact unless_eq_nil_iff

/-- When the keyword of the listed values has nothing against a value. -/
theorem ownFaults_enum {values : List Json} {nullable hasAlternatives : Bool} {v : Json} :
    ownFaults "enum" (listedValues nullable hasAlternatives values) v = [] ↔
      values.any (Json.equivalent v) = true ∨
        (nullable = true ∧ hasAlternatives = false ∧ v = .null) := by
  have hnull : Json.equivalent v .null = true ↔ v = .null := by
    cases v <;> first | exact ⟨fun _ => rfl, fun _ => rfl⟩ | exact ⟨nofun, nofun⟩
  have hadded : (if nullable && !hasAlternatives then [Json.null] else []).any (Json.equivalent v)
      = true ↔ nullable = true ∧ hasAlternatives = false ∧ v = .null := by
    split
    · next h =>
      rw [Bool.and_eq_true, Bool.not_eq_true'] at h
      rw [List.any_cons, List.any_nil, Bool.or_false, hnull]
      exact ⟨fun hv => ⟨h.1, h.2, hv⟩, fun hv => hv.2.2⟩
    · next h =>
      refine ⟨nofun, fun ⟨hnullable, hnone, _⟩ => absurd ?_ h⟩
      rw [hnullable, hnone]
      rfl
  rw [← hadded, ← Bool.or_eq_true, ← List.any_append]
  exact unless_eq_nil_iff

/-! ## Schemas that nodes are translated to -/

/-- **The members are the JSON Schema of a node**, perhaps with the names of the dialect and of the
resource beside. -/
structure IsSchemaOf (strict : Bool) (node : SchemaNode) (members : List (String × Json)) :
    Prop where
  /-- The keywords are in key order. -/
  inKeyOrder : InKeyOrder members
  /-- The keywords are those of the node. -/
  find : ∀ key, key ≠ "$schema" → key ≠ "title" →
    findKey? key members = (findKey? key (node.translated strict)).join
  /-- If a dialect is named, it is the one that schemas are written in. -/
  schema : findKey? "$schema" members = none ∨
    findKey? "$schema" members = some (.string JsonSchema.dialect)
  /-- If the schema has a title, it is a text. -/
  title : ∀ argument, findKey? "title" members = some argument → ∃ text, argument = .string text

section

variable {strict : Bool} {node : SchemaNode} {members : List (String × Json)} {ctx : Context}

theorem Generated.isSchemaOf (h : node.Generated) (strict : Bool) :
    ∃ members, ofOpenApi strict node.toJson = .object members ∧
      node.IsSchemaOf strict members := by
  obtain ⟨members, heq, horder, hfind⟩ := h.translation strict
  exact ⟨members, heq, horder, fun key _ _ => hfind key, Or.inl (hfind _),
    fun argument htitle => absurd ((hfind "title").symm.trans htitle) nofun⟩

theorem IsSchemaOf.plainIn (h : node.IsSchemaOf strict members) (hdialect : ctx.dialect = .draft7) :
    JsonSchema.PlainIn ctx members :=
  ⟨hdialect, h.inKeyOrder, h.schema, h.find _ (by decide) (by decide),
    h.find _ (by decide) (by decide)⟩

theorem IsSchemaOf.type (h : node.IsSchemaOf strict members) :
    findKey? "type" members = node.type?.map (typeWords node.facets.isNullable) :=
  h.find _ (by decide) (by decide)

/-- The listed values of a node are those of the keyword. -/
theorem IsSchemaOf.enum (h : node.IsSchemaOf strict members) :
    findKey? "enum" members
      = node.facets.enum?.map (listedValues node.facets.isNullable node.anyOf?.isSome) :=
  h.find _ (by decide) (by decide)

theorem IsSchemaOf.properties (h : node.IsSchemaOf strict members) :
    findKey? "properties" members = node.properties?.map fun ps =>
      .object (ps.map fun p => (p.1, ofOpenApi strict p.2.toJson)) :=
  h.find _ (by decide) (by decide)

theorem IsSchemaOf.items (h : node.IsSchemaOf strict members) :
    findKey? "items" members = node.items?.map fun items => ofOpenApi strict items.toJson :=
  h.find _ (by decide) (by decide)

/-- What a node says about other members is what the keyword says. -/
theorem IsSchemaOf.additional (h : node.IsSchemaOf strict members) :
    findKey? "additionalProperties" members = additionalWords strict node :=
  h.find _ (by decide) (by decide)

/-- The alternatives of a node are those of the keyword. -/
theorem IsSchemaOf.anyOf (h : node.IsSchemaOf strict members) :
    findKey? "anyOf" members = node.anyOf?.map fun _ => alternatives node.facets.isNullable :=
  h.find _ (by decide) (by decide)

/-- The keywords that lead to no other schema are among those of the facets, but for the type and
the listed values. -/
theorem IsSchemaOf.facets (h : node.IsSchemaOf strict members) {key : String}
    (hkey : key ∉ ["type", "enum", "properties", "items", "additionalProperties", "anyOf", "$schema",
      "title"]) :
    findKey? key members = (findKey? key node.facets.translated).join := by
  have hnames : key ∉ ["type", "enum", "properties", "items", "additionalProperties", "anyOf"] :=
    fun hmem => hkey (List.mem_append_left ["$schema", "title"] hmem)
  have hschema : key ≠ "$schema" := fun heq => hkey (by rw [heq]; decide +kernel)
  have htitle : key ≠ "title" := fun heq => hkey (by rw [heq]; decide +kernel)
  rw [h.find key hschema htitle, translated, findKey?_append, findKey?_eq_none.mpr hnames,
    Option.none_or]

/-- The keywords of facets lead to no other schema. -/
theorem mem_ownKeywords_of_facets {f : Facets} {key : String} {argument : Json}
    (h : (findKey? key f.translated).join = some argument) :
    key ∈ JsonSchema.ownKeywords ∧ key ∉ ["type", "enum", "properties", "items",
      "additionalProperties", "anyOf", "$schema", "title"] := by
  have hfind := Option.join_eq_some_iff.mp h
  have hmem : key ∈ f.translated.map (·.1) :=
    List.mem_map.mpr ⟨(key, some argument), mem_of_findKey? hfind, rfl⟩
  rw [f.translated_keys] at hmem
  have hkeys : ∀ key ∈ ["description", "default", "format", "pattern", "minimum", "maximum",
      "exclusiveMinimum", "exclusiveMaximum", "multipleOf", "minLength", "maxLength", "minItems",
      "maxItems", "uniqueItems", "minProperties", "maxProperties", "required"],
      key ∈ JsonSchema.ownKeywords ∧ key ∉ ["type", "enum", "properties", "items",
        "additionalProperties", "anyOf", "$schema", "title"] := by decide +kernel
  exact hkeys key hmem

end

/-! ## The schema of a node admits what the node says -/

section

variable {strict : Bool} {node : SchemaNode} {members : List (String × Json)} {ctx : Context}
  {path : List Step} {v : Json} {P : SchemaNode → Json → Prop}

/-- A type alone admits the values of this type. -/
theorem check_typed (hdialect : ctx.dialect = .draft7) {type : String} :
    (ctx.check (JsonSchema.typed type)).violations path v = [] ↔
      Keyword.hasType .draft7 v type = true := by
  have hplain : JsonSchema.PlainIn ctx [("type", .string type)] :=
    ⟨hdialect, List.pairwise_singleton .., Or.inl rfl, rfl, rfl⟩
  rw [JsonSchema.typed, hplain.violations_eq_nil_iff]
  have hown : ownFaults "type" (.string type) v = [] ↔ Keyword.hasType .draft7 v type = true := by
    refine unless_eq_nil_iff.trans ?_
    rw [Keyword.namedTypes, List.any_cons, List.any_nil, Bool.or_false]
  constructor
  · intro h
    exact hown.mp ((JsonSchema.violations_own hdialect (by decide +kernel)).mp
      (h "type" (.string type) rfl))
  · intro h key argument hfind
    rw [findKey?_cons] at hfind
    split at hfind
    · next hkey =>
      subst hkey
      obtain rfl := Option.some.inj hfind
      exact (JsonSchema.violations_own hdialect (by decide +kernel)).mpr (hown.mpr h)
    · exact nomatch hfind

/-- The types of generated nodes are those of JSON, but for that of null. -/
theorem Generated.type_mem (h : node.Generated) {type : String} (htype : node.type? = some type) :
    type ∈ JsonSchema.Form.typeNames ∧ type ≠ "null" := by
  have hnames : ∀ type ∈ ["integer", "number", "string", "boolean", "object", "array"],
      type ∈ JsonSchema.Form.typeNames ∧ type ≠ "null" := by decide +kernel
  refine hnames type ?_
  cases h with
  | scalar hname =>
    obtain rfl := Option.some.inj htype
    exact List.mem_append_left ["object", "array"] hname
  | object | map | struct | list =>
    obtain rfl := Option.some.inj htype
    simp
  | anything | intOrString => exact nomatch htype

/-- **When the keyword of the type has nothing against a value.** A node that may be null has `null`
beside its type. -/
theorem IsSchemaOf.violations_type (h : node.Generated) (hdialect : ctx.dialect = .draft7)
    {type : String} (htype : node.type? = some type) :
    (ctx.keyword members "type" (typeWords node.facets.isNullable type)).violations .draft7
        (ctx.beside members) path v = [] ↔
      Keyword.hasType .draft7 v type = true ∨ (node.facets.isNullable = true ∧ v = .null) := by
  rw [JsonSchema.violations_own hdialect (by decide +kernel), ownFaults_type (h.type_mem htype).1]

/-- **When the keyword of the alternatives has nothing against a value.** The alternatives are an
integer, a text, and null where it is allowed. -/
theorem violations_alternatives (hdialect : ctx.dialect = .draft7) {nullable : Bool} :
    (ctx.keyword members "anyOf" (alternatives nullable)).violations .draft7 (ctx.beside members)
        path v = [] ↔
      Keyword.hasType .draft7 v "integer" = true ∨ Keyword.hasType .draft7 v "string" = true ∨
        (nullable = true ∧ v = .null) := by
  rw [alternatives, JsonSchema.violations_anyOf hdialect]
  cases nullable with
  | false =>
    simp only [List.append_nil, Bool.false_eq_true, if_false, List.mem_cons, List.not_mem_nil,
      or_false, exists_eq_or_imp, exists_eq_left, check_typed hdialect, false_and]
  | true =>
    simp only [if_true, List.cons_append, List.nil_append, List.mem_cons, List.not_mem_nil,
      or_false, exists_eq_or_imp, exists_eq_left, check_typed hdialect, hasType_null, true_and]

/-- The nodes inside a generated node are generated nodes. -/
theorem Generated.holds {inner : SchemaNode} (h : node.Generated) (hinner : node.Holds inner) :
    inner.Generated := by
  rcases hinner with ⟨key, hmem⟩ | hitems | hadditional
  · rw [declared] at hmem
    cases hproperties : node.properties? with
    | none => rw [hproperties] at hmem; exact absurd hmem List.not_mem_nil
    | some properties =>
      rw [hproperties] at hmem
      exact (h.of_properties hproperties).1 key inner hmem
  · cases h with
    | list hinner => exact Option.some.inj hitems ▸ hinner
    | scalar | anything | object | intOrString | map | struct => exact nomatch hitems
  · cases h with
    | map hinner => exact OrBool.value.inj (Option.some.inj hadditional) ▸ hinner
    | scalar | anything | object | intOrString | list | struct => exact nomatch hadditional

/-- The properties of a generated node are in key order. -/
theorem Generated.inKeyOrder_declared (h : node.Generated) : InKeyOrder node.declared := by
  unfold declared
  cases hproperties : node.properties? with
  | none => exact .nil
  | some properties => exact (h.of_properties hproperties).2.1

/-- What is said about other members is a node, if anything is said. -/
theorem Generated.additional_eq (h : node.Generated) :
    node.additional? = node.otherNode?.map .value := by
  cases h <;> rfl

theorem Generated.holds_other {inner : SchemaNode} (h : node.Generated)
    (hother : node.otherNode? = some inner) : node.Holds inner :=
  Or.inr (Or.inr (by rw [h.additional_eq, hother]; rfl))

/-- What the keyword about other members says: the node about them, or that there are none. -/
theorem Generated.additionalWords_eq (h : node.Generated) :
    additionalWords strict node
      = match node.otherNode? with
        | some value => some (ofOpenApi strict value.toJson)
        | none => if node.isClosed strict then some (.bool false) else none := by
  unfold additionalWords
  rw [h.additional_eq]
  cases node.otherNode? <;> rfl

/-- The declared properties of the schema are those of the node. -/
theorem IsSchemaOf.declaredIn_eq (h : node.IsSchemaOf strict members) :
    JsonSchema.declaredIn members
      = node.declared.map fun p => (p.1, ofOpenApi strict p.2.toJson) := by
  rw [JsonSchema.declaredIn, h.properties, declared]
  cases node.properties? <;> rfl

/-- Whether all members of a value are checked together. -/
theorem IsSchemaOf.checksOthers (hgenerated : node.Generated)
    (h : node.IsSchemaOf strict members) :
    Keyword.checksOthers (ctx.beside members)
      = (node.otherNode?.isSome || node.isClosed strict) := by
  rw [JsonSchema.checksOthers_beside, h.additional, hgenerated.additionalWords_eq]
  cases hother : node.otherNode? with
  | some value =>
    obtain ⟨inner, heq, -⟩ :=
      (hgenerated.holds (hgenerated.holds_other hother)).isSchemaOf strict
    dsimp only
    rw [heq]
    rfl
  | none =>
    dsimp only
    cases node.isClosed strict <;> rfl

/-- **When the keyword of the properties has nothing against a value.** -/
theorem IsSchemaOf.violations_properties (hgenerated : node.Generated)
    (h : node.IsSchemaOf strict members) (hdialect : ctx.dialect = .draft7)
    (hP : ∀ inner, node.Holds inner → ∀ path v,
      (ctx.check (ofOpenApi strict inner.toJson)).violations path v = [] ↔ P inner v) :
    (∀ argument, findKey? "properties" members = some argument →
      (ctx.keyword members "properties" argument).violations .draft7 (ctx.beside members) path v
        = []) ↔
    ∀ ms, v = .object ms → ∀ key inner, (key, inner) ∈ node.declared → ∀ w,
      findKey? key ms = some w → node.otherNode? = none → node.isClosed strict = false →
        P inner w := by
  have hopen : Keyword.checksOthers (ctx.beside members) = false ↔
      node.otherNode? = none ∧ node.isClosed strict = false := by
    rw [h.checksOthers hgenerated, Bool.or_eq_false_iff, Option.isSome_eq_false_iff,
      Option.isNone_iff_eq_none]
  rw [h.properties]
  constructor
  · intro hall ms hv key inner hmem w hw hother hclosed
    subst hv
    rw [declared] at hmem
    cases hproperties : node.properties? with
    | none => rw [hproperties] at hmem; exact absurd hmem List.not_mem_nil
    | some properties =>
      rw [hproperties] at hall hmem
      have hmember := (JsonSchema.violations_properties hdialect).mp (hall _ rfl)
        (hopen.mpr ⟨hother, hclosed⟩) _ (List.mem_map.mpr ⟨(key, inner), hmem, rfl⟩) w hw
      refine (hP inner (Or.inl ⟨key, ?_⟩) _ w).mp hmember
      rw [declared, hproperties]
      exact hmem
  · intro hall argument hargument
    obtain ⟨properties, hproperties, rfl⟩ := Option.map_eq_some_iff.mp hargument
    rw [JsonSchema.violations_properties hdialect]
    intro hothers p hp w hw
    obtain ⟨⟨key, inner⟩, hmem, rfl⟩ := List.mem_map.mp hp
    have hdeclared : (key, inner) ∈ node.declared := by
      rw [declared, hproperties]
      exact hmem
    cases v with
    | object ms =>
      obtain ⟨hother, hclosed⟩ := hopen.mp hothers
      exact (hP inner (Or.inl ⟨key, hdeclared⟩) _ w).mpr
        (hall ms rfl key inner hdeclared w hw hother hclosed)
    | _ => exact nomatch hw

/-- **When the keyword about other members has nothing against a value.** -/
theorem IsSchemaOf.violations_additional (hgenerated : node.Generated)
    (h : node.IsSchemaOf strict members) (hdialect : ctx.dialect = .draft7)
    (hP : ∀ inner, node.Holds inner → ∀ path v,
      (ctx.check (ofOpenApi strict inner.toJson)).violations path v = [] ↔ P inner v) :
    (∀ argument, findKey? "additionalProperties" members = some argument →
      (ctx.keyword members "additionalProperties" argument).violations .draft7
        (ctx.beside members) path v = []) ↔
    ∀ ms, v = .object ms → (node.otherNode?.isSome || node.isClosed strict) = true →
      ∀ m ∈ ms, ∃ inner, (findKey? m.1 node.declared).or node.otherNode? = some inner ∧
        P inner m.2 := by
  have hpatterns : findKey? "patternProperties" members = none :=
    h.find _ (by decide) (by decide)
  have hinner (inner : SchemaNode) {key : String}
      (hfound : (findKey? key node.declared).or node.otherNode? = some inner) :
      node.Holds inner := by
    rcases Option.or_eq_some_iff.mp hfound with hdeclared | ⟨-, hother⟩
    · exact Or.inl ⟨key, mem_of_findKey? hdeclared⟩
    · exact hgenerated.holds_other hother
  -- What is looked up in the schema is the schema of what is looked up in the node.
  have hlookup (argument : Json)
      (hargument : JsonSchema.otherSchema? argument
        = node.otherNode?.map fun value => ofOpenApi strict value.toJson)
      (hkind : (∃ inner, argument = .object inner) ∨
        argument = .bool false ∧ (findKey? "properties" members).isSome = true) :
      (ctx.keyword members "additionalProperties" argument).violations .draft7
          (ctx.beside members) path v = [] ↔
        ∀ ms, v = .object ms → ∀ m ∈ ms, ∃ inner,
          (findKey? m.1 node.declared).or node.otherNode? = some inner ∧ P inner m.2 := by
    rw [JsonSchema.violations_additional hdialect hpatterns hkind, hargument, h.declaredIn_eq]
    refine forall₄_congr fun ms _ m _ => ?_
    rw [findKey?_map fun inner : SchemaNode => ofOpenApi strict inner.toJson, ← Option.map_or]
    constructor
    · rintro ⟨schema, hschema, hok⟩
      obtain ⟨inner, hfound, rfl⟩ := Option.map_eq_some_iff.mp hschema
      exact ⟨inner, hfound, (hP inner (hinner inner hfound) _ _).mp hok⟩
    · rintro ⟨inner, hfound, hok⟩
      exact ⟨_, by rw [hfound]; rfl, (hP inner (hinner inner hfound) _ _).mpr hok⟩
  rw [h.additional, hgenerated.additionalWords_eq]
  cases hother : node.otherNode? with
  | some value =>
    obtain ⟨inner, heq, -⟩ :=
      (hgenerated.holds (hgenerated.holds_other hother)).isSchemaOf strict
    have hschema : JsonSchema.otherSchema? (ofOpenApi strict value.toJson)
        = some (ofOpenApi strict value.toJson) := by
      rw [heq]
      rfl
    have hall := hlookup _ (by rw [hschema, hother]; rfl) (Or.inl ⟨inner, heq⟩)
    rw [hother] at hall
    exact ⟨fun hok ms hv _ => hall.mp (hok _ rfl) ms hv, fun hok argument hargument =>
      Option.some.inj hargument ▸ hall.mpr fun ms hv => hok ms hv rfl⟩
  | none =>
    dsimp only
    split
    · next hclosed =>
      have hdeclared : (findKey? "properties" members).isSome = true := by
        rw [h.properties, Option.isSome_map]
        rw [isClosed, Bool.and_eq_true, declared] at hclosed
        cases hproperties : node.properties? with
        | none => rw [hproperties] at hclosed; exact absurd hclosed.2 Bool.false_ne_true
        | some _ => rfl
      have hall := hlookup (.bool false) (by rw [hother]; rfl) (Or.inr ⟨rfl, hdeclared⟩)
      rw [hother] at hall
      exact ⟨fun hok ms hv _ => hall.mp (hok _ rfl) ms hv, fun hok argument hargument =>
        Option.some.inj hargument ▸ hall.mpr fun ms hv => hok ms hv hclosed⟩
    · next hopen =>
      exact ⟨fun _ ms _ hchecked => absurd hchecked hopen, fun _ _ h => by cases h⟩

/-- **The schema of a node has nothing against a value if the node admits it**, part by part. What
is asked of the nodes inside is left open as `P`, so that this is one step of an induction. -/
theorem IsSchemaOf.violations_eq_nil_iff (hgenerated : node.Generated)
    (h : node.IsSchemaOf strict members) (hdialect : ctx.dialect = .draft7)
    (hP : ∀ inner, node.Holds inner → ∀ path v,
      (ctx.check (ofOpenApi strict inner.toJson)).violations path v = [] ↔ P inner v) :
    (ctx.check (.object members)).violations path v = [] ↔ node.Fits strict P v := by
  have hproperties :=
    @IsSchemaOf.violations_properties strict node members ctx path v P hgenerated h hdialect hP
  have hadditional :=
    @IsSchemaOf.violations_additional strict node members ctx path v P hgenerated h hdialect hP
  have hown {key : String} (hkey : key ∈ JsonSchema.ownKeywords) (argument : Json) :
      (ctx.keyword members key argument).violations .draft7 (ctx.beside members) path v = [] ↔
        ownFaults key argument v = [] := JsonSchema.violations_own hdialect hkey
  have hitems (inner : SchemaNode) (hinner : node.items? = some inner) :
      (ctx.keyword members "items" (ofOpenApi strict inner.toJson)).violations .draft7
          (ctx.beside members) path v = [] ↔
        ∀ items, v = .array items → ∀ item ∈ items, P inner item := by
    have hholds : node.Holds inner := Or.inr (Or.inl hinner)
    obtain ⟨schema, heq, -⟩ := (hgenerated.holds hholds).isSchemaOf strict
    have hinnerP := hP inner hholds
    rw [heq] at hinnerP ⊢
    exact JsonSchema.violations_items hdialect (h.find _ (by decide) (by decide)) hinnerP
  rw [(h.plainIn hdialect).violations_eq_nil_iff]
  constructor
  · intro hall
    refine ⟨fun type htype => ?_, fun values hvalues => ?_, fun hsome => ?_, ?_, ?_, ?_⟩
    · have hkey := hall "type" _ (by rw [h.type, htype]; rfl)
      exact (IsSchemaOf.violations_type hgenerated hdialect htype).mp hkey
    · have hkey := hall "enum" _ (by rw [h.enum, hvalues]; rfl)
      have hlisted := ownFaults_enum.mp ((hown (by decide +kernel) _).mp hkey)
      rwa [Option.isSome_eq_false_iff, Option.isNone_iff_eq_none] at hlisted
    · obtain ⟨nodes, hnodes⟩ := Option.isSome_iff_exists.mp hsome
      have hkey := hall "anyOf" _ (by rw [h.anyOf, hnodes]; rfl)
      exact (violations_alternatives hdialect).mp hkey
    · intro key argument hfind
      obtain ⟨hmem, hnot⟩ := mem_ownKeywords_of_facets hfind
      exact (hown hmem argument).mp (hall key argument (by rw [h.facets hnot, hfind]))
    · intro inner hinner
      exact (hitems inner hinner).mp (hall "items" _ (by rw [h.items, hinner]; rfl))
    · intro ms hv
      have hdeclared := hproperties.mp (hall "properties") ms hv
      exact ⟨hdeclared, hadditional.mp (hall "additionalProperties") ms hv⟩
  · intro hfits key argument hfind
    by_cases hkey : key ∈ ["type", "enum", "properties", "items", "additionalProperties", "anyOf",
      "$schema", "title"]
    · simp only [List.mem_cons, List.not_mem_nil, or_false] at hkey
      rcases hkey with rfl | rfl | rfl | rfl | rfl | rfl | hremark
      · rw [h.type] at hfind
        obtain ⟨type, htype, rfl⟩ := Option.map_eq_some_iff.mp hfind
        exact (IsSchemaOf.violations_type hgenerated hdialect htype).mpr (hfits.type type htype)
      · rw [h.enum] at hfind
        obtain ⟨values, hvalues, rfl⟩ := Option.map_eq_some_iff.mp hfind
        refine (hown (by decide +kernel) _).mpr (ownFaults_enum.mpr ?_)
        rw [Option.isSome_eq_false_iff, Option.isNone_iff_eq_none]
        exact hfits.listed values hvalues
      · exact hproperties.mpr (fun ms hv => (hfits.members ms hv).declared) argument hfind
      · rw [h.items] at hfind
        obtain ⟨inner, hinner, rfl⟩ := Option.map_eq_some_iff.mp hfind
        exact (hitems inner hinner).mpr (hfits.items inner hinner)
      · exact hadditional.mpr (fun ms hv => (hfits.members ms hv).checked) argument hfind
      · rw [h.anyOf] at hfind
        obtain ⟨nodes, hnodes, rfl⟩ := Option.map_eq_some_iff.mp hfind
        exact (violations_alternatives hdialect).mpr (hfits.alternatives (by rw [hnodes]; rfl))
      · -- The names of the dialect and of the resource are remarks.
        have hremarked : key ∈ JsonSchema.ownKeywords := by
          rcases hremark with rfl | rfl <;> decide +kernel
        rw [hown hremarked]
        have htext : ∃ text, argument = .string text := by
          rcases hremark with rfl | rfl
          · rcases h.schema with hnone | hsome
            · rw [hnone] at hfind
              cases hfind
            · rw [hsome] at hfind
              exact ⟨_, (Option.some.inj hfind).symm⟩
          · exact h.title argument hfind
        obtain ⟨text, rfl⟩ := htext
        rcases hremark with rfl | rfl <;> cases v <;> rfl
    · rw [h.facets hkey] at hfind
      exact (hown (mem_ownKeywords_of_facets hfind).1 argument).mpr (hfits.facets key argument hfind)

end

/-! ## The meaning of a node -/

/-- A place in a document of which nothing else is known. -/
def bareContext : Context :=
  { dialect := .draft7, way := { base := JsonSchema.unnamed }, registry := ⟨[], []⟩
    follow := fun _ => .anything }

/-- **The JSON Schema of a node admits a value.** -/
def Admits (strict : Bool) (node : SchemaNode) (v : Json) : Prop :=
  (bareContext.check (ofOpenApi strict node.toJson)).violations [] v = []

section

variable {strict : Bool} {node : SchemaNode} {v : Json}

/-- **Induction on generated nodes** by the nodes inside them. Of the many kinds of nodes only those
that hold others make a difference here. -/
theorem Generated.induction {Q : SchemaNode → Prop}
    (hstep : ∀ node : SchemaNode, node.Generated → (∀ inner, node.Holds inner → Q inner) → Q node)
    (h : node.Generated) : Q node := by
  have hleaf {node : SchemaNode} (h : node.Generated) (hproperties : node.properties? = none)
      (hitems : node.items? = none) (hadditional : node.additional? = none) : Q node := by
    refine hstep node h fun inner hinner => ?_
    rcases hinner with ⟨key, hmem⟩ | hinner | hinner
    · rw [declared, hproperties] at hmem
      exact absurd hmem List.not_mem_nil
    · rw [hitems] at hinner
      exact nomatch hinner
    · rw [hadditional] at hinner
      exact nomatch hinner
  induction h with
  | scalar htype hproper hplain => exact hleaf (.scalar htype hproper hplain) rfl rfl rfl
  | anything hset hproper hplain => exact hleaf (.anything hset hproper hplain) rfl rfl rfl
  | object hproper hplain => exact hleaf (.object hproper hplain) rfl rfl rfl
  | intOrString hset hnone hproper => exact hleaf (.intOrString hset hnone hproper) rfl rfl rfl
  | list hitems hproper hplain ih =>
    refine hstep _ (.list hitems hproper hplain) fun inner hinner => ?_
    rcases hinner with ⟨key, hmem⟩ | hinner | hinner
    · exact absurd hmem List.not_mem_nil
    · exact Option.some.inj hinner ▸ ih
    · exact nomatch hinner
  | map hvalue hproper hplain ih =>
    refine hstep _ (.map hvalue hproper hplain) fun inner hinner => ?_
    rcases hinner with ⟨key, hmem⟩ | hinner | hinner
    · exact absurd hmem List.not_mem_nil
    · exact nomatch hinner
    · exact OrBool.value.inj (Option.some.inj hinner) ▸ ih
  | struct hproperties horder hkeys hproper hnone ih =>
    refine hstep _ (.struct hproperties horder hkeys hproper hnone) fun inner hinner => ?_
    rcases hinner with ⟨key, hmem⟩ | hinner | hinner
    · exact ih key inner hmem
    · exact nomatch hinner
    · exact nomatch hinner

/-- **Where the schema of a node stands makes no difference**, nor where a value does. A generated
schema refers to nothing outside of it, so it may be judged on its own. -/
theorem Generated.violations_eq_nil_iff (h : node.Generated) {ctx : Context}
    (hdialect : ctx.dialect = .draft7) {path : List Step} :
    (ctx.check (ofOpenApi strict node.toJson)).violations path v = [] ↔ node.Admits strict v := by
  refine h.induction (Q := fun node => ∀ ctx : Context, ctx.dialect = .draft7 → ∀ path v,
    (ctx.check (ofOpenApi strict node.toJson)).violations path v = [] ↔ node.Admits strict v)
    (fun node hgenerated ih ctx hdialect path v => ?_) ctx hdialect path v
  obtain ⟨members, heq, hschema⟩ := hgenerated.isSchemaOf strict
  rw [Admits, heq, hschema.violations_eq_nil_iff hgenerated hdialect
      fun inner hinner => ih inner hinner ctx hdialect,
    hschema.violations_eq_nil_iff hgenerated (show bareContext.dialect = .draft7 from rfl)
      fun inner hinner => ih inner hinner bareContext rfl]

/-- **What a schema of a node admits is what the node admits**, also where the schema has the names
of the dialect and of the resource beside. -/
theorem IsSchemaOf.admits_iff (h : node.Generated) {members : List (String × Json)}
    (hschema : node.IsSchemaOf strict members) {ctx : Context} (hdialect : ctx.dialect = .draft7)
    {path : List Step} :
    (ctx.check (.object members)).violations path v = [] ↔ node.Fits strict (Admits strict) v :=
  hschema.violations_eq_nil_iff h hdialect fun _ hinner _ _ =>
    (h.holds hinner).violations_eq_nil_iff hdialect

/-- **What a node admits** is what it says about the value itself, and what the nodes inside it
admit. -/
theorem Generated.admits_iff (h : node.Generated) :
    node.Admits strict v ↔ node.Fits strict (Admits strict) v := by
  obtain ⟨members, heq, hschema⟩ := h.isSchemaOf strict
  rw [Admits, heq]
  exact hschema.admits_iff h rfl

end

end SchemaNode
end ChartSchema
