import ChartSchema.Proofs.JsonSchema.Usable
import ChartSchema.Proofs.Schema.Shape
import ChartSchema.Proofs.Yaml.JsonForm
/-!
# Documents and their own definitions

The definition that is made from a document describes the document: its JSON Schema, strict or
not, admits the document's JSON form (`Schema.ofValue_accepts`). This holds for uniform documents
without rules; a rule may well forbid the value that it stands beside.

Without rules the nodes of a definition are `Silent`: their facets say something, but nothing
against any value. So a node can only go against a value by its type, its items and its members,
and `Schema.Describes.silent_and_admits` says that it does not, by induction on what the type
describes. At the root the fields are beside the remarks about the resource, whose types are those
of every resource.
-/

namespace ChartSchema

open JsonSchema (Keyword Sound Validator ofOpenApi ownFaults ownFits)
open Yaml (Value)

/-! ## Nodes without rules -/

/-- **Facets that say nothing against any value.** -/
structure Facets.IsSilent (f : Facets) : Prop where
  /-- The keywords have values of the right form. -/
  fit : f.Fit
  /-- No value goes against them. -/
  admits : ∀ v, f.Admits v
  /-- No values are listed. -/
  enum : f.enum? = none

/-- A description is a remark. -/
theorem ownFaults_description (text : String) (v : Json) :
    ownFaults "description" (.string text) v = [] := by
  cases v <;> rfl

theorem ownFaults_format {name : String} (hname : JsonSchema.Dialect.draft7.format? name = none)
    (v : Json) : ownFaults "format" (.string name) v = [] := by
  cases v with
  | string s =>
    have hown : ownFaults "format" (.string name) (.string s)
        = Keyword.textFaults .draft7 [] "format" name s := rfl
    rw [hown, Keyword.textFaults, hname]
  | _ => rfl

namespace Facets

/-- Formats that are not checked and whether members are kept say nothing against a value. -/
theorem isSilent_of_format {format? : Option String} (preserveUnknown? : Option Bool)
    (h : ∀ name, format? = some name → JsonSchema.Dialect.draft7.format? name = none) :
    IsSilent { format?, preserveUnknown? } := by
  have hkey {key : String} {argument : Json} (hfind : (findKey? key
      (Facets.translated { format?, preserveUnknown? })).join = some argument) :
      key = "format" ∧ ∃ name, format? = some name ∧ argument = .string name := by
    have hmem := mem_of_findKey? (Option.join_eq_some_iff.mp hfind)
    simp [translated, included, excluded] at hmem
    obtain ⟨rfl, hargument⟩ := hmem
    obtain ⟨name, hname, heq⟩ := hargument
    exact ⟨rfl, name, hname, heq.symm⟩
  refine ⟨fun key argument hfind => ?_, fun v key argument hfind => ?_, rfl⟩
  · obtain ⟨rfl, name, -, rfl⟩ := hkey hfind
    rfl
  · obtain ⟨rfl, name, hname, rfl⟩ := hkey hfind
    exact ownFaults_format (h name hname) v

theorem IsSilent.describe {f : Facets} (h : f.IsSilent) (text : String) :
    IsSilent { f with description? := some text } := by
  have hkey {key : String} {argument : Json} (hfind : (findKey? key
      (Facets.translated { f with description? := some text })).join = some argument) :
      (key = "description" ∧ argument = .string text) ∨
        (findKey? key f.translated).join = some argument := by
    rw [translated, findKey?_cons] at hfind
    split at hfind
    · next heq =>
      exact Or.inl ⟨heq.symm, (Option.some.inj hfind).symm⟩
    · next hne =>
      refine Or.inr ?_
      rw [translated, findKey?_cons, if_neg hne]
      exact hfind
  refine ⟨fun key argument hfind => ?_, fun v key argument hfind => ?_, h.enum⟩
  · rcases hkey hfind with ⟨rfl, rfl⟩ | hfind
    · rfl
    · exact h.fit key argument hfind
  · rcases hkey hfind with ⟨rfl, rfl⟩ | hfind
    · exact ownFaults_description text v
    · exact h.admits v key argument hfind

end Facets

namespace SchemaNode

/-- **A node that says nothing against a value** but by types, items and members, and neither do
the nodes inside it. -/
inductive Silent : SchemaNode → Prop
  /-- The facets are silent, and so are the nodes inside. -/
  | intro {node : SchemaNode} : node.facets.IsSilent → (∀ inner, node.Holds inner → Silent inner) →
    Silent node

variable {strict : Bool} {node : SchemaNode} {v : Json}

theorem Silent.facets (h : node.Silent) : node.facets.IsSilent := by
  cases h with
  | intro hfacets => exact hfacets

theorem Silent.holds (h : node.Silent) {inner : SchemaNode} (hinner : node.Holds inner) :
    inner.Silent := by
  cases h with
  | intro _ hholds => exact hholds inner hinner

/-- A node with silent facets that has no nodes inside. -/
theorem Silent.of_leaf (hfacets : node.facets.IsSilent) (hproperties : node.properties? = none)
    (hitems : node.items? = none) (hadditional : node.additional? = none) : node.Silent := by
  refine .intro hfacets fun inner hinner => ?_
  rcases hinner with ⟨key, hmem⟩ | hinner | hinner
  · rw [declared, hproperties] at hmem
    exact absurd hmem List.not_mem_nil
  · rw [hitems] at hinner
    cases hinner
  · rw [hadditional] at hinner
    cases hinner

theorem Silent.describe (h : node.Silent) (documentation : List String) :
    (node.describe documentation).Silent := by
  unfold SchemaNode.describe
  split
  · exact h
  · exact .intro (h.facets.describe _) fun inner hinner => h.holds hinner

/-- **The schema of a silent node is sound.** -/
theorem Silent.sound (hgenerated : node.Generated) (h : node.Silent) (strict : Bool) :
    Sound (ofOpenApi strict node.toJson) := by
  refine hgenerated.induction
    (Q := fun node => node.Silent → Sound (ofOpenApi strict node.toJson))
    (fun node hgenerated ih h => ?_) h
  obtain ⟨members, heq, hschema⟩ := hgenerated.isSchemaOf strict
  rw [heq]
  exact hschema.sound hgenerated h.facets.fit fun inner hinner => ih inner hinner (h.holds hinner)

/-- A description of a silent node is of no account to what the node admits. -/
theorem Silent.admits_describe (hgenerated : node.Generated) (h : node.Silent)
    (hadmits : node.Admits strict v) (documentation : List String) :
    (node.describe documentation).Admits strict v := by
  rw [(hgenerated.describe documentation).admits_iff]
  have hfacets := (h.describe documentation).facets.admits v
  have hfits := hgenerated.admits_iff.mp hadmits
  revert hfacets
  unfold SchemaNode.describe
  split
  · exact fun _ => hfits
  · exact fun hfacets =>
      ⟨hfits.type, hfits.listed, hfits.alternatives, hfacets, hfits.items, fun ms hms =>
        ⟨(hfits.members ms hms).declared, (hfits.members ms hms).checked⟩⟩

/-- **When a silent struct admits an object**: each member is declared, and is what is said about
it. So it makes no difference whether the struct is closed. -/
theorem Silent.admits_object {properties : List (String × SchemaNode)}
    (hgenerated : node.Generated) (h : node.Silent) (htype : node.type? = some "object")
    (hproperties : node.properties? = some properties) {members : List (String × Json)}
    (hmembers : ∀ m ∈ members, ∃ inner, findKey? m.1 properties = some inner ∧
      inner.Admits strict m.2) : node.Admits strict (.object members) := by
  obtain ⟨-, horder, -⟩ := hgenerated.of_properties hproperties
  have hdeclared : node.declared = properties := by rw [declared, hproperties]; rfl
  have hleaf : node.items? = none ∧ node.anyOf? = none ∧ node.otherNode? = none := by
    cases hgenerated with
    | struct => exact ⟨rfl, rfl, rfl⟩
    | scalar | anything | object | intOrString | list | map => cases hproperties
  obtain ⟨hitems, hanyOf, hother⟩ := hleaf
  rw [hgenerated.admits_iff]
  refine ⟨fun type hsome => ?_, fun values hvalues => ?_, fun hsome => ?_, h.facets.admits _,
    fun inner hinner => ?_, fun ms hms => ?_⟩
  · obtain rfl := Option.some.inj (htype.symm.trans hsome)
    exact Or.inl rfl
  · cases h.facets.enum.symm.trans hvalues
  · rw [hanyOf] at hsome
    cases hsome
  · cases hitems.symm.trans hinner
  · obtain rfl := Json.object.inj hms
    refine ⟨fun key inner hmem w hw _ _ => ?_, fun _ m hm => ?_⟩
    · rw [hdeclared] at hmem
      obtain ⟨inner', hfind, hadmits⟩ := hmembers _ (mem_of_findKey? hw)
      rw [findKey?_of_mem horder.nodup hmem] at hfind
      exact Option.some.inj hfind ▸ hadmits
    · obtain ⟨inner, hfind, hadmits⟩ := hmembers m hm
      refine ⟨inner, ?_, hadmits⟩
      rw [hdeclared, hfind]
      rfl

/-- When a silent node about the type alone admits a value. -/
theorem Silent.admits_typed {type : String} (hgenerated : node.Generated) (h : node.Silent)
    (htype : node.type? = some type) (hproperties : node.properties? = none)
    (hitems : node.items? = none) (hadditional : node.additional? = none)
    (hanyOf : node.anyOf? = none) (hv : Keyword.hasType .draft7 v type = true) :
    node.Admits strict v := by
  have hdeclared : node.declared = [] := by rw [declared, hproperties]; rfl
  have hother : node.otherNode? = none := by rw [otherNode?, hadditional]
  rw [hgenerated.admits_iff]
  refine ⟨fun other hsome => ?_, fun values hvalues => ?_, fun hsome => ?_, h.facets.admits _,
    fun inner hinner => ?_, fun ms _ => ⟨fun key inner hmem => ?_, fun hchecked => ?_⟩⟩
  · exact Or.inl (Option.some.inj (htype.symm.trans hsome) ▸ hv)
  · cases h.facets.enum.symm.trans hvalues
  · rw [hanyOf] at hsome
    cases hsome
  · cases hitems.symm.trans hinner
  · rw [hdeclared] at hmem
    exact absurd hmem List.not_mem_nil
  · rw [hother, isClosed, hdeclared, List.isEmpty_nil, Bool.not_true, Bool.and_false] at hchecked
    cases hchecked

theorem Silent.admits_list {items : SchemaNode} (hgenerated : (arrayOf items).Generated)
    (h : (arrayOf items).Silent) {values : List Json}
    (hvalues : ∀ value ∈ values, items.Admits strict value) :
    (arrayOf items).Admits strict (.array values) := by
  rw [hgenerated.admits_iff]
  refine ⟨fun type hsome => ?_, fun _ hvalues => (nomatch hvalues), fun hsome => (nomatch hsome),
    h.facets.admits _, fun inner hinner vs hvs => ?_, fun ms hms => (nomatch hms)⟩
  · obtain rfl := Option.some.inj hsome
    exact Or.inl rfl
  · obtain rfl := Option.some.inj hinner
    obtain rfl := Json.array.inj hvs
    exact hvalues

end SchemaNode

/-! ## What a type describes, its node admits -/

theorem Marker.applyAll_nil {node : SchemaNode} (h : node.Generated) (isList : Bool) :
    applyAll isList node [] = node := by
  show applyValues isList node [] = node
  cases isList with
  | false => rfl
  | true => cases h <;> rfl

/-- The properties of fields without rules are the nodes of their types, with descriptions, and
none is required. -/
theorem fieldNodes_bare {node : Field → Except CrdError SchemaNode} {fields : List Field}
    (hnode : ∀ field n, node field = .ok n → n.Generated)
    (hbare : ∀ f ∈ fields, f.markers = []) {nodes : List (String × SchemaNode)}
    {required : List String} (h : fieldNodes node fields = .ok (nodes, required)) :
    required = [] ∧ nodes.map (·.1) = fields.map (·.sourceKey) ∧
      ∀ key n, (key, n) ∈ nodes → ∃ f bare, f ∈ fields ∧ key = f.sourceKey ∧
        node f = .ok bare ∧ n = bare.describe f.documentation := by
  induction fields generalizing nodes required with
  | nil =>
    obtain ⟨rfl, rfl⟩ := Prod.mk.inj (Except.ok.inj h)
    exact ⟨rfl, rfl, fun _ _ hmem => absurd hmem List.not_mem_nil⟩
  | cons field rest ih =>
    obtain ⟨bare, hfirst, h⟩ := Outcome.bind_eq_ok.mp h
    obtain ⟨⟨own, isRequired⟩, hown, h⟩ := Outcome.bind_eq_ok.mp h
    obtain ⟨⟨others, keys⟩, hothers, h⟩ := Outcome.bind_eq_ok.mp h
    obtain ⟨rfl, rfl⟩ := Prod.mk.inj (Outcome.pure_eq_ok.mp h)
    obtain ⟨rfl, hkeys, hnodes⟩ := ih (fun f hf => hbare f (List.mem_cons_of_mem _ hf)) hothers
    rw [hbare field List.mem_cons_self] at hown
    obtain ⟨rfl, rfl⟩ := Prod.mk.inj (Outcome.pure_eq_ok.mp hown)
    refine ⟨rfl, by rw [List.map_cons, List.map_cons, hkeys], fun key n hmem => ?_⟩
    rcases List.mem_cons.mp hmem with heq | hmem
    · obtain ⟨rfl, rfl⟩ := Prod.mk.inj heq
      exact ⟨field, bare, List.mem_cons_self, rfl, hfirst,
        Marker.applyAll_nil ((hnode _ _ hfirst).describe _) _⟩
    · obtain ⟨f, bare, hf, hkey, hnode, heq⟩ := hnodes key n hmem
      exact ⟨f, bare, List.mem_cons_of_mem _ hf, hkey, hnode, heq⟩

section

variable {schema : Schema} {fuel : Nat} {visiting : List String} {node : SchemaNode}
  {isStruct : String → Bool} {strict : Bool}

theorem FieldType.node_expand_generated {type : FieldType} {path : String}
    (h : FieldType.node (schema.expand fuel visiting) isStruct path type = .ok node) :
    node.Generated :=
  FieldType.node_generated (fun _ _ _ hexpand => Schema.expand_generated hexpand) type h

/-- **The node of a struct without rules**, if the nodes of its fields are silent: it is silent, and
each of its fields has a property. -/
theorem structNode_bare {s : Struct} (hbare : s.IsBare)
    (hfields : ∀ f ∈ s.fields, ∀ n, FieldType.node (schema.expand fuel (s.name :: visiting))
      (fun name => (schema.struct? name).isSome) f.sourcePath f.type = .ok n → n.Silent)
    (h : structNode schema (fuel + 1) visiting s = .ok node) :
    node.Silent ∧ ((s.fields = [] ∧ node = .preserving (some "object")) ∨
      (∃ properties, node = { type? := some "object", properties? := some properties }) ∧
        ∀ f ∈ s.fields, ∃ bare, findKey? f.sourceKey node.declared
          = some (bare.describe f.documentation) ∧
          FieldType.node (schema.expand fuel (s.name :: visiting))
            (fun name => (schema.struct? name).isSome) f.sourcePath f.type = .ok bare) := by
  rcases structNode_eq_ok h with ⟨hnone, rfl⟩ | ⟨nodes, required, -, hnodes, rfl⟩
  · exact ⟨.of_leaf (Facets.isSilent_of_format (some true) nofun) rfl rfl rfl, Or.inl ⟨hnone, rfl⟩⟩
  · obtain ⟨rfl, hkeys, hnode⟩ :=
      fieldNodes_bare (fun f n hn => FieldType.node_expand_generated hn) hbare.no_markers hnodes
    refine ⟨.intro (Facets.isSilent_of_format none nofun) fun inner hinner => ?_,
      Or.inr ⟨⟨_, rfl⟩, fun f hf => ?_⟩⟩
    · rcases hinner with ⟨key, hmem⟩ | hinner | hinner
      · obtain ⟨f, bare, hf, -, hbareNode, rfl⟩ := hnode key inner (mem_of_mem_sortKeys hmem)
        exact (hfields f hf bare hbareNode).describe _
      · exact nomatch hinner
      · exact nomatch hinner
    · have hkey : f.sourceKey ∈ (sortKeys nodes).map (·.1) := by
        rw [mem_keys_sortKeys, hkeys]
        exact List.mem_map.mpr ⟨f, hf, rfl⟩
      show ∃ bare, findKey? f.sourceKey (sortKeys nodes) = _ ∧ _
      cases hfind : findKey? f.sourceKey (sortKeys nodes) with
      | none => exact absurd hkey (findKey?_eq_none.mp hfind)
      | some inner =>
        obtain ⟨g, bare, hg, hsame, hbareNode, rfl⟩ :=
          hnode _ inner (mem_of_mem_sortKeys (mem_of_findKey? hfind))
        obtain rfl := List.inj_on_of_nodup_map hbare.keys_nodup hf hg hsame
        exact ⟨bare, rfl, hbareNode⟩

/-- The members of a mapping's JSON form come from its entries. -/
theorem Yaml.Value.mem_toJson {entries : List (Value × Value)} {m : String × Json}
    (h : m ∈ sortKeys (Value.entriesJson entries)) :
    ∃ key v, (key, v) ∈ entries ∧ m = (key.keyName, v.toJson) := by
  have hmem := mem_of_mem_sortKeys h
  rw [Value.entriesJson_eq] at hmem
  obtain ⟨⟨key, v⟩, hentry, rfl⟩ := List.mem_map.mp hmem
  exact ⟨key, v, hentry, rfl⟩

theorem Uniform.values {entries : List (Value × Value)} (h : Uniform (.mapping entries))
    {key v : Value} (hmem : (key, v) ∈ entries) : Uniform v := by
  cases h with
  | scalar hscalar => cases hscalar
  | mapping _ _ hvalues => exact hvalues key v hmem

theorem Uniform.keys {entries : List (Value × Value)} (h : Uniform (.mapping entries))
    {key v : Value} (hmem : (key, v) ∈ entries) : ∃ text, key = .string text := by
  cases h with
  | scalar hscalar => cases hscalar
  | mapping hkeys _ _ => exact hkeys _ hmem

theorem Uniform.items {items : List Value} (h : Uniform (.sequence items)) {item : Value}
    (hmem : item ∈ items) : Uniform item := by
  cases h with
  | scalar hscalar => cases hscalar
  | scalars _ hitems => exact hitems item hmem
  | mappings _ _ hitems => exact hitems item hmem

theorem scalar_node {v : Value} (hscalar : Walk.isScalar v = true)
    {expand : String → String → Except CrdError SchemaNode} {path : String}
    (h : TypeRef.node expand isStruct path (.ofValue v) = .ok node) :
    ∃ type format?, node = { type? := some type, facets := { format? } } ∧
      (∀ name, format? = some name → JsonSchema.Dialect.draft7.format? name = none) ∧
      (Uniform v → Keyword.hasType .draft7 v.toJson type = true) := by
  have hint : ∀ name, some "int64" = some name →
      JsonSchema.Dialect.draft7.format? name = none := by
    intro name hname
    rw [← Option.some.inj hname]
    decide +kernel
  cases v with
  | null => cases h
  | bool b => exact ⟨_, none, (Except.ok.inj h).symm, nofun, fun _ => rfl⟩
  | string s => exact ⟨_, none, (Except.ok.inj h).symm, nofun, fun _ => rfl⟩
  | number n =>
    cases n with
    | int n => exact ⟨_, some "int64", (Except.ok.inj h).symm, hint, fun _ => rfl⟩
    | float x =>
      have hjson (huniform : Uniform (.number (.float x))) :
          (Value.number (.float x)).toJson = .number (.float x) := by
        cases huniform with
        | scalar _ hfinite => rw [Value.toJson, Yaml.jsonOfScalar, if_pos (hfinite x rfl)]
      have htype : TypeRef.ofValue (.number (.float x))
          = if x.isIntegral then .integer else .float := rfl
      rw [htype] at h
      -- An integral number is an integer, however it is written.
      split at h
      · next hintegral =>
        refine ⟨_, some "int64", (Except.ok.inj h).symm, hint, fun huniform => ?_⟩
        rw [hjson huniform]
        exact hintegral
      · refine ⟨_, none, (Except.ok.inj h).symm, nofun, fun huniform => ?_⟩
        rw [hjson huniform]
        rfl
  | sequence | mapping | tagged => cases hscalar

/-- **A node of a type is silent and admits what the type describes.** The induction is that on what
the type describes; the samples stand for the parts of the type that the value does not have. -/
theorem Schema.Describes.silent_and_admits {type : FieldType} {v : Value} (h : schema.Describes type v)
    {path : String} (hnode : FieldType.node (schema.expand fuel visiting)
      (fun name => (schema.struct? name).isSome) path type = .ok node) :
    node.Silent ∧ (Uniform v → node.Admits strict v.toJson) := by
  induction h generalizing fuel visiting path node with
  | scalar hscalar =>
    obtain ⟨type, format?, rfl, hformat, hv⟩ := scalar_node hscalar hnode
    have hsilent : SchemaNode.Silent { type? := some type, facets := { format? } } :=
      .of_leaf (Facets.isSilent_of_format none hformat) rfl rfl rfl
    exact ⟨hsilent, fun huniform => hsilent.admits_typed
      (FieldType.node_expand_generated hnode) rfl rfl rfl rfl rfl (hv huniform)⟩
  | @mapping name s entries sample hs hbare _ hkeys _ ihSample ihValues =>
    have hstruct : structNode schema fuel visiting s = .ok node := by
      have hexpand : schema.expand fuel visiting name path = .ok node := hnode
      rwa [Schema.expand, hs] at hexpand
    cases fuel with
    | zero => exact nomatch hstruct
    | succ fuel =>
      obtain ⟨hsilent, hfields⟩ :=
        structNode_bare hbare (fun f hf n hn => (ihSample f hf hn).1) hstruct
      have hgenerated := structNode_generated hstruct
      refine ⟨hsilent, fun huniform => ?_⟩
      rcases hfields with ⟨-, rfl⟩ | ⟨⟨properties, rfl⟩, hfields⟩
      · exact hsilent.admits_typed hgenerated rfl rfl rfl rfl rfl rfl
      · refine hsilent.admits_object hgenerated rfl rfl fun m hm => ?_
        obtain ⟨key, v, hentry, rfl⟩ := Yaml.Value.mem_toJson hm
        obtain ⟨f, hf, rfl⟩ := hkeys key v hentry
        obtain ⟨bare, hfind, hbareNode⟩ := hfields f hf
        obtain ⟨hsilentBare, hadmits⟩ := ihValues v f hf hentry hbareNode
        exact ⟨_, hfind, hsilentBare.admits_describe
          (FieldType.node_expand_generated hbareNode) (hadmits (huniform.values hentry)) _⟩
  | @sequence element items sample _ _ ihSample ihItems =>
    obtain ⟨inner, hinner, hnode⟩ := Outcome.bind_eq_ok.mp hnode
    obtain rfl := Outcome.pure_eq_ok.mp hnode
    have hgenerated : inner.Generated :=
      TypeRef.node_generated (fun _ _ _ hexpand => Schema.expand_generated hexpand) element hinner
    have hlist : (SchemaNode.arrayOf inner).Generated :=
      .list hgenerated (.of_none rfl rfl rfl rfl) ⟨rfl, rfl⟩
    have hsilent : (SchemaNode.arrayOf inner).Silent := by
      refine .intro (Facets.isSilent_of_format none nofun) fun other hother => ?_
      rcases hother with ⟨key, hmem⟩ | hother | hother
      · exact absurd hmem List.not_mem_nil
      · obtain rfl := Option.some.inj hother
        exact (ihSample hinner).1
      · exact nomatch hother
    refine ⟨hsilent, fun huniform => ?_⟩
    show (SchemaNode.arrayOf inner).Admits strict (.array (Value.itemsJson items))
    rw [Value.itemsJson_eq]
    refine hsilent.admits_list hlist fun value hvalue => ?_
    obtain ⟨item, hitem, rfl⟩ := List.mem_map.mp hvalue
    exact (ihItems item hitem hinner).2 (huniform.items hitem)
  | unknown => exact nomatch hnode

end

/-! ## The document of a definition -/

/-- **What a document says about its resource has the types of every resource**: a version is a
text and metadata are a mapping, where there are any. -/
structure HasResourceTypes (entries : List (Value × Value)) : Prop where
  /-- The version is a text. -/
  apiVersion : ∀ v, (.string "apiVersion", v) ∈ entries → ∃ text, v = .string text
  /-- Metadata are a mapping. -/
  metadata : ∀ v, (.string "metadata", v) ∈ entries → ∃ inner, v = .mapping inner

theorem Schema.kindOf_string {entries : List (Value × Value)} {kind : String}
    (hnodup : (entries.map (·.1)).Nodup) (h : kindOf entries = .ok kind)
    (huniform : Uniform (.mapping entries)) {v : Value}
    (hv : (.string "kind", v) ∈ entries) : ∃ text, v = .string text := by
  have hfound : valueOfKey? "kind" entries = some v := by
    clear h huniform
    induction entries with
    | nil => exact absurd hv List.not_mem_nil
    | cons entry rest ih =>
      obtain ⟨key, w⟩ := entry
      rw [List.map_cons, List.nodup_cons] at hnodup
      rcases List.mem_cons.mp hv with heq | hmem
      · obtain ⟨rfl, rfl⟩ := Prod.mk.inj heq
        rfl
      · have hne : key ≠ .string "kind" := fun heq =>
          hnodup.1 (heq ▸ List.mem_map.mpr ⟨_, hmem, rfl⟩)
        unfold valueOfKey?
        split
        · next hsplit => exact nomatch hsplit
        · next k u others hsplit =>
          obtain ⟨hentry, rfl⟩ := List.cons.inj hsplit
          obtain ⟨rfl, rfl⟩ := Prod.mk.inj hentry
          rw [if_neg fun heq => hne (by rw [heq])]
          exact ih hnodup.2 hmem
        · next others hsplit =>
          obtain ⟨-, rfl⟩ := List.cons.inj hsplit
          exact ih hnodup.2 hmem
  rw [kindOf, hfound] at h
  cases v with
  | string text => exact ⟨text, rfl⟩
  | tagged tag inner => exact absurd (huniform.values hv) Walk.not_uniform_tagged
  | _ => exact nomatch h

/-- The node of a resource with silent properties, before it is described. -/
theorem SchemaNode.silent_resource {own : List (String × SchemaNode)}
    (hown : ∀ key inner, (key, inner) ∈ own → inner.Silent) :
    SchemaNode.Silent { type? := some "object", properties? := some (resourceProperties own) } := by
  have hempty : Facets.IsSilent {} := Facets.isSilent_of_format none nofun
  have hremark (description : String) : (builtinProperty "string" description).Silent :=
    .of_leaf (hempty.describe description) rfl rfl rfl
  refine .intro hempty fun inner hinner => ?_
  rcases hinner with ⟨key, hmem⟩ | hinner | hinner
  · rcases mem_of_mem_insertKey hmem with heq | hmem
    · obtain ⟨-, rfl⟩ := Prod.mk.inj heq
      exact .of_leaf hempty rfl rfl rfl
    rcases mem_of_mem_insertKey hmem with heq | hmem
    · obtain ⟨-, rfl⟩ := Prod.mk.inj heq
      exact hremark _
    rcases mem_of_mem_insertKey hmem with heq | hmem
    · obtain ⟨-, rfl⟩ := Prod.mk.inj heq
      exact hremark _
    · exact hown key inner hmem
  · exact nomatch hinner
  · exact nomatch hinner

/-- A property of a resource that is no remark about it is one of its own. -/
theorem findKey?_resourceProperties {own : List (String × SchemaNode)} {key : String}
    (h : key ∉ reservedKeys) : findKey? key (resourceProperties own) = findKey? key own := by
  have hne {reserved : String} (hmem : reserved ∈ reservedKeys) : reserved ≠ key :=
    fun heq => h (heq ▸ hmem)
  rw [resourceProperties, findKey?_insertKey, if_neg (hne (by decide)), findKey?_insertKey,
    if_neg (hne (by decide)), findKey?_insertKey, if_neg (hne (by decide))]

/-- **The node of a resource admits the document** that its fields were read from: what is said
about the resource is what every resource says, and each other entry has a field. -/
theorem SchemaNode.admits_document {schema : Schema} {s : Struct} {fuel : Nat} {node : SchemaNode}
    {entries : List (Value × Value)}
    (hreads : schema.ReadsFields (Walk.ownEntries entries) s.fields)
    (hnode : structNode schema (fuel + 1) [] s = .ok node) (huniform : Uniform (.mapping entries))
    (hkind : ∀ v, (.string "kind", v) ∈ entries → ∃ text, v = .string text)
    (htypes : HasResourceTypes entries)
    (hresource : (node.asResource s.documentation).IsResource node.declared) (strict : Bool) :
    (node.asResource s.documentation).Silent ∧
      (node.asResource s.documentation).Admits strict (Value.mapping entries).toJson := by
  have hown : ((Walk.ownEntries entries).map (·.1)).Nodup := by
    cases huniform with
    | scalar hscalar => cases hscalar
    | mapping _ hnodup _ => exact List.Nodup.sublist (List.filter_sublist.map _) hnodup
  have hdescribes (f : Field) (hf : f ∈ s.fields) : ∃ v,
      (.string f.sourceKey, v) ∈ Walk.ownEntries entries ∧ schema.Describes f.type v := by
    obtain ⟨-, v, hv, hread⟩ := hreads.reads f hf
    exact ⟨v, hv, hread v (Or.inl rfl)⟩
  obtain ⟨hsilent, hfields⟩ := structNode_bare (hreads.isBare hown s.name s.documentation)
    (fun f hf n hn => by
      obtain ⟨v, -, hdescribed⟩ := hdescribes f hf
      have hboth : n.Silent ∧ (Uniform v → n.Admits strict v.toJson) :=
        hdescribed.silent_and_admits hn
      exact hboth.1) hnode
  have hbase : (SchemaNode.mk (some "object") {} (some (resourceProperties node.declared)) none none
      none []).Silent := silent_resource fun key inner hmem => hsilent.holds (Or.inl ⟨key, hmem⟩)
  have hbaseGenerated : (SchemaNode.mk (some "object") {}
      (some (resourceProperties node.declared)) none none none []).Generated := by
    obtain ⟨hgenerated, horder⟩ :=
      resourceProperties_generated hresource.own_generated hresource.own_inKeyOrder
    exact .struct hgenerated horder (fun _ h => absurd h List.not_mem_nil) (.of_none rfl rfl rfl rfl) rfl
  have hdescribed : node.asResource s.documentation = (SchemaNode.mk (some "object") {}
      (some (resourceProperties node.declared)) none none none []).describe s.documentation := by
    rcases hfields with ⟨-, rfl⟩ | ⟨⟨properties, rfl⟩, -⟩ <;> rfl
  rw [hdescribed]
  refine ⟨hbase.describe _, hbase.admits_describe hbaseGenerated ?_ _⟩
  refine hbase.admits_object hbaseGenerated rfl rfl fun m hm => ?_
  obtain ⟨key, v, hentry, rfl⟩ := Yaml.Value.mem_toJson hm
  obtain ⟨text, rfl⟩ := huniform.keys hentry
  have hinner {inner : SchemaNode}
      (hfind : findKey? text (resourceProperties node.declared) = some inner) :
      inner.Generated ∧ inner.Silent :=
    ⟨(hbaseGenerated.of_properties rfl).1 text inner (mem_of_findKey? hfind),
      hbase.holds (Or.inl ⟨text, mem_of_findKey? hfind⟩)⟩
  by_cases hreserved : text ∈ reservedKeys
  · -- What every resource says about itself.
    simp only [reservedKeys, List.mem_cons, List.not_mem_nil, or_false] at hreserved
    rcases hreserved with rfl | rfl | rfl
    · obtain ⟨text, rfl⟩ := htypes.apiVersion v hentry
      have hfind : findKey? "apiVersion" (resourceProperties node.declared) = some (builtinProperty
          "string" "APIVersion defines the versioned schema of this representation of an object.") := by
        rw [resourceProperties, findKey?_insertKey, findKey?_insertKey, findKey?_insertKey]
        rfl
      exact ⟨_, hfind, (hinner hfind).2.admits_typed (hinner hfind).1 rfl rfl rfl rfl rfl rfl⟩
    · obtain ⟨text, rfl⟩ := hkind v hentry
      have hfind : findKey? "kind" (resourceProperties node.declared) = some (builtinProperty "string"
          "Kind is a string value representing the REST resource this object represents.") := by
        rw [resourceProperties, findKey?_insertKey, findKey?_insertKey]
        rfl
      exact ⟨_, hfind, (hinner hfind).2.admits_typed (hinner hfind).1 rfl rfl rfl rfl rfl rfl⟩
    · obtain ⟨inner, rfl⟩ := htypes.metadata v hentry
      have hfind : findKey? "metadata" (resourceProperties node.declared) = some (.typed "object") := by
        rw [resourceProperties, findKey?_insertKey]
        rfl
      exact ⟨_, hfind, (hinner hfind).2.admits_typed (hinner hfind).1 rfl rfl rfl rfl rfl rfl⟩
  · have hkept : (.string text, v) ∈ Walk.ownEntries entries := by
      refine List.mem_filter.mpr ⟨hentry, ?_⟩
      show (!reservedKeys.contains text) = true
      rw [Bool.not_eq_true', ← Bool.not_eq_true, List.contains_iff_mem]
      exact hreserved
    have hkey : Value.string text ∈ s.fields.map fun f => Value.string f.sourceKey := by
      rw [hreads.keys]
      exact List.mem_map.mpr ⟨_, hkept, rfl⟩
    obtain ⟨f, hf, heq⟩ := List.mem_map.mp hkey
    obtain rfl := Value.string.inj heq
    obtain ⟨u, hu, hdescribed⟩ := hdescribes f hf
    obtain rfl := Schema.value_unique hown hu hkept
    rcases hfields with ⟨hnone, -⟩ | ⟨-, hfields⟩
    · rw [hnone] at hf
      exact absurd hf List.not_mem_nil
    · obtain ⟨bare, hfind, hbareNode⟩ := hfields f hf
      obtain ⟨hsilentBare, hadmits⟩ := hdescribed.silent_and_admits hbareNode
      refine ⟨_, (findKey?_resourceProperties hreserved).trans hfind, ?_⟩
      exact hsilentBare.admits_describe (FieldType.node_expand_generated hbareNode)
        (hadmits (huniform.values hentry)) _

theorem Uniform.isPlain {v : Value} (h : Uniform v) : v.IsPlain := by
  induction h with
  | @scalar v hscalar =>
    cases v with
    | null => exact .null
    | bool b => exact .bool b
    | number n => exact .number n
    | string s => exact .string s
    | sequence | mapping | tagged => cases hscalar
  | mapping hkeys _ _ ih => exact .mapping hkeys ih
  | scalars _ _ ih => exact .sequence ih
  | mappings _ _ _ ih => exact .sequence ih

namespace Schema

/-- **The definition that is made from a document admits the document**, whatever its comments
document and whatever the options are. -/
theorem ofValue_accepts {ctx : DocumentContext} (hrules : ctx.HasNoRules) {v : Value}
    (huniform : Uniform v) (htypes : ∀ entries, v = .mapping entries → HasResourceTypes entries)
    {schema : Schema} (h : ofValue ctx v = .ok schema) {options : CrdOptions} {crd : Crd}
    (hcrd : Crd.ofSchema options schema = .ok crd) (strict : Bool) :
    ∃ document validator, crd.jsonSchema strict none = .ok document ∧
      Validator.ofSchema document = .ok validator ∧ validator.accepts v.toJson = true := by
  obtain ⟨entries, s, rfl, -, hnodup, ⟨kind, hkind⟩, hroot, hreads⟩ :=
    ofValue_reads hrules huniform h
  obtain ⟨group, version, root, node, own, resource, hroot', hnode, rfl, rfl, hresource, heq⟩ :=
    Crd.ofSchema_eq_ok hcrd
  obtain rfl := Option.some.inj (hroot.symm.trans hroot')
  obtain ⟨hsilent, hadmits⟩ := SchemaNode.admits_document hreads hnode huniform
    (fun v hv => kindOf_string hnodup hkind huniform hv) (htypes entries rfl) hresource strict
  have hversions : crd.versions = [⟨version, true, true, some (node.asResource s.documentation)⟩] := by
    rw [heq]
  obtain ⟨members, hdocument, hschema, hdialect⟩ :=
    Crd.exists_jsonSchema hversions rfl hresource.generated strict
  have hsound := hschema.sound hresource.generated hsilent.facets.fit fun inner hinner =>
    (hsilent.holds hinner).sound (hresource.generated.holds hinner) strict
  obtain ⟨validator, hvalidator⟩ := hsound.exists_validator hdialect
  exact ⟨_, validator, hdocument, hvalidator,
    (JsonSchema.Validator.accepts_iff_admits hresource.generated hschema hdialect hvalidator).mpr
      hadmits⟩

/-- **A chart's default values match their own schema.** If a schema is inferred from a text
without rules that is uniform and says about its resource what every resource says, then the JSON
Schema of each definition of this schema, closed or not, accepts the text. -/
theorem infer_accepts {options : BuildOptions} {text : String} {v : Value} {schema : Schema}
    (hparse : Value.parse? text = some v)
    (hrules : DocumentContext.HasNoRules ⟨options, SourceMap.scan text⟩) (huniform : Uniform v)
    (htypes : ∀ entries, v = .mapping entries → HasResourceTypes entries)
    (h : infer options text = .ok schema) {crdOptions : CrdOptions} {crd : Crd}
    (hcrd : Crd.ofSchema crdOptions schema = .ok crd) (strict : Bool) :
    ∃ json document validator, Yaml.parseJson? text = some json ∧
      crd.jsonSchema strict none = .ok document ∧
      Validator.ofSchema document = .ok validator ∧ validator.accepts json = true := by
  obtain ⟨schema', hschema, h⟩ := Outcome.bind_eq_ok.mp h
  have hsame : schema' = schema := by
    split at h
    · exact Except.ok.inj h
    · exact nomatch h
  subst hsame
  rw [ofText, hparse] at hschema
  obtain ⟨document, validator, hdocument, hvalidator, haccepts⟩ :=
    ofValue_accepts hrules huniform htypes hschema hcrd strict
  exact ⟨v.toJson, document, validator, Yaml.parseJson?_eq_toJson hparse huniform.isPlain,
    hdocument, hvalidator, haccepts⟩

/-- A text with comments and a list of mappings, each with a key that the other one lacks. -/
def cacheText : String :=
  "apiVersion: a.io/v1\nkind: Cache\nmetadata:\n  name: main\n# Where to ask.\nservers:\n- host: a\n  port: 1\n- host: b\n  weight: 0.5\n"

/-- What the text reads as. -/
def cacheValue : Value :=
  .mapping [(.string "apiVersion", .string "a.io/v1"), (.string "kind", .string "Cache"),
    (.string "metadata", .mapping [(.string "name", .string "main")]),
    (.string "servers", .sequence [
      .mapping [(.string "host", .string "a"), (.string "port", .number (.int 1))],
      .mapping [(.string "host", .string "b"),
        (.string "weight", .number (.float (.finite false (2 ^ 52) (-53))))]])]

theorem uniform_cacheValue : Uniform cacheValue := by
  have hstring (s : String) : Uniform (.string s) := .scalar rfl fun _ h => (nomatch h)
  have hint (n : Int) : Uniform (.number (.int n)) := .scalar rfl fun _ h => (nomatch h)
  have hfloat : Uniform (.number (.float (.finite false (2 ^ 52) (-53)))) :=
    .scalar rfl fun x h => Number.float.inj (Value.number.inj h) ▸ rfl
  refine .mapping (by simp) (by decide +kernel) fun key v hmem => ?_
  simp only [List.mem_cons, Prod.mk.injEq, List.not_mem_nil, or_false] at hmem
  rcases hmem with ⟨rfl, rfl⟩ | ⟨rfl, rfl⟩ | ⟨rfl, rfl⟩ | ⟨rfl, rfl⟩
  · exact hstring _
  · exact hstring _
  · refine .mapping (by simp) (by decide +kernel) fun key v hmem => ?_
    obtain ⟨rfl, rfl⟩ := Prod.mk.inj (List.mem_singleton.mp hmem)
    exact hstring _
  · refine .mappings (by simp) ?_ fun item hitem => ?_
    · -- Only the host is in both items.
      refine List.pairwise_pair.mpr ?_
      rintro xs ys hxs hys key v w hv hw
      obtain rfl := Value.mapping.inj hxs
      obtain rfl := Value.mapping.inj hys
      simp only [List.mem_cons, Prod.mk.injEq, List.not_mem_nil, or_false] at hv hw
      rcases hv with ⟨rfl, rfl⟩ | ⟨rfl, rfl⟩ <;> rcases hw with ⟨hkey, rfl⟩ | ⟨hkey, rfl⟩
      · exact .scalar rfl rfl rfl
      all_goals exact absurd hkey (by decide +kernel)
    · simp only [List.mem_cons, List.not_mem_nil, or_false] at hitem
      rcases hitem with rfl | rfl
      all_goals
        refine .mapping (by simp) (by decide +kernel) fun key v hmem => ?_
        simp only [List.mem_cons, Prod.mk.injEq, List.not_mem_nil, or_false] at hmem
        rcases hmem with ⟨rfl, rfl⟩ | ⟨rfl, rfl⟩
      · exact hstring _
      · exact hint _
      · exact hstring _
      · exact hfloat

/-- Comments are without rules if those of each key are. -/
theorem hasNoRules_of_entries {ctx : DocumentContext}
    (h : ∀ entry ∈ ctx.sources.entries, ∀ line ∈ entry.2.comments,
      Comment.isPlus (Comment.content line) = false) : ctx.HasNoRules := by
  intro path line hline
  unfold SourceMap.comments SourceMap.get? at hline
  split at hline
  · next entry hlookup =>
    obtain ⟨before, after, heq, -⟩ := List.lookup_eq_some_iff.mp hlookup
    exact h (path, entry) (heq ▸ List.mem_append_right _ List.mem_cons_self) line hline
  · exact absurd hline List.not_mem_nil

/-- The definition of the text accepts it, closed or not. -/
theorem infer_accepts_cache :
    ∃ schema crd, infer {} cacheText = .ok schema ∧ Crd.ofSchema {} schema = .ok crd ∧
      ∀ strict, ∃ json document validator, Yaml.parseJson? cacheText = some json ∧
        crd.jsonSchema strict none = .ok document ∧
        Validator.ofSchema document = .ok validator ∧ validator.accepts json = true := by
  have hchars := Text.toList_of_eq (s := cacheText) (by unfold cacheText; rfl)
  have hparse : Value.parse? cacheText = some cacheValue := by
    rw [Value.parse?, Yaml.Document.parse?, hchars]
    decide +kernel
  have hrules : DocumentContext.HasNoRules ⟨{}, SourceMap.scan cacheText⟩ := by
    rw [SourceMap.scan, hchars]
    exact hasNoRules_of_entries (by decide +kernel)
  have hsome : ((infer {} cacheText).toOption.bind fun schema =>
      (Crd.ofSchema {} schema).toOption).isSome = true := by
    rw [infer, ofText, hparse, SourceMap.scan, hchars]
    decide +kernel
  obtain ⟨crd, hbind⟩ := Option.isSome_iff_exists.mp hsome
  obtain ⟨schema, hschema, hcrd⟩ := Option.bind_eq_some_iff.mp hbind
  have hinferred := Outcome.toOption_eq_some.mp hschema
  have hmade := Outcome.toOption_eq_some.mp hcrd
  refine ⟨schema, crd, hinferred, hmade, fun strict => ?_⟩
  refine infer_accepts hparse hrules uniform_cacheValue (fun entries heq => ?_) hinferred hmade
    strict
  obtain rfl := Value.mapping.inj heq
  refine ⟨fun v hv => ?_, fun v hv => ?_⟩
  all_goals
    simp only [List.mem_cons, Prod.mk.injEq, List.not_mem_nil, or_false] at hv
    rcases hv with ⟨hkey, rfl⟩ | ⟨hkey, rfl⟩ | ⟨hkey, rfl⟩ | ⟨hkey, rfl⟩
    all_goals first | exact ⟨_, rfl⟩ | exact absurd hkey (by decide +kernel)

end Schema
end ChartSchema
