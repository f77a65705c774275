import ChartSchema.Proofs.Crd.Expansion
import ChartSchema.Proofs.Outcome
import ChartSchema.Proofs.Schema.FieldData
import ChartSchema.Proofs.Schema.Shape
/-!
# Fields without a type and definitions

Before a definition is made, the fields of a schema are searched for those that lack a type. The
search looks at the outermost part of the type of every field that the schema lists. Making the
definition looks deeper, into maps and lists of lists, but only at the structs that are reached
from the resource. This module proves that the two agree (`Crd.ofSchema_gate`): where
a field is found, no definition can be made, and where none is found, it is never for the want of a
type or of a struct that the walk made that it cannot.

There are two halves. The types that the walk gives have nothing unknown inside, unless they are
unknown altogether (`FieldType.IsWhole`), and in a schema in reference order every struct is
reached from the first (`InReferenceOrder.exists_reaches`). The rest is a search for the causes of
errors: `Outcome.FailsOnly` is carried through the steps that make a definition, and
`Schema.CanFailWith` lists what is left.
-/

namespace ChartSchema

open Yaml (Value)

open Outcome (FailsOnly)

section Types

variable {P : CrdError → Prop} {expand : String → String → Except CrdError SchemaNode}
  {isStruct : String → Bool} {path : String}

/-- **What a type whose parts are known can fail with**: what the structs fail with that it refers
to or that its hints name, and hints that name neither a struct nor a type of their own. -/
structure TypeFailsOnly (P : CrdError → Prop)
    (expand : String → String → Except CrdError SchemaNode) (isStruct : String → Bool)
    (path : String) (references hints : List String) : Prop where
  /-- The structs that are referred to. -/
  structs : ∀ name ∈ references, FailsOnly P (expand name path)
  /-- The structs that are named by hints. -/
  hinted : ∀ name ∈ hints, isStruct name = true → FailsOnly P (expand name path)
  /-- The other hints. -/
  builtin : ∀ name ∈ hints, isStruct name = false → P (.unresolvedType name path)

mutual

/-- The node of a type fails with what the type can fail with. -/
theorem TypeRef.node_failsOnly (type : TypeRef) (hknown : type.hasUnknown = false)
    (h : TypeFailsOnly P expand isStruct path type.references type.hintNames) :
    FailsOnly P (TypeRef.node expand isStruct path type) := by
  match type with
  | .integer | .float | .string | .boolean => exact .ok _
  | .struct name => exact h.structs name (List.mem_singleton_self name)
  | .map value => exact (FieldType.node_failsOnly value hknown h).bind fun _ => .ok _
  | .list element => exact (TypeRef.node_failsOnly element hknown h).bind fun _ => .ok _
  | .named name =>
    have hname : name ∈ [name] := List.mem_singleton_self name
    rw [TypeRef.node]
    split
    · next hstruct => exact h.hinted name hname hstruct
    · next hstruct =>
      split
      · exact .ok _
      · exact .error (h.builtin name hname (Bool.eq_false_iff.mpr hstruct))
  | .unknown => exact nomatch hknown
termination_by structural type

theorem FieldType.node_failsOnly (type : FieldType) (hknown : type.hasUnknown = false)
    (h : TypeFailsOnly P expand isStruct path type.references type.hintNames) :
    FailsOnly P (FieldType.node expand isStruct path type) := by
  match type with
  | .single type => exact TypeRef.node_failsOnly type hknown h
  | .list element => exact (TypeRef.node_failsOnly element hknown h).bind fun _ => .ok _
termination_by structural type

end

end Types

theorem Marker.parseAll_failsOnly {P : CrdError → Prop}
    (hmarker : ∀ raw path fault, P (.invalidMarker raw path fault)) (isList : Bool)
    (path : String) (raw : List String) : FailsOnly P (parseAll isList path raw) := by
  induction raw with
  | nil => exact .ok _
  | cons line rest ih =>
    rw [parseAll]
    cases parse line with
    | error fault => exact .error (hmarker line path fault)
    | ok marker? =>
      cases marker? with
      | none => exact ih
      | some marker =>
        show FailsOnly P (if (marker.requiresList && !isList) = true then
            Except.error (CrdError.invalidMarker line path .listOnly)
          else do
            let others ← parseAll isList path rest
            pure (marker :: others))
        split
        · exact .error (hmarker line path .listOnly)
        · exact ih.bind fun _ => .ok _

theorem fieldNodes_failsOnly {P : CrdError → Prop}
    (hmarker : ∀ raw path fault, P (.invalidMarker raw path fault))
    {node : Field → Except CrdError SchemaNode} {fields : List Field}
    (hnode : ∀ f ∈ fields, FailsOnly P (node f)) : FailsOnly P (fieldNodes node fields) := by
  induction fields with
  | nil => exact .ok _
  | cons f rest ih =>
    obtain ⟨hfirst, hrest⟩ := List.forall_mem_cons.mp hnode
    refine hfirst.bind fun bare => FailsOnly.bind ?_ fun own => (ih hrest).bind fun _ => .ok _
    rw [Marker.applyLines_eq]
    exact (Marker.parseAll_failsOnly hmarker _ _ _).bind fun _ => .ok _

/-! ## Schemas whose types are known -/

namespace Schema

variable {schema : Schema}

/-- **What can be wrong with a schema of which all types are known**: a struct that contains itself,
a marker that is refused, or a hint that names neither a struct nor a type of its own. -/
inductive CanFailWith (schema : Schema) : CrdError → Prop
  /-- A struct contains itself. -/
  | recursive (name : String) : schema.CanFailWith (.recursiveType name)
  /-- A marker is refused. -/
  | marker (raw path : String) (fault : MarkerFault) :
    schema.CanFailWith (.invalidMarker raw path fault)
  /-- A hint names nothing. -/
  | hint {s : Struct} {f : Field} {name : String} :
    s ∈ schema.structs → f ∈ s.fields → name ∈ f.type.hintNames → schema.struct? name = none →
      schema.CanFailWith (.unresolvedType name f.sourcePath)

/-- **All types are known, and all references lead to structs.** -/
structure IsKnown (schema : Schema) : Prop where
  /-- Every part of the type of a field is known. -/
  types : ∀ s ∈ schema.structs, ∀ f ∈ s.fields, f.type.hasUnknown = false
  /-- Every reference leads to a struct. -/
  references : ∀ s ∈ schema.structs, ∀ f ∈ s.fields, ∀ name ∈ f.type.references,
    ∃ t, schema.struct? name = some t

/-- The node of a struct of such a schema fails with one of these. -/
theorem IsKnown.structNode_failsOnly (h : schema.IsKnown) {fuel : ℕ} {visiting : List String}
    {s : Struct} (hs : s ∈ schema.structs) :
    FailsOnly schema.CanFailWith (structNode schema fuel visiting s) := by
  induction fuel generalizing visiting s with
  | zero => exact .error (.recursive s.name)
  | succ fuel ih =>
    have hexpand (name path : String) (hsome : ∃ t, schema.struct? name = some t) :
        FailsOnly schema.CanFailWith (schema.expand fuel (s.name :: visiting) name path) := by
      obtain ⟨t, ht⟩ := hsome
      rw [expand, ht]
      exact ih (mem_of_struct? ht).1
    unfold structNode
    split
    · exact .error (.recursive s.name)
    split
    · exact .ok _
    refine FailsOnly.bind ?_ fun _ => .ok _
    refine fieldNodes_failsOnly .marker fun f hf => ?_
    refine FieldType.node_failsOnly f.type (h.types s hs f hf) ⟨fun name hname => ?_,
      fun name _ hstruct => ?_, fun name hname hstruct => ?_⟩
    · exact hexpand name _ (h.references s hs f hf name hname)
    · exact hexpand name _ (Option.isSome_iff_exists.mp hstruct)
    · exact .hint hs hf hname (by simpa using hstruct)

end Schema

/-! ## Types in schemas of documents -/

/-- **A type that is known altogether or not at all**: nothing unknown hides inside a type that is
not unknown itself. A type that refers to a struct has no hints. -/
structure FieldType.IsWhole (type : FieldType) : Prop where
  /-- Nothing unknown is inside. -/
  known : type.unknownPosition? = none → type.hasUnknown = false
  /-- A type is from a hint or refers to structs, but not both. -/
  apart : type.references = [] ∨ type.hintNames = []

theorem TypeRef.hasUnknown_ofName (name : String) : (TypeRef.ofName name).hasUnknown = false := by
  unfold TypeRef.ofName
  split_ifs <;> rfl

theorem TypeRef.hasUnknown_ofHint (hint : List Char) :
    (TypeRef.ofHint hint).hasUnknown = false := by
  induction hint using TypeRef.ofHint.induct with
  | case1 hint element h ih => rw [TypeRef.ofHint, h]; exact ih
  | case2 hint h₁ value h₂ element h₃ ih =>
    rw [TypeRef.ofHint, h₁, h₂]
    dsimp only
    rw [h₃]
    exact ih
  | case3 hint h₁ value h₂ h₃ ih =>
    rw [TypeRef.ofHint, h₁, h₂]
    dsimp only
    rw [h₃]
    exact ih
  | case4 hint h₁ h₂ => rw [TypeRef.ofHint, h₁, h₂]; exact hasUnknown_ofName _

namespace FieldType.IsWhole

theorem ofHint (hint : List Char) : IsWhole (.ofHint hint) := by
  refine ⟨fun _ => ?_, Or.inl (references_ofHint hint)⟩
  unfold FieldType.ofHint
  split <;> exact TypeRef.hasUnknown_ofHint _

theorem ofSequenceHint (hint : List Char) : IsWhole (.ofSequenceHint hint) := by
  refine ⟨fun _ => ?_, Or.inl (references_ofSequenceHint hint)⟩
  unfold FieldType.ofSequenceHint FieldType.ofHint
  split <;> exact TypeRef.hasUnknown_ofHint _

/-- What a value shows is known, or nothing is. -/
theorem ofValue (v : Value) : IsWhole (.single (.ofValue v)) ∧ IsWhole (.list (.ofValue v)) := by
  have hnone := TypeRef.references_ofValue v
  refine ⟨⟨fun h => ?_, Or.inl hnone⟩, ⟨fun h => ?_, Or.inl hnone⟩⟩ <;>
  · unfold TypeRef.ofValue at h ⊢
    split at h
    · rfl
    · rfl
    · split <;> rfl
    · exact nomatch h

/-- **Every type that the walk gives is whole.** The cases are the five ways in which it finds a
type. -/
theorem ofWalk : Walk.HoldsOfTypes IsWhole where
  struct _ := ⟨fun _ => rfl, Or.inr rfl⟩
  structs _ := ⟨fun _ => rfl, Or.inr rfl⟩
  hint := ofHint
  scalar hint? v := by
    cases hint? with
    | none => exact (ofValue v).1
    | some hint => exact ofHint _
  list hint? items := by
    have hunknown : IsWhole (.list .unknown) := ⟨fun h => (nomatch h), Or.inl rfl⟩
    unfold Walk.listType
    cases items with
    | nil =>
      cases hint? with
      | none => exact hunknown
      | some hint => exact ofSequenceHint _
    | cons first rest =>
      cases hint? with
      | none => exact (ofValue first).2
      | some hint =>
        dsimp only
        split
        · exact ofSequenceHint _
        · exact (ofValue first).2

end FieldType.IsWhole

/-! ## Schemas of documents -/

/-- **In reference order every struct is reached** from one of those that the names refer to. The
induction is that of the order: a struct below another one is reached from it through the field
that refers to the first struct on the way. -/
theorem InReferenceOrder.exists_reaches {schema : Schema} {names : List String}
    {structs : List Struct} (h : InReferenceOrder names structs)
    (hfound : ∀ s ∈ structs, schema.struct? s.name = some s) :
    ∀ s ∈ structs, ∃ t ∈ structs, t.name ∈ names ∧ Relation.ReflTransGen schema.LeadsTo t s := by
  induction h with
  | nil => exact fun _ hs => absurd hs List.not_mem_nil
  | @cons first names below rest _ _ ihbelow ihrest =>
    obtain ⟨-, hothers⟩ := List.forall_mem_cons.mp hfound
    obtain ⟨hbelow, hrest⟩ := List.forall_mem_append.mp hothers
    intro s hs
    rcases List.mem_cons.mp hs with rfl | hs
    · exact ⟨s, List.mem_cons_self, List.mem_cons_self, .refl⟩
    rcases List.mem_append.mp hs with hs | hs
    · obtain ⟨t, ht, hname, hreaches⟩ := ihbelow hbelow s hs
      obtain ⟨f, hf, hreference⟩ := List.mem_flatMap.mp hname
      have hleads : schema.LeadsTo first t := ⟨f, hf, t.name, Or.inl hreference, hbelow t ht⟩
      exact ⟨first, List.mem_cons_self, List.mem_cons_self, .head hleads hreaches⟩
    · obtain ⟨t, ht, hname, hreaches⟩ := ihrest hrest s hs
      exact ⟨t, List.mem_cons_of_mem _ (List.mem_append_right _ ht), List.mem_cons_of_mem _ hname,
        hreaches⟩

namespace Schema

variable {ctx : DocumentContext} {v : Value} {schema : Schema}

/-- A schema of a document has a struct of the resource, and every struct is reached from it. -/
theorem exists_root_reaches (h : ofValue ctx v = .ok schema) :
    ∃ root, schema.root? = some root ∧
      ∀ s ∈ schema.structs, Relation.ReflTransGen schema.LeadsTo root s := by
  obtain ⟨hnodup, horder⟩ := ofValue_structs h
  have hfound (s : Struct) (hs : s ∈ schema.structs) : schema.struct? s.name = some s :=
    struct?_of_mem hnodup hs
  have hreaches := horder.exists_reaches hfound
  have hstart (s : Struct) (hs : s ∈ schema.structs) :
      ∃ t, schema.root? = some t ∧ Relation.ReflTransGen schema.LeadsTo t s := by
    obtain ⟨t, ht, hname, hchain⟩ := hreaches s hs
    exact ⟨t, by rw [root?, ← List.mem_singleton.mp hname, hfound t ht], hchain⟩
  obtain ⟨first, hfirst, -⟩ := Option.map_eq_some_iff.mp horder.head_name
  obtain ⟨root, hroot, -⟩ := hstart first (List.mem_of_head? hfirst)
  refine ⟨root, hroot, fun s hs => ?_⟩
  obtain ⟨t, ht, hchain⟩ := hstart s hs
  exact Option.some.inj (hroot.symm.trans ht) ▸ hchain

/-- No field is found exactly if the outermost part of every type is known. -/
theorem unknownFields_eq_nil_iff :
    schema.unknownFields = [] ↔
      ∀ s ∈ schema.structs, ∀ f ∈ s.fields, f.type.unknownPosition? = none := by
  simp only [unknownFields, List.filterMap_eq_nil_iff, fields, List.mem_flatMap, List.mem_map,
    UnknownField.of?, Option.map_eq_none_iff]
  constructor
  · exact fun h s hs f hf => h (s, f) ⟨s, hs, f, hf, rfl⟩
  · rintro h _ ⟨s, hs, f, hf, rfl⟩
    exact h s hs f hf

theorem unknownPosition?_of_known {type : FieldType} (h : type.hasUnknown = false) :
    type.unknownPosition? = none := by
  unfold FieldType.unknownPosition?
  split
  · exact nomatch h
  · exact nomatch h
  · rfl

/-- **Where no field without a type is found, all types are known** in every part, and all
references lead to structs. -/
theorem isKnown_of_unknownFields (h : ofValue ctx v = .ok schema)
    (hnone : schema.unknownFields = []) : schema.IsKnown := by
  obtain ⟨hnodup, horder⟩ := ofValue_structs h
  have hwhole := ofValue_types FieldType.IsWhole.ofWalk h
  refine ⟨fun s hs f hf => (hwhole s hs f hf).known (unknownFields_eq_nil_iff.mp hnone s hs f hf),
    fun s hs f hf name hname => ?_⟩
  have htree := isStructTree_of_inOrder hnodup horder
  have hmem : (s, f) ∈ schema.fields := List.mem_flatMap.mpr ⟨s, hs, List.mem_map_of_mem hf⟩
  obtain ⟨t, ht, rfl⟩ := htree.resolves s f hmem name hname
  exact ⟨t, struct?_of_mem hnodup ht⟩

/-- **Where a definition is made, no field lacks a type**: every struct is reached from the
resource, and no struct that is reached has such a field. -/
theorem unknownFields_of_structNode (h : ofValue ctx v = .ok schema) {root : Struct}
    (hroot : schema.root? = some root) {fuel : ℕ} {node : SchemaNode}
    (hnode : structNode schema fuel [] root = .ok node) : schema.unknownFields = [] := by
  obtain ⟨root', hroot', hreaches⟩ := exists_root_reaches h
  obtain rfl := Option.some.inj (hroot.symm.trans hroot')
  refine unknownFields_eq_nil_iff.mpr fun s hs f hf => unknownPosition?_of_known ?_
  exact ((isExpandable_of_structNode hnode s (hreaches s hs)).1 f hf).known

/-- Where no field without a type is found, the schema of a text passes. -/
theorem infer_of_known {options : BuildOptions} {text : String}
    (h : ofText options text = .ok schema) (hnone : schema.unknownFields = []) :
    infer options text = .ok schema := by
  have hreport : schema.unknownReport? options.markerTool = none := by
    rw [unknownReport?, hnone]
  unfold infer
  refine Outcome.bind_eq_ok.mpr ⟨schema, h, ?_⟩
  rw [hreport]
  rfl

end Schema

/-! ## Definitions -/

namespace Crd

/-- What a definition cannot be made for, where a group and a version are found and all types are
known. -/
theorem ofSchema_failsOnly {options : CrdOptions} {schema : Schema} {named : String × String}
    (hnamed : groupVersion options schema = .ok named) (hknown : schema.IsKnown) {root : Struct}
    (hroot : schema.root? = some root) :
    FailsOnly schema.CanFailWith (ofSchema options schema) := by
  unfold ofSchema
  rw [hnamed, hroot]
  exact (hknown.structNode_failsOnly (Schema.mem_of_struct? hroot).1).bind fun _ => .ok _

/-- **The search for fields without a type finds exactly what a definition cannot do without.** For
every document with a schema and all options under which a group and a version are found: if a
field is found, no definition is made. If none is found, the schema passes, and a definition can
fail neither for an unknown type nor for the want of the resource's struct; and if a name cannot
be resolved, it stands in a hint, at the path of a field whose type is a hint, and the walk made no
reference with this name. -/
theorem ofSchema_gate {ctx : DocumentContext} {v : Value} {schema : Schema} {options : CrdOptions}
    {named : String × String} (hschema : Schema.ofValue ctx v = .ok schema)
    (hnamed : groupVersion options schema = .ok named) :
    (schema.unknownFields ≠ [] → ∃ e, ofSchema options schema = .error e) ∧
      (schema.unknownFields = [] →
        (∀ text, Schema.ofText ctx.options text = .ok schema →
          Schema.infer ctx.options text = .ok schema) ∧
        (∀ path, ofSchema options schema ≠ .error (.unknownType path)) ∧
        (∀ kind, ofSchema options schema ≠ .error (.missingRoot kind)) ∧
        ∀ name path, ofSchema options schema = .error (.unresolvedType name path) →
          (∃ s ∈ schema.structs, ∃ f ∈ s.fields, f.sourcePath = path ∧
            name ∈ f.type.hintNames ∧ f.type.references = []) ∧
          ∀ s ∈ schema.structs, ∀ f ∈ s.fields, name ∉ f.type.references) := by
  obtain ⟨root, hroot, -⟩ := Schema.exists_root_reaches hschema
  constructor
  · intro hfound
    cases hcrd : ofSchema options schema with
    | error e => exact ⟨e, rfl⟩
    | ok crd =>
      obtain ⟨-, root', hroot', node, hnode⟩ := Crd.exists_ofSchema_iff.mp ⟨crd, hcrd⟩
      exact absurd (Schema.unknownFields_of_structNode hschema hroot' hnode) hfound
  · intro hnone
    have hknown := Schema.isKnown_of_unknownFields hschema hnone
    have hfails := ofSchema_failsOnly hnamed hknown hroot
    refine ⟨fun text htext => Schema.infer_of_known htext hnone, fun path h => ?_,
      fun kind h => ?_, fun name path h => ?_⟩
    · cases hfails _ h
    · cases hfails _ h
    · cases hfails _ h with
      | @hint s f _ hs hf hname hunresolved =>
        have hwhole := Schema.ofValue_types FieldType.IsWhole.ofWalk hschema s hs f hf
        have hreferences : f.type.references = [] :=
          hwhole.apart.resolve_right (List.ne_nil_of_mem hname)
        refine ⟨⟨s, hs, f, hf, rfl, hname, hreferences⟩, fun t ht g hg hreference => ?_⟩
        obtain ⟨u, hu⟩ := hknown.references t ht g hg name hreference
        rw [hu] at hunresolved
        cases hunresolved

/-- A document with a list of mappings and a null. -/
def tank : Value :=
  .mapping [(.string "apiVersion", .string "a.io/v1"), (.string "kind", .string "Tank"),
    (.string "levels", .sequence [.mapping [(.string "low", .number (.int 1))]]),
    (.string "rest", .null)]

/-- Comments above the null. -/
def tankContext (above : List String) : DocumentContext := ⟨{}, ⟨[([.key "rest"], ⟨5, above⟩)]⟩⟩

/-- Without a hint the null is found and no definition is made. Under a hint that names nothing
nothing is found, and what stops the definition is the hint. -/
theorem ofSchema_gate_tank :
    (∃ schema named, Schema.ofValue (tankContext []) tank = .ok schema ∧
      groupVersion {} schema = .ok named ∧ schema.unknownFields ≠ [] ∧
      ∃ e, ofSchema {} schema = .error e) ∧
    ∃ schema named,
      Schema.ofValue (tankContext ["# +miaka:type:[]Missing"]) tank = .ok schema ∧
      groupVersion {} schema = .ok named ∧ schema.unknownFields = [] ∧
      (∀ path, ofSchema {} schema ≠ .error (.unknownType path)) ∧
      (∃ e, ofSchema {} schema = .error e) ∧
      ∀ name path, ofSchema {} schema = .error (.unresolvedType name path) →
        ∃ s ∈ schema.structs, ∃ f ∈ s.fields, f.sourcePath = path ∧ name ∈ f.type.hintNames ∧
          f.type.references = [] := by
  have hread (above : List String) (none fails : Bool)
      (h : ((Schema.ofValue (tankContext above) tank).toOption.bind fun schema =>
        (groupVersion {} schema).toOption.map fun _ =>
          (schema.unknownFields.isEmpty, (ofSchema {} schema).toOption.isNone))
            = some (none, fails)) :
      ∃ schema named, Schema.ofValue (tankContext above) tank = .ok schema ∧
        groupVersion {} schema = .ok named ∧ schema.unknownFields.isEmpty = none ∧
        (ofSchema {} schema).toOption.isNone = fails := by
    obtain ⟨schema, hschema, h⟩ := Option.bind_eq_some_iff.mp h
    obtain ⟨named, hnamed, h⟩ := Option.map_eq_some_iff.mp h
    obtain ⟨hnone, hfails⟩ := Prod.mk.inj h
    exact ⟨schema, named, Outcome.toOption_eq_some.mp hschema,
      Outcome.toOption_eq_some.mp hnamed, hnone, hfails⟩
  constructor
  · obtain ⟨schema, named, hschema, hnamed, hfound, -⟩ := hread [] false true (by decide +kernel)
    have hne : schema.unknownFields ≠ [] := fun heq => by rw [heq] at hfound; cases hfound
    exact ⟨schema, named, hschema, hnamed, hne, (ofSchema_gate hschema hnamed).1 hne⟩
  · obtain ⟨schema, named, hschema, hnamed, hempty, hfails⟩ :=
      hread ["# +miaka:type:[]Missing"] true true (by decide +kernel)
    have hnone := List.isEmpty_iff.mp hempty
    obtain ⟨-, hknown, -, hhint⟩ := (ofSchema_gate hschema hnamed).2 hnone
    refine ⟨schema, named, hschema, hnamed, hnone, hknown, ?_, fun name path h =>
      (hhint name path h).1⟩
    cases hcrd : ofSchema {} schema with
    | error e => exact ⟨e, rfl⟩
    | ok crd =>
      rw [hcrd] at hfails
      cases hfails

end Crd
end ChartSchema
