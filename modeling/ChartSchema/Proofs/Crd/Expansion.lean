import ChartSchema.Proofs.Crd.OutlineNode
import Mathlib
/-!
# When a definition can be made

A definition replaces every reference to a struct by the node of that struct. The structs of a
schema may refer to each other in any way: names may lead nowhere, several structs may share a
name, and references may run in circles. The replacement carries the names of the structs around
it along, and this is the only thing that stops it.

Two questions are answered here for every schema. **Does it end?** Each struct that is entered puts
a name on the list that was not there, and only the names of structs that the schema lists can be
put there, so no chain of entered structs goes on for ever (`Schema.enters_wellFounded`), and the
bound with which `structNode` is defined is never reached (`structNode_of_enough`). **When does it
succeed?** The list of names around a struct is hit only where a struct leads back to itself, so
the order in which structs are entered is of no account: what matters is which structs are reached
from the resource, and that nothing is wrong with any of them (`exists_structNode_iff`).
-/

namespace ChartSchema

/-! ## What can be wrong with a field -/

/-- The last parts of the names that stand for types of their own, in lower case. -/
def builtinHints : List String :=
  ["intorstring", "quantity", "time", "datetime", "date-time", "duration", "any",
   "interface\x7b\x7d", "json", "rawextension", "object"]

/-- **Whether a hint names a type of its own**: by the part behind its last point, letters in
either case. -/
def IsBuiltinHint (name : String) : Prop := baseName name ∈ builtinHints

/-- The names of types of their own are those that have a node. -/
theorem exists_namedNode?_iff {name : String} :
    (∃ node, namedNode? name = some node) ↔ IsBuiltinHint name := by
  unfold namedNode? IsBuiltinHint builtinHints
  simp only [List.contains_iff_mem, List.mem_cons, List.not_mem_nil, or_false]
  split_ifs <;> simp_all <;> tauto

mutual

/-- Whether nothing is known about some part of a type. -/
def TypeRef.hasUnknown (type : TypeRef) : Bool :=
  match type with
  | .unknown => true
  | .map value => value.hasUnknown
  | .list element => element.hasUnknown
  | _ => false
termination_by structural type

/-- Whether nothing is known about some part of the type of a field. -/
def FieldType.hasUnknown (type : FieldType) : Bool :=
  match type with
  | .single type => type.hasUnknown
  | .list element => element.hasUnknown
termination_by structural type

end

/-- **Nothing is wrong with a field by itself**, whatever the structs are that it leads to. -/
structure Schema.AdmitsField (schema : Schema) (f : Field) : Prop where
  /-- Every part of its type is known. -/
  known : f.type.hasUnknown = false
  /-- Every reference leads to a struct. -/
  resolves : ∀ name ∈ f.type.references, ∃ s, schema.struct? name = some s
  /-- Every hint that names no struct names a type of its own. -/
  hints : ∀ name ∈ f.type.hintNames, schema.struct? name = none → IsBuiltinHint name
  /-- Every line of a marker can be read. -/
  readable : ∀ raw ∈ f.markers, ∃ marker?, Marker.parse raw = .ok marker?
  /-- Markers that speak of lists stand on lists. -/
  fitting : ∀ raw ∈ f.markers, ∀ marker, Marker.parse raw = .ok (some marker) →
    marker.requiresList = true → f.type.isList = true

/-- **A struct leads to another one**: the type of a field refers to it, or has a hint that names
it. -/
def Schema.LeadsTo (schema : Schema) (s t : Struct) : Prop :=
  ∃ f ∈ s.fields, ∃ name, (name ∈ f.type.references ∨ name ∈ f.type.hintNames) ∧
    schema.struct? name = some t

theorem Schema.mem_of_struct? {schema : Schema} {name : String} {s : Struct}
    (h : schema.struct? name = some s) : s ∈ schema.structs ∧ s.name = name :=
  ⟨List.mem_of_find?_eq_some h, by simpa using List.find?_some h⟩

/-! ## The types and markers of a field -/

section Types

variable {expand : String → String → Except CrdError SchemaNode} {isStruct : String → Bool}
  {path : String}

/-- **What a type needs to have a node**: all of it is known, and its references and hints have
nodes. -/
structure NodesOf (expand : String → String → Except CrdError SchemaNode)
    (isStruct : String → Bool) (path : String) (unknown : Bool) (references hints : List String) :
    Prop where
  /-- Every part is known. -/
  known : unknown = false
  /-- Every struct has a node. -/
  structs : ∀ name ∈ references, ∃ node, expand name path = .ok node
  /-- Every struct that is named by a hint has a node. -/
  hinted : ∀ name ∈ hints, isStruct name = true → ∃ node, expand name path = .ok node
  /-- Every other hint names a type of its own. -/
  builtin : ∀ name ∈ hints, isStruct name = false → IsBuiltinHint name

theorem NodesOf.of_nil : NodesOf expand isStruct path false [] [] :=
  ⟨rfl, nofun, nofun, nofun⟩

theorem exists_bind_pure_iff {x : Except CrdError SchemaNode} {make : SchemaNode → SchemaNode} :
    (∃ node, (do let inner ← x; return make inner) = Except.ok node) ↔ ∃ node, x = .ok node := by
  cases x with
  | error e => exact ⟨fun ⟨_, h⟩ => (nomatch h), fun ⟨_, h⟩ => (nomatch h)⟩
  | ok inner => exact ⟨fun _ => ⟨inner, rfl⟩, fun _ => ⟨make inner, rfl⟩⟩

mutual

/-- **A type has a node if its parts are known and have nodes.** The node of a struct is looked for
elsewhere, so this is an induction over the type alone. -/
theorem TypeRef.exists_node_iff (type : TypeRef) :
    (∃ node, TypeRef.node expand isStruct path type = .ok node) ↔
      NodesOf expand isStruct path type.hasUnknown type.references type.hintNames := by
  match type with
  | .integer | .float | .string | .boolean => exact ⟨fun _ => .of_nil, fun _ => ⟨_, rfl⟩⟩
  | .struct name =>
    exact ⟨fun h => ⟨rfl, fun _ hname => List.mem_singleton.mp hname ▸ h, nofun, nofun⟩,
      fun h => h.structs name (List.mem_singleton_self name)⟩
  | .map value => exact exists_bind_pure_iff.trans (FieldType.exists_node_iff value)
  | .list element => exact exists_bind_pure_iff.trans (TypeRef.exists_node_iff element)
  | .named name =>
    have hname : name ∈ [name] := List.mem_singleton_self name
    rw [TypeRef.node]
    split
    · next hstruct =>
      refine ⟨fun h => ⟨rfl, nofun, fun _ hmem _ => List.mem_singleton.mp hmem ▸ h,
        fun _ hmem hnone => ?_⟩, fun h => h.hinted name hname hstruct⟩
      rw [List.mem_singleton.mp hmem, hstruct] at hnone
      exact nomatch hnone
    · next hstruct =>
      have hnode : (∃ node, (match namedNode? name with
          | some node => Except.ok node
          | none => .error (CrdError.unresolvedType name path)) = Except.ok node) ↔
            IsBuiltinHint name := by
        rw [← exists_namedNode?_iff]
        cases namedNode? name with
        | none => exact ⟨fun ⟨_, h⟩ => (nomatch h), fun ⟨_, h⟩ => (nomatch h)⟩
        | some node => exact ⟨fun _ => ⟨node, rfl⟩, fun _ => ⟨node, rfl⟩⟩
      refine hnode.trans ⟨fun h => ⟨rfl, nofun, fun _ hmem hsome => ?_,
        fun _ hmem _ => List.mem_singleton.mp hmem ▸ h⟩,
        fun h => h.builtin name hname (Bool.eq_false_iff.mpr hstruct)⟩
      exact absurd (List.mem_singleton.mp hmem ▸ hsome) hstruct
  | .unknown => exact ⟨fun ⟨_, h⟩ => (nomatch h), fun h => (nomatch h.known)⟩
termination_by structural type

/-- The type of a field has a node if its parts are known and have nodes. -/
theorem FieldType.exists_node_iff (type : FieldType) :
    (∃ node, FieldType.node expand isStruct path type = .ok node) ↔
      NodesOf expand isStruct path type.hasUnknown type.references type.hintNames := by
  match type with
  | .single type => exact TypeRef.exists_node_iff type
  | .list element => exact exists_bind_pure_iff.trans (TypeRef.exists_node_iff element)
termination_by structural type

end

end Types

namespace Marker

/-- **The markers of a field can be read** if every line can, and if those that speak of lists
stand on a list. -/
theorem exists_parseAll_iff {isList : Bool} {path : String} {raw : List String} :
    (∃ markers, parseAll isList path raw = .ok markers) ↔
      ∀ line ∈ raw, (∃ marker?, parse line = .ok marker?) ∧
        ∀ marker, parse line = .ok (some marker) → marker.requiresList = true → isList = true := by
  induction raw with
  | nil => exact ⟨fun _ _ hmem => absurd hmem List.not_mem_nil, fun _ => ⟨[], rfl⟩⟩
  | cons line rest ih =>
    rw [List.forall_mem_cons, ← ih, parseAll]
    cases parse line with
    | error fault => exact ⟨fun ⟨_, h⟩ => (nomatch h), fun ⟨⟨⟨_, h⟩, _⟩, _⟩ => (nomatch h)⟩
    | ok marker? =>
      cases marker? with
      | none => exact ⟨fun h => ⟨⟨⟨none, rfl⟩, nofun⟩, h⟩, fun h => h.2⟩
      | some marker =>
        show (∃ markers, (if (marker.requiresList && !isList) = true then
            Except.error (CrdError.invalidMarker line path .listOnly)
          else do
            let others ← parseAll isList path rest
            pure (marker :: others)) = .ok markers) ↔ _
        split
        · next hunfit =>
          rw [Bool.and_eq_true, Bool.not_eq_true'] at hunfit
          refine ⟨fun ⟨_, h⟩ => (nomatch h), fun h => ?_⟩
          exact absurd (h.1.2 marker rfl hunfit.1) (by rw [hunfit.2]; exact Bool.false_ne_true)
        · next hfits =>
          constructor
          · rintro ⟨markers, h⟩
            obtain ⟨others, hothers, -⟩ := Outcome.bind_eq_ok.mp h
            refine ⟨⟨⟨_, rfl⟩, fun m hm hlist => ?_⟩, others, hothers⟩
            obtain rfl := Option.some.inj (Except.ok.inj hm)
            by_contra hsingle
            exact hfits (by rw [hlist, Bool.eq_false_iff.mpr hsingle]; rfl)
          · rintro ⟨-, others, hothers⟩
            exact ⟨marker :: others, by rw [hothers]; rfl⟩

/-- The markers of a field can be applied to any node if they can be read. -/
theorem exists_applyLines_iff {isList : Bool} {path : String} {raw : List String}
    {node : SchemaNode} :
    (∃ own, applyLines isList path raw node = .ok own) ↔
      ∃ markers, parseAll isList path raw = .ok markers := by
  rw [applyLines_eq]
  constructor
  · rintro ⟨own, h⟩
    obtain ⟨markers, hmarkers, -⟩ := Outcome.bind_eq_ok.mp h
    exact ⟨markers, hmarkers⟩
  · rintro ⟨markers, hmarkers⟩
    exact ⟨_, by rw [hmarkers]; rfl⟩

end Marker

/-- Fields have properties if each has a node and its markers can be read. -/
theorem exists_fieldNodes_iff {node : Field → Except CrdError SchemaNode} {fields : List Field} :
    (∃ own, fieldNodes node fields = .ok own) ↔ ∀ f ∈ fields, (∃ bare, node f = .ok bare) ∧
      ∃ markers, Marker.parseAll f.type.isList f.sourcePath f.markers = .ok markers := by
  induction fields with
  | nil => exact ⟨fun _ _ hmem => absurd hmem List.not_mem_nil, fun _ => ⟨_, rfl⟩⟩
  | cons f rest ih =>
    rw [List.forall_mem_cons, ← ih]
    constructor
    · rintro ⟨own, h⟩
      obtain ⟨bare, hbare, h⟩ := Outcome.bind_eq_ok.mp h
      obtain ⟨first, hfirst, h⟩ := Outcome.bind_eq_ok.mp h
      obtain ⟨others, hothers, -⟩ := Outcome.bind_eq_ok.mp h
      exact ⟨⟨⟨bare, hbare⟩, Marker.exists_applyLines_iff.mp ⟨first, hfirst⟩⟩, others, hothers⟩
    · rintro ⟨⟨⟨bare, hbare⟩, hmarkers⟩, others, hothers⟩
      obtain ⟨first, hfirst⟩ := Marker.exists_applyLines_iff.mpr hmarkers
      exact ⟨_, Outcome.bind_eq_ok.mpr ⟨bare, hbare, Outcome.bind_eq_ok.mpr
        ⟨first, hfirst, Outcome.bind_eq_ok.mpr ⟨others, hothers, rfl⟩⟩⟩⟩

/-! ## One step into a struct -/

section Step

variable {schema : Schema} {fuel : Nat} {visiting : List String} {s : Struct}

/-- A name has a node if it leads to a struct that has one. -/
theorem Schema.exists_expand_iff {name path : String} :
    (∃ node, schema.expand fuel visiting name path = .ok node) ↔
      ∃ t, schema.struct? name = some t ∧ ∃ node, structNode schema fuel visiting t = .ok node := by
  rw [Schema.expand]
  cases schema.struct? name with
  | none => exact ⟨fun ⟨_, h⟩ => (nomatch h), fun ⟨_, h, _⟩ => (nomatch h)⟩
  | some t => exact ⟨fun h => ⟨t, rfl, h⟩, fun ⟨_, h, hnode⟩ => Option.some.inj h ▸ hnode⟩

/-- The type of a field has a node if nothing is wrong with it and the structs that it leads to
have nodes. -/
theorem Schema.exists_fieldNode_iff {f : Field} :
    ((∃ bare, schema.fieldNode fuel visiting f = .ok bare) ∧
        ∃ markers, Marker.parseAll f.type.isList f.sourcePath f.markers = .ok markers) ↔
      schema.AdmitsField f ∧
        ∀ name, (name ∈ f.type.references ∨ name ∈ f.type.hintNames) →
          ∀ t, schema.struct? name = some t →
            ∃ node, structNode schema fuel visiting t = .ok node := by
  rw [Schema.fieldNode, FieldType.exists_node_iff, Marker.exists_parseAll_iff]
  constructor
  · rintro ⟨⟨hknown, hstructs, hhinted, hbuiltin⟩, hmarkers⟩
    refine ⟨⟨hknown, fun name hname => ?_, fun name hname hnone => ?_,
      fun raw hraw => (hmarkers raw hraw).1, fun raw hraw => (hmarkers raw hraw).2⟩, ?_⟩
    · obtain ⟨t, ht, -⟩ := Schema.exists_expand_iff.mp (hstructs name hname)
      exact ⟨t, ht⟩
    · exact hbuiltin name hname (by rw [hnone]; rfl)
    · rintro name (hname | hname) t ht
      · obtain ⟨t', ht', hnode⟩ := Schema.exists_expand_iff.mp (hstructs name hname)
        exact Option.some.inj (ht'.symm.trans ht) ▸ hnode
      · obtain ⟨t', ht', hnode⟩ :=
          Schema.exists_expand_iff.mp (hhinted name hname (by rw [ht]; rfl))
        exact Option.some.inj (ht'.symm.trans ht) ▸ hnode
  · rintro ⟨hadmits, hbelow⟩
    refine ⟨⟨hadmits.known, fun name hname => ?_, fun name hname hsome => ?_,
      fun name hname hnone => ?_⟩,
      fun raw hraw => ⟨hadmits.readable raw hraw, hadmits.fitting raw hraw⟩⟩
    · obtain ⟨t, ht⟩ := hadmits.resolves name hname
      exact Schema.exists_expand_iff.mpr ⟨t, ht, hbelow name (.inl hname) t ht⟩
    · obtain ⟨t, ht⟩ := Option.isSome_iff_exists.mp hsome
      exact Schema.exists_expand_iff.mpr ⟨t, ht, hbelow name (.inr hname) t ht⟩
    · have hunknown : schema.struct? name = none := by simpa using hnone
      exact hadmits.hints name hname hunknown

/-- **A struct has a node** if its name is none of those around it, nothing is wrong with its
fields, and the structs that it leads to have nodes below it. -/
theorem exists_structNode_succ_iff :
    (∃ node, structNode schema (fuel + 1) visiting s = .ok node) ↔
      s.name ∉ visiting ∧ (∀ f ∈ s.fields, schema.AdmitsField f) ∧
        ∀ t, schema.LeadsTo s t →
          ∃ node, structNode schema fuel (s.name :: visiting) t = .ok node := by
  have hfields :
      (∃ own, fieldNodes (schema.fieldNode fuel (s.name :: visiting)) s.fields = .ok own) ↔
        (∀ f ∈ s.fields, schema.AdmitsField f) ∧ ∀ t, schema.LeadsTo s t →
          ∃ node, structNode schema fuel (s.name :: visiting) t = .ok node := by
    rw [exists_fieldNodes_iff]
    simp only [Schema.exists_fieldNode_iff]
    refine ⟨fun h => ⟨fun f hf => (h f hf).1, ?_⟩, fun h f hf => ⟨h.1 f hf, ?_⟩⟩
    · rintro t ⟨f, hf, name, hname, ht⟩
      exact (h f hf).2 name hname t ht
    · exact fun name hname t ht => h.2 t ⟨f, hf, name, hname, ht⟩
  rw [← hfields]
  unfold structNode
  split
  · next hvisiting =>
    refine ⟨?_, fun h => absurd (List.contains_iff_mem.mp hvisiting) h.1⟩
    rintro ⟨node, h⟩
    cases h
  · next hfresh =>
    have hfresh : s.name ∉ visiting := fun hmem => hfresh (List.contains_iff_mem.mpr hmem)
    split
    · next hempty =>
      rw [List.isEmpty_iff.mp hempty]
      exact ⟨fun _ => ⟨hfresh, _, rfl⟩, fun _ => ⟨_, rfl⟩⟩
    · constructor
      · rintro ⟨node, h⟩
        obtain ⟨own, hown, -⟩ := Outcome.bind_eq_ok.mp h
        exact ⟨hfresh, own, hown⟩
      · rintro ⟨-, own, hown⟩
        exact ⟨_, Outcome.bind_eq_ok.mpr ⟨own, hown, rfl⟩⟩

end Step

/-! ## The replacement ends -/

namespace Schema

variable {schema : Schema} {visiting : List String} {s t : Struct}

/-- **One struct is entered from another one**, each with the names of the structs around it: the
outer one is none of those around it and leads to the inner one. -/
def Enters (schema : Schema) (outer inner : List String × Struct) : Prop :=
  outer.2.name ∉ outer.1 ∧ schema.LeadsTo outer.2 inner.2 ∧ inner.1 = outer.2.name :: outer.1

/-- The names of structs that can still be entered below some names. -/
def fresh (schema : Schema) (visiting : List String) : Finset String :=
  (schema.structs.map (·.name)).toFinset \ visiting.toFinset

/-- A struct can be entered if the schema lists it and its name is none of those around it. -/
theorem mem_fresh {name : String} :
    name ∈ schema.fresh visiting ↔ (∃ s ∈ schema.structs, s.name = name) ∧ name ∉ visiting := by
  simp [fresh]

theorem fresh_cons (schema : Schema) (name : String) (visiting : List String) :
    schema.fresh (name :: visiting) = (schema.fresh visiting).erase name := by
  ext other
  simp only [mem_fresh, Finset.mem_erase, List.mem_cons, not_or]
  tauto

/-- At the start there are not more structs to enter than the schema lists. -/
theorem card_fresh_nil_le (schema : Schema) : (schema.fresh []).card ≤ schema.structs.length := by
  rw [fresh, List.toFinset_nil, Finset.sdiff_empty]
  exact (List.toFinset_card_le _).trans_eq (List.length_map _)

/-- **A struct that is entered leaves fewer of them.** This is the measure by which structs are
expanded: no struct is entered inside of itself. -/
theorem card_fresh_cons_lt (hs : s ∈ schema.structs) (hname : s.name ∉ visiting) :
    (schema.fresh (s.name :: visiting)).card < (schema.fresh visiting).card := by
  rw [fresh_cons]
  exact Finset.card_erase_lt_of_mem (mem_fresh.mpr ⟨⟨s, hs, rfl⟩, hname⟩)

theorem LeadsTo.mem (h : schema.LeadsTo s t) : t ∈ schema.structs := by
  obtain ⟨f, -, name, -, ht⟩ := h
  exact (mem_of_struct? ht).1

/-- **No chain of structs that are entered goes on for ever.** The first of them may be a struct
that the schema does not list, every other one is listed. -/
theorem enters_wellFounded (schema : Schema) :
    WellFounded fun inner outer => schema.Enters outer inner := by
  let remaining (state : List String × Struct) : ℕ :=
    (schema.fresh state.1).card + if state.2 ∈ schema.structs then 0 else 1
  refine Subrelation.wf ?_ (measure remaining).wf
  rintro ⟨_, t⟩ ⟨visiting, s⟩ ⟨hname, hleads, rfl⟩
  show remaining (s.name :: visiting, t) < remaining (visiting, s)
  simp only [remaining, if_pos hleads.mem]
  split
  · next hs => exact card_fresh_cons_lt hs hname
  · rw [fresh_cons]
    exact Nat.lt_succ_of_le ((Nat.add_zero _).le.trans Finset.card_erase_le)

end Schema

/-- **The bound on the depth is never reached**: every larger one gives the same. The induction is
on the bound; a struct that is entered leaves fewer to enter, and needs one less of it. -/
theorem structNode_of_enough {schema : Schema} {fuel more : ℕ} {visiting : List String}
    {s : Struct} (hs : s ∈ schema.structs) (hfuel : (schema.fresh visiting).card < fuel)
    (hmore : (schema.fresh visiting).card < more) :
    structNode schema fuel visiting s = structNode schema more visiting s := by
  induction fuel generalizing more visiting s with
  | zero => exact absurd hfuel (Nat.not_lt_zero _)
  | succ fuel ih =>
    cases more with
    | zero => exact absurd hmore (Nat.not_lt_zero _)
    | succ more =>
      by_cases hname : s.name ∈ visiting
      · have hvisiting : visiting.contains s.name = true := List.contains_iff_mem.mpr hname
        rw [structNode, structNode, if_pos hvisiting, if_pos hvisiting]
      · have hfewer := schema.card_fresh_cons_lt hs hname
        have hexpand : schema.expand fuel (s.name :: visiting) =
            schema.expand more (s.name :: visiting) := by
          funext name path
          unfold Schema.expand
          split
          · next t ht => exact ih (Schema.mem_of_struct? ht).1 (by omega) (by omega)
          · rfl
        have hnode : schema.fieldNode fuel (s.name :: visiting) =
            schema.fieldNode more (s.name :: visiting) := by
          funext f
          rw [Schema.fieldNode, Schema.fieldNode, hexpand]
        show (if visiting.contains s.name then _ else if s.fields.isEmpty then _ else
            fieldNodes (schema.fieldNode fuel (s.name :: visiting)) s.fields >>= _) =
          (if visiting.contains s.name then _ else if s.fields.isEmpty then _ else
            fieldNodes (schema.fieldNode more (s.name :: visiting)) s.fields >>= _)
        rw [hnode]

/-! ## Where it succeeds -/

namespace Schema

variable {schema : Schema} {fuel : ℕ} {visiting : List String} {s t : Struct}

/-- **Nothing is wrong with what a struct leads to**: no field of a struct that is reached from it
is refused, and none of these structs leads back to itself. -/
def IsExpandable (schema : Schema) (s : Struct) : Prop :=
  ∀ t, Relation.ReflTransGen schema.LeadsTo s t →
    (∀ f ∈ t.fields, schema.AdmitsField f) ∧ ¬ Relation.TransGen schema.LeadsTo t t

/-- **The names around a struct** are those of structs that lead to it. -/
def Surrounds (schema : Schema) (visiting : List String) (s : Struct) : Prop :=
  ∀ name ∈ visiting, ∃ t, schema.struct? name = some t ∧ Relation.TransGen schema.LeadsTo t s

/-- A struct that is entered is one of those around the structs that it leads to. -/
theorem Surrounds.enter (h : schema.Surrounds visiting s) (hs : schema.struct? s.name = some s)
    (hleads : schema.LeadsTo s t) : schema.Surrounds (s.name :: visiting) t := by
  intro name hname
  rcases List.mem_cons.mp hname with rfl | hname
  · exact ⟨s, hs, .single hleads⟩
  · obtain ⟨outer, houter, hchain⟩ := h name hname
    exact ⟨outer, houter, hchain.tail hleads⟩

/-- A struct that is led to is the one that its name leads to. -/
theorem LeadsTo.struct?_name (h : schema.LeadsTo s t) : schema.struct? t.name = some t := by
  obtain ⟨f, -, name, -, ht⟩ := h
  rwa [(mem_of_struct? ht).2]

/-- **Where nothing is wrong, there is a node.** The list of names is hit only by a struct that
leads back to itself. -/
theorem IsExpandable.exists_structNode (h : schema.IsExpandable s)
    (hs : schema.struct? s.name = some s) (hvisiting : schema.Surrounds visiting s)
    (hfuel : (schema.fresh visiting).card < fuel) :
    ∃ node, structNode schema fuel visiting s = .ok node := by
  induction fuel generalizing visiting s with
  | zero => exact absurd hfuel (Nat.not_lt_zero _)
  | succ fuel ih =>
    have hname : s.name ∉ visiting := by
      intro hmem
      obtain ⟨t, ht, hchain⟩ := hvisiting _ hmem
      obtain rfl := Option.some.inj (hs.symm.trans ht)
      exact (h s .refl).2 hchain
    refine exists_structNode_succ_iff.mpr ⟨hname, (h s .refl).1, fun t hleads => ?_⟩
    have hfewer := schema.card_fresh_cons_lt (mem_of_struct? hs).1 hname
    exact ih (fun u hchain => h u (.head hleads hchain)) hleads.struct?_name
      (hvisiting.enter hs hleads) (by omega)

/-- **Where there is a node, every struct that is reached has one**, below the names of all structs
on the way. -/
theorem exists_structNode_of_reaches {node : SchemaNode}
    (h : structNode schema fuel visiting s = .ok node)
    (hchain : Relation.ReflTransGen schema.LeadsTo s t) :
    ∃ fuel' visiting' node', structNode schema fuel' visiting' t = .ok node' ∧
      ∀ name ∈ visiting, name ∈ visiting' := by
  induction hchain using Relation.ReflTransGen.head_induction_on
    generalizing fuel visiting node with
  | refl => exact ⟨fuel, visiting, node, h, fun _ hname => hname⟩
  | head hleads _ ih =>
    cases fuel with
    | zero => exact nomatch h
    | succ fuel =>
      obtain ⟨-, -, hbelow⟩ := exists_structNode_succ_iff.mp ⟨node, h⟩
      obtain ⟨inner, hinner⟩ := hbelow _ hleads
      obtain ⟨fuel', visiting', node', hnode, hkept⟩ := ih hinner
      exact ⟨fuel', visiting', node', hnode, fun name hname => hkept name (.tail _ hname)⟩

/-- **Where there is a node, nothing is wrong.** A struct that leads back to itself would have a
node below its own name. -/
theorem isExpandable_of_structNode {node : SchemaNode}
    (h : structNode schema fuel visiting s = .ok node) : schema.IsExpandable s := by
  intro t hchain
  obtain ⟨fuel, visiting, node, hnode, -⟩ := exists_structNode_of_reaches h hchain
  cases fuel with
  | zero => exact nomatch hnode
  | succ fuel =>
    obtain ⟨-, hadmits, hbelow⟩ := exists_structNode_succ_iff.mp ⟨node, hnode⟩
    refine ⟨hadmits, fun hcycle => ?_⟩
    obtain ⟨inner, hleads, hback⟩ := Relation.TransGen.head'_iff.mp hcycle
    obtain ⟨innerNode, hinner⟩ := hbelow inner hleads
    obtain ⟨fuel', visiting', node', hagain, hkept⟩ := exists_structNode_of_reaches hinner hback
    cases fuel' with
    | zero => exact nomatch hagain
    | succ fuel' =>
      exact (exists_structNode_succ_iff.mp ⟨node', hagain⟩).1 (hkept _ List.mem_cons_self)

/-- **A struct has a node exactly if nothing is wrong with what it leads to.** The number of structs
is fuel enough, since on a way down each one is entered once. -/
theorem exists_structNode_iff (hs : schema.struct? s.name = some s)
    (hfuel : schema.structs.length < fuel) :
    (∃ node, structNode schema fuel [] s = .ok node) ↔ schema.IsExpandable s := by
  refine ⟨fun ⟨node, h⟩ => isExpandable_of_structNode h, fun h => ?_⟩
  exact h.exists_structNode hs (fun _ hname => absurd hname List.not_mem_nil)
    (schema.card_fresh_nil_le.trans_lt hfuel)

end Schema

/-! ## Definitions -/

/-- Whether a text has more than blanks. -/
def IsNonBlank (text : String) : Prop := Text.allBlank text = false

/-- **A group and a version are found**: in the schema, or else in the options. -/
structure Schema.FindsGroupVersion (options : CrdOptions) (schema : Schema) : Prop where
  /-- There is a group. -/
  group : IsNonBlank schema.apiVersion.group ∨
    ∃ group, options.group? = some group ∧ IsNonBlank group
  /-- There is a version. -/
  version : IsNonBlank schema.apiVersion.version ∨
    ∃ version, options.version? = some version ∧ IsNonBlank version

/-- A text with more than blanks is found in the first place or in the second one. -/
theorem exists_pick_iff {own : String} {configured? : Option String} :
    (∃ text, (nonBlank? own).or (configured?.bind nonBlank?) = some text) ↔
      IsNonBlank own ∨ ∃ text, configured? = some text ∧ IsNonBlank text := by
  have hnonBlank (text : String) : (nonBlank? text).isSome ↔ IsNonBlank text := by
    unfold nonBlank? IsNonBlank
    split <;> simp_all
  rw [← Option.isSome_iff_exists, Option.isSome_or, Bool.or_eq_true, hnonBlank]
  cases configured? with
  | none => simp
  | some text => simp [hnonBlank]

/-- **The group and the version are there if they are found.** -/
theorem exists_groupVersion_iff {options : CrdOptions} {schema : Schema} :
    (∃ named, groupVersion options schema = .ok named) ↔ schema.FindsGroupVersion options := by
  have hgroup := @exists_pick_iff schema.apiVersion.group options.group?
  have hversion := @exists_pick_iff schema.apiVersion.version options.version?
  rw [show schema.FindsGroupVersion options ↔ _ ∧ _ from ⟨fun h => ⟨h.group, h.version⟩,
    fun h => ⟨h.1, h.2⟩⟩, ← hgroup, ← hversion]
  unfold groupVersion
  dsimp only
  cases (nonBlank? schema.apiVersion.group).or (options.group?.bind nonBlank?) with
  | none =>
    constructor
    · rintro ⟨named, h⟩
      cases h
    · rintro ⟨⟨group, h⟩, -⟩
      cases h
  | some group =>
    cases (nonBlank? schema.apiVersion.version).or (options.version?.bind nonBlank?) with
    | none =>
      constructor
      · rintro ⟨named, h⟩
        cases h
      · rintro ⟨-, version, h⟩
        cases h
    | some version => exact ⟨fun _ => ⟨⟨group, rfl⟩, ⟨version, rfl⟩⟩, fun _ => ⟨_, rfl⟩⟩

/-- A definition is made from the group and the version and the node of the resource. -/
theorem Crd.exists_ofSchema_iff {options : CrdOptions} {schema : Schema} :
    (∃ crd, Crd.ofSchema options schema = .ok crd) ↔
      (∃ named, groupVersion options schema = .ok named) ∧ ∃ root, schema.root? = some root ∧
        ∃ node, structNode schema (schema.structs.length + 1) [] root = .ok node := by
  constructor
  · rintro ⟨crd, h⟩
    obtain ⟨named, hnamed, h⟩ := Outcome.bind_eq_ok.mp h
    dsimp only at h
    split at h
    · exact nomatch h
    · next root hroot =>
      obtain ⟨node, hnode, -⟩ := Outcome.bind_eq_ok.mp h
      exact ⟨⟨named, hnamed⟩, root, hroot, node, hnode⟩
  · rintro ⟨⟨named, hnamed⟩, root, hroot, node, hnode⟩
    unfold Crd.ofSchema
    rw [hnamed, hroot]
    exact ⟨_, Outcome.bind_eq_ok.mpr ⟨named, rfl, Outcome.bind_eq_ok.mpr ⟨node, hnode, rfl⟩⟩⟩

/-- **Making a definition ends, and it fails exactly when it must.** For every schema and all
options, no chain of structs that are entered goes on for ever, and the bound on the depth is never
reached. There is a definition if and only if a group and a version are found, there is a struct of
the resource, and, for all structs that are reached from it by name, nothing is wrong with their
fields and none of them reaches itself. -/
theorem Crd.ofSchema_ends_and_succeeds_iff (options : CrdOptions) (schema : Schema) :
    (WellFounded fun inner outer => schema.Enters outer inner) ∧
      (∀ root, schema.root? = some root → ∀ fuel, schema.structs.length < fuel →
        structNode schema fuel [] root =
          structNode schema (schema.structs.length + 1) [] root) ∧
      ((∃ crd, Crd.ofSchema options schema = .ok crd) ↔
        schema.FindsGroupVersion options ∧ ∃ root, schema.struct? schema.kind = some root ∧
          ∀ s, Relation.ReflTransGen schema.LeadsTo root s →
            (∀ f ∈ s.fields, schema.AdmitsField f) ∧
              ¬ Relation.TransGen schema.LeadsTo s s) := by
  have hstart := schema.card_fresh_nil_le
  refine ⟨schema.enters_wellFounded, fun root hroot fuel hfuel => ?_, ?_⟩
  · exact structNode_of_enough (Schema.mem_of_struct? hroot).1 (by omega) (by omega)
  · rw [Crd.exists_ofSchema_iff, exists_groupVersion_iff]
    refine and_congr_right fun _ => exists_congr fun root => and_congr_right fun hroot => ?_
    have hname := (Schema.mem_of_struct? hroot).2
    exact Schema.exists_structNode_iff (hname ▸ hroot) (Nat.lt_succ_self _)

/-- A circle that the resource does not reach does no harm. -/
example : (Crd.ofSchema {} ⟨⟨"a.io", "v1"⟩, "Cache", [
    { name := "Cache", fields := [
      { name := "Size", sourceKey := "size", type := .single .integer
        sourcePath := "Cache.size" }] },
    { name := "Loop", fields := [
      { name := "Next", sourceKey := "next", type := .single (.struct "Loop")
        sourcePath := "Cache.next" }] }]⟩).toOption.isSome = true := by
  decide +kernel

end ChartSchema
