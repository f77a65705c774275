import ChartSchema.Proofs.Schema.FreshName
import ChartSchema.Proofs.Schema.Walk
import Mathlib
/-!
# The structs of a schema are a tree

A schema lists its structs flat, and fields refer to them by name. This module proves that
nothing is lost by that: the names are distinct, every reference leads to a struct, every struct
but the resource itself is referred to from exactly one field, and the list has each struct
followed by those its fields refer to, field by field, each with its own behind it.

The last of these carries the proof. `InReferenceOrder names structs` says that the structs are
those that the names refer to, in this order. The walk builds its list by exactly the two steps
of that relation, also where it merges the items of a list: a key that occurs again adds neither
a field nor a struct. Distinct names come from the registry, which the walk leaves with one more
name for every struct it makes. The other properties follow by counting: in a list in reference
order every name but the first stands as often among the references as among the structs.
-/

namespace ChartSchema

open Yaml (Value)

/-! ## References -/

mutual

/-- The names of the structs that a type refers to, from left to right. -/
def TypeRef.references (type : TypeRef) : List String :=
  match type with
  | .struct name => [name]
  | .map value => value.references
  | .list element => element.references
  | _ => []
termination_by structural type

/-- The names of the structs that the type of a field refers to. -/
def FieldType.references (type : FieldType) : List String :=
  match type with
  | .single type => type.references
  | .list element => element.references
termination_by structural type

end

/-- The names that the fields of a struct refer to, in the order of the fields. -/
def Struct.references (s : Struct) : List String :=
  s.fields.flatMap (·.type.references)

theorem TypeRef.references_ofName (name : String) : (TypeRef.ofName name).references = [] := by
  unfold TypeRef.ofName
  split_ifs <;> rfl

/-- A hint refers to no struct: whatever is no scalar, map or list is a name. -/
theorem TypeRef.references_ofHint (hint : List Char) : (TypeRef.ofHint hint).references = [] := by
  induction hint using TypeRef.ofHint.induct with
  | case1 hint element h ih => rw [TypeRef.ofHint, h]; exact ih
  | case2 hint h₁ value h₂ element h₃ ih =>
    rw [TypeRef.ofHint, h₁, h₂]
    dsimp only
    rw [h₃]
    exact ih
  | case3 hint h₁ value h₂ h₃ ih =>
    rw [TypeRef.ofHint, h₁, h₂]
    dsimp only
    rw [h₃]
    exact ih
  | case4 hint h₁ h₂ => rw [TypeRef.ofHint, h₁, h₂]; exact references_ofName _

theorem TypeRef.references_ofValue (v : Value) : (TypeRef.ofValue v).references = [] := by
  unfold TypeRef.ofValue
  split
  · rfl
  · rfl
  · split <;> rfl
  · rfl

namespace FieldType

theorem references_ofHint (hint : List Char) : (ofHint hint).references = [] := by
  unfold ofHint
  split <;> exact TypeRef.references_ofHint _

theorem references_base (type : FieldType) : type.base.references = type.references := by
  cases type <;> rfl

theorem references_ofSequenceHint (hint : List Char) : (ofSequenceHint hint).references = [] :=
  (references_base (ofHint hint)).trans (references_ofHint hint)

end FieldType

namespace Walk

theorem references_scalarType (hint? : Option String) (v : Value) :
    (scalarType hint? v).references = [] := by
  cases hint? with
  | none => exact TypeRef.references_ofValue v
  | some hint => exact FieldType.references_ofHint _

/-- A list that does not start with a mapping refers to no struct. -/
theorem references_listType (hint? : Option String) (items : List Value) :
    (listType hint? items).references = [] := by
  cases items with
  | nil =>
    cases hint? with
    | none => rfl
    | some hint => exact FieldType.references_ofSequenceHint _
  | cons first rest =>
    cases hint? with
    | none => exact TypeRef.references_ofValue first
    | some hint =>
      unfold listType
      dsimp only
      split
      · exact FieldType.references_ofSequenceHint _
      · exact TypeRef.references_ofValue first

end Walk

/-! ## Reference order -/

/-- **Structs in the order of references**: the first name is that of the first struct, behind
which stand the structs that its fields refer to, and then those of the other names, all in this
order. -/
inductive InReferenceOrder : List String → List Struct → Prop
  /-- No names refer to no structs. -/
  | nil : InReferenceOrder [] []
  /-- A name refers to a struct, with the structs below it, before those of the other names. -/
  | cons {s : Struct} {names : List String} {below rest : List Struct} :
    InReferenceOrder s.references below → InReferenceOrder names rest →
      InReferenceOrder (s.name :: names) (s :: (below ++ rest))

namespace InReferenceOrder

variable {names others : List String} {structs more : List Struct}

/-- The structs of some names stand before those of other names. -/
theorem append (h : InReferenceOrder names structs) (h' : InReferenceOrder others more) :
    InReferenceOrder (names ++ others) (structs ++ more) := by
  induction h with
  | nil => exact h'
  | cons hbelow _ _ ihrest =>
    rw [List.cons_append, List.cons_append, List.append_assoc]
    exact cons hbelow ihrest

theorem single {name : String} {documentation : List String} {fields : List Field}
    (h : InReferenceOrder (fields.flatMap (·.type.references)) structs) :
    InReferenceOrder [name] ({ name, documentation, fields } :: structs) := by
  have hcons := cons (s := { name, documentation, fields }) h nil
  rwa [List.append_nil] at hcons

/-- **The structs are named by the references to them**: by those from outside, and by those
from the structs themselves. -/
theorem names_perm (h : InReferenceOrder names structs) :
    (structs.map (·.name)).Perm (names ++ structs.flatMap (·.references)) := by
  induction h with
  | nil => exact List.Perm.nil
  | cons _ _ ihbelow ihrest =>
    refine List.perm_iff_count.mpr fun name => ?_
    have hb := ihbelow.count_eq name
    have hr := ihrest.count_eq name
    simp only [List.map_cons, List.map_append, List.flatMap_cons, List.flatMap_append,
      List.cons_append, List.count_cons, List.count_append] at hb hr ⊢
    omega

theorem head_name {name : String} (h : InReferenceOrder (name :: names) structs) :
    structs.head?.map (·.name) = some name := by
  cases h
  rfl

end InReferenceOrder

/-! ## The registry along the walk -/

/-- **A registry in which some structs have taken their names**: if no name was given twice
before, none is given twice now, and the names in use are those of the structs and those that
were in use. -/
def NameRegistry.Registers (before : NameRegistry) (structs : List Struct)
    (after : NameRegistry) : Prop :=
  before.reserved.Nodup → after.reserved.Nodup ∧
    after.reserved.Perm (structs.map (·.name) ++ before.reserved)

namespace NameRegistry.Registers

variable {r r₁ r' : NameRegistry} {structs more : List Struct}

theorem refl (r : NameRegistry) : r.Registers [] r :=
  fun h => ⟨h, List.Perm.refl _⟩

theorem append (h : r.Registers structs r₁) (h' : r₁.Registers more r') :
    r.Registers (structs ++ more) r' := by
  intro hnodup
  obtain ⟨hnodup₁, hperm₁⟩ := h hnodup
  obtain ⟨hnodup', hperm'⟩ := h' hnodup₁
  refine ⟨hnodup', hperm'.trans ?_⟩
  rw [List.map_append]
  refine (List.Perm.append_left _ hperm₁).trans ?_
  rw [← List.append_assoc]
  exact List.Perm.append_right _ List.perm_append_comm

/-- A struct takes a name that is handed out, before those below it take theirs. -/
theorem uniqueName {options : BuildOptions} {key parent : String} {s : Struct}
    (hname : (r.uniqueName options key parent).1 = s.name)
    (h : (r.uniqueName options key parent).2.Registers structs r') :
    r.Registers (s :: structs) r' := by
  intro hnodup
  have hfree := r.uniqueName_free options key parent
  obtain ⟨hnodup', hperm⟩ := h (List.nodup_cons.mpr ⟨hfree, hnodup⟩)
  refine ⟨hnodup', hperm.trans ?_⟩
  rw [reserved_uniqueName, hname, List.map_cons, List.cons_append]
  exact List.perm_middle

end NameRegistry.Registers

/-! ## Merged fields -/

namespace Merged

/-- **Fields of a list's items that were merged properly**: their keys are distinct, and the
structs are those that the fields refer to. -/
structure IsProper (merged : Merged) : Prop where
  /-- No key has two fields. -/
  keys_nodup : (merged.fields.map (·.field.sourceKey)).Nodup
  /-- The structs stand in the order of the fields. -/
  inOrder : InReferenceOrder (merged.fields.flatMap (·.field.type.references)) merged.structs

theorem isProper_empty : IsProper {} := ⟨List.nodup_nil, .nil⟩

variable {merged merged' : Merged} {key : String}

/-- The field of a key is one of the fields and has this key. -/
theorem of_find? {existing : MergedField} (h : merged.find? key = some existing) :
    existing ∈ merged.fields ∧ existing.field.sourceKey = key :=
  ⟨List.mem_of_find?_eq_some h, by simpa using List.find?_some h⟩

theorem not_mem_of_find? (h : merged.find? key = none) :
    key ∉ merged.fields.map (·.field.sourceKey) := by
  intro hmem
  obtain ⟨m, hm, rfl⟩ := List.mem_map.mp hmem
  simpa using List.find?_eq_none.mp h m hm

/-- What is the same for a field and for the one in its place is the same for all fields. -/
theorem map_replace {β : Type} (g : MergedField → β) {existing new : MergedField}
    (hnodup : (merged.fields.map (·.field.sourceKey)).Nodup)
    (hfind : merged.find? key = some existing) (hnew : g new = g existing) :
    (merged.replace key new).fields.map g = merged.fields.map g := by
  obtain ⟨hmem, hexisting⟩ := of_find? hfind
  show (merged.fields.map _).map _ = _
  rw [List.map_map]
  refine List.map_congr_left fun m hm => ?_
  show g (if m.field.sourceKey == key then new else m) = g m
  split
  · next hm_key =>
    have : m = existing :=
      List.inj_on_of_nodup_map hnodup hm hmem ((beq_iff_eq.mp hm_key).trans hexisting.symm)
    rw [this, hnew]
  · rfl

/-- Another occurrence of a key changes nothing but what documents its field. -/
theorem map_document {β : Type} (g : MergedField → β)
    (hg : ∀ m documentation markers comments,
      g { field := { m.field with documentation, markers }, comments } = g m)
    {existing : MergedField} {place : Place} {block : CommentBlock} {line? : Option Nat}
    (hnodup : (merged.fields.map (·.field.sourceKey)).Nodup)
    (hfind : merged.find? key = some existing)
    (h : merged.document existing key place block line? = .ok merged') :
    merged'.fields.map g = merged.fields.map g ∧ merged'.structs = merged.structs := by
  rcases document_cases h with ⟨rfl, -⟩ | ⟨rfl, -⟩
  · exact ⟨rfl, rfl⟩
  · exact ⟨map_replace g hnodup hfind (hg existing _ _ _), rfl⟩

/-- **Another occurrence of a key changes neither keys nor types nor structs.** -/
theorem document_keeps {existing : MergedField} {place : Place} {block : CommentBlock}
    {line? : Option Nat} (hnodup : (merged.fields.map (·.field.sourceKey)).Nodup)
    (hfind : merged.find? key = some existing)
    (h : merged.document existing key place block line? = .ok merged') :
    merged'.fields.map (fun m => (m.field.sourceKey, m.field.type))
        = merged.fields.map (fun m => (m.field.sourceKey, m.field.type)) ∧
      merged'.structs = merged.structs :=
  map_document _ (fun _ _ _ _ => rfl) hnodup hfind h

/-- Fields that were merged properly stay so when a key occurs again. -/
theorem IsProper.document {existing : MergedField} {place : Place} {block : CommentBlock}
    {line? : Option Nat} (hmerged : merged.IsProper) (hfind : merged.find? key = some existing)
    (h : merged.document existing key place block line? = .ok merged') :
    merged'.IsProper ∧ merged'.structs = merged.structs := by
  obtain ⟨hfields, hstructs⟩ := document_keeps hmerged.keys_nodup hfind h
  have hkeys := congrArg (List.map Prod.fst) hfields
  have htypes := congrArg (List.flatMap fun p => FieldType.references p.2) hfields
  rw [List.map_map, List.map_map] at hkeys
  rw [List.flatMap_map, List.flatMap_map] at htypes
  refine ⟨⟨?_, ?_⟩, hstructs⟩
  · exact hkeys ▸ hmerged.keys_nodup
  · rw [hstructs]
    exact htypes ▸ hmerged.inOrder

/-- Fields that were merged properly stay so when a new key occurs. -/
theorem IsProper.push {new : MergedField} {own : List Struct} (hmerged : merged.IsProper)
    (hfind : merged.find? new.field.sourceKey = none)
    (hown : InReferenceOrder new.field.type.references own) :
    IsProper { fields := merged.fields ++ [new], structs := merged.structs ++ own } := by
  refine ⟨?_, ?_⟩
  · rw [List.map_append, List.nodup_append]
    refine ⟨hmerged.keys_nodup, List.nodup_singleton _, fun a ha b hb hab => ?_⟩
    rw [List.mem_map] at hb
    obtain ⟨m, hm, rfl⟩ := hb
    rw [List.mem_singleton.mp hm] at hab
    exact not_mem_of_find? hfind (hab ▸ ha)
  · rw [List.flatMap_append]
    refine hmerged.inOrder.append ?_
    rwa [List.flatMap_cons, List.flatMap_nil, List.append_nil]

end Merged

/-! ## The walk keeps the order and the names -/

namespace Walk

variable {ctx : DocumentContext}

mutual

/-- **The structs of a value are those that its type refers to**, in order, and their names are
new. The induction is that of the walk; the items of a list add to what was merged before. -/
theorem resolve_inOrder (v : Value) {key : String} {place : Place} {type : FieldType}
    {structs : List Struct} {r r' : NameRegistry}
    (h : resolve ctx key place v r = .ok ((type, structs), r')) :
    InReferenceOrder type.references structs ∧ r.Registers structs r' := by
  match v with
  | .tagged tag v =>
    rw [resolve_tagged] at h
    exact resolve_inOrder v h
  | .mapping entries =>
    rcases resolve_mapping h with ⟨hint, -, -, rfl, rfl, rfl⟩ | ⟨-, name, fields, nested, hname,
      hentries, rfl, rfl⟩
    · rw [FieldType.references_ofHint]
      exact ⟨.nil, .refl _⟩
    · obtain ⟨horder, hnames⟩ := resolveEntries_inOrder entries hentries
      exact ⟨.single horder, .uniqueName hname hnames⟩
  | .sequence items =>
    rcases resolve_sequence h with ⟨-, rfl, rfl, rfl⟩ | ⟨name, merged, -, hname, hitems, rfl, rfl⟩
    · rw [references_listType]
      exact ⟨.nil, .refl _⟩
    · obtain ⟨hmerged, own, hown, hnames⟩ :=
        resolveItems_inOrder items Merged.isProper_empty hitems
      rw [List.nil_append] at hown
      have horder : InReferenceOrder
          ((merged.fields.map (·.field)).flatMap (·.type.references)) merged.structs := by
        rw [List.flatMap_map]
        exact hmerged.inOrder
      exact ⟨.single horder, .uniqueName hname (hown ▸ hnames)⟩
  | .null | .bool _ | .number _ | .string _ =>
    obtain ⟨rfl, rfl, rfl⟩ := resolve_scalar rfl h
    rw [references_scalarType]
    exact ⟨.nil, .refl _⟩
termination_by structural v

/-- The structs of entries are those that their fields refer to. -/
theorem resolveEntries_inOrder (entries : List (Value × Value)) {place : Place}
    {fields : List Field} {structs : List Struct} {r r' : NameRegistry}
    (h : resolveEntries ctx place entries r = .ok ((fields, structs), r')) :
    InReferenceOrder (fields.flatMap (·.type.references)) structs ∧ r.Registers structs r' := by
  match entries with
  | [] =>
    obtain ⟨rfl, rfl, rfl⟩ := resolveEntries_nil h
    exact ⟨.nil, .refl _⟩
  | (k, v) :: rest =>
    obtain ⟨key, type, own, r₁, others, nested, -, hv, hrest, rfl, rfl⟩ := resolveEntries_cons h
    obtain ⟨horder, hnames⟩ := resolve_inOrder v hv
    obtain ⟨horder', hnames'⟩ := resolveEntries_inOrder rest hrest
    exact ⟨horder.append horder', hnames.append hnames'⟩
termination_by structural entries

/-- Merging items adds structs behind those so far, with names that are new. -/
theorem resolveItems_inOrder (items : List Value) {place : Place} {position : Nat}
    {merged merged' : Merged} {r r' : NameRegistry} (hmerged : merged.IsProper)
    (h : resolveItems ctx place position merged items r = .ok (merged', r')) :
    merged'.IsProper ∧ ∃ own, merged'.structs = merged.structs ++ own ∧ r.Registers own r' := by
  match items with
  | [] =>
    obtain ⟨rfl, rfl⟩ := resolveItems_nil h
    exact ⟨hmerged, [], (List.append_nil _).symm, .refl _⟩
  | item :: rest =>
    obtain ⟨merged₁, r₁, hitem, hrest⟩ := resolveItems_cons h
    obtain ⟨hmerged₁, own, hown, hnames⟩ := resolveItem_inOrder item hmerged hitem
    obtain ⟨hmerged', own', hown', hnames'⟩ :=
      resolveItems_inOrder rest hmerged₁ hrest
    exact ⟨hmerged', own ++ own', by rw [hown', hown, List.append_assoc], hnames.append hnames'⟩
termination_by structural items

theorem resolveItem_inOrder (item : Value) {place : Place} {merged merged' : Merged}
    {r r' : NameRegistry} (hmerged : merged.IsProper)
    (h : resolveItem ctx place merged item r = .ok (merged', r')) :
    merged'.IsProper ∧ ∃ own, merged'.structs = merged.structs ++ own ∧ r.Registers own r' := by
  match item with
  | .tagged tag v =>
    rw [resolveItem_tagged] at h
    exact resolveItem_inOrder v hmerged h
  | .mapping entries =>
    rw [resolveItem_mapping] at h
    exact mergeEntries_inOrder entries hmerged h
  | .null | .bool _ | .number _ | .string _ | .sequence _ =>
    obtain ⟨rfl, rfl⟩ := resolveItem_other rfl h
    exact ⟨hmerged, [], (List.append_nil _).symm, .refl _⟩
termination_by structural item

/-- Merging entries adds the structs of those keys that occur for the first time. -/
theorem mergeEntries_inOrder (entries : List (Value × Value)) {place : Place}
    {merged merged' : Merged} {r r' : NameRegistry} (hmerged : merged.IsProper)
    (h : mergeEntries ctx place merged entries r = .ok (merged', r')) :
    merged'.IsProper ∧ ∃ own, merged'.structs = merged.structs ++ own ∧ r.Registers own r' := by
  match entries with
  | [] =>
    obtain ⟨rfl, rfl⟩ := mergeEntries_nil h
    exact ⟨hmerged, [], (List.append_nil _).symm, .refl _⟩
  | (k, v) :: rest =>
    obtain ⟨key, -, ⟨existing, merged₁, hfind, hdocument, hrest⟩ |
      ⟨type, own, r₁, hfind, hv, hrest⟩⟩ := mergeEntries_cons h
    · obtain ⟨hmerged₁, hstructs⟩ := hmerged.document hfind hdocument
      rw [← hstructs]
      exact mergeEntries_inOrder rest hmerged₁ hrest
    · obtain ⟨horder, hnames⟩ := resolve_inOrder v hv
      obtain ⟨hmerged', own', hown', hnames'⟩ :=
        mergeEntries_inOrder rest (hmerged.push hfind horder) hrest
      exact ⟨hmerged', own ++ own', by rw [hown', List.append_assoc], hnames.append hnames'⟩
termination_by structural entries

end

/-- The structs of a resource's fields are those that the fields refer to, and their names are
new. -/
theorem resolveRoot_inOrder (entries : List (Value × Value)) {place : Place}
    {fields : List Field} {structs : List Struct} {r r' : NameRegistry}
    (h : resolveRoot ctx place entries r = .ok ((fields, structs), r')) :
    InReferenceOrder (fields.flatMap (·.type.references)) structs ∧ r.Registers structs r' := by
  induction entries generalizing r fields structs with
  | nil =>
    obtain ⟨rfl, rfl, rfl⟩ := resolveRoot_nil h
    exact ⟨.nil, .refl _⟩
  | cons entry rest ih =>
    obtain ⟨key, -, ⟨-, h⟩ | ⟨type, own, r₁, others, nested, -, hv, hrest, rfl, rfl⟩⟩ :=
      resolveRoot_cons h
    · exact ih h
    · obtain ⟨horder, hnames⟩ := resolve_inOrder _ hv
      obtain ⟨horder', hnames'⟩ := ih hrest
      exact ⟨horder.append horder', hnames.append hnames'⟩

end Walk

/-! ## Counting references -/

/-- If the lists of some things have no element in common, and none twice, an element of one of
the lists is an element of exactly one. -/
theorem countP_mem_of_nodup_flatMap {α β : Type} [DecidableEq β] (f : α → List β) {b : β}
    {things : List α} (hnodup : (things.flatMap f).Nodup) (hmem : b ∈ things.flatMap f) :
    things.countP (fun a => decide (b ∈ f a)) = 1 := by
  induction things with
  | nil => exact absurd hmem List.not_mem_nil
  | cons a rest ih =>
    rw [List.flatMap_cons] at hnodup hmem
    obtain ⟨-, hrest, hdisjoint⟩ := List.nodup_append.mp hnodup
    rw [List.countP_cons]
    by_cases ha : b ∈ f a
    · have hnone : rest.countP (fun a => decide (b ∈ f a)) = 0 := by
        refine List.countP_eq_zero.mpr fun c hc => ?_
        rw [decide_eq_true_eq]
        exact fun hbc => hdisjoint b ha b (List.mem_flatMap.mpr ⟨c, hc, hbc⟩) rfl
      rw [hnone, if_pos (decide_eq_true ha)]
    · rw [if_neg (by rwa [decide_eq_true_eq]), ih hrest ((List.mem_append.mp hmem).resolve_left ha)]

namespace Schema

/-- **A schema whose structs are a tree of references** below the resource. -/
structure IsStructTree (schema : Schema) : Prop where
  /-- No two structs share a name. -/
  names_nodup : (schema.structs.map (·.name)).Nodup
  /-- The first struct is the resource. -/
  head_name : schema.structs.head?.map (·.name) = some schema.kind
  /-- Every reference leads to a struct. -/
  resolves : ∀ s f, (s, f) ∈ schema.fields → ∀ name ∈ f.type.references,
    ∃ target ∈ schema.structs, target.name = name
  /-- Every struct but the first is referred to from exactly one field of the schema. -/
  referenced_once : ∀ s ∈ schema.structs.tail,
    schema.fields.countP (fun p => decide (s.name ∈ p.2.type.references)) = 1
  /-- Each struct is followed by those that its fields refer to, each with its own. -/
  inOrder : InReferenceOrder [schema.kind] schema.structs

/-- The references of all structs are those of all fields. -/
theorem references_eq_flatMap_fields (schema : Schema) :
    schema.structs.flatMap (·.references)
      = schema.fields.flatMap (fun p => p.2.type.references) := by
  rw [fields, List.flatMap_assoc]
  refine List.flatMap_congr fun s _ => ?_
  rw [List.flatMap_map]
  rfl

/-- Structs in reference order whose names are distinct are a tree. -/
theorem isStructTree_of_inOrder {schema : Schema}
    (hnodup : (schema.structs.map (·.name)).Nodup)
    (horder : InReferenceOrder [schema.kind] schema.structs) : schema.IsStructTree := by
  have hperm := horder.names_perm
  rw [references_eq_flatMap_fields] at hperm
  have hhead : schema.structs.head?.map (·.name) = some schema.kind := horder.head_name
  refine ⟨hnodup, hhead, fun s f hf name hname => ?_, fun s hs => ?_, horder⟩
  · have hmem : name ∈ schema.structs.map (·.name) :=
      hperm.mem_iff.mpr (List.mem_append_right _ (List.mem_flatMap.mpr ⟨(s, f), hf, hname⟩))
    exact List.mem_map.mp hmem
  · -- Behind the kind, the names and the references are the same.
    have htail : (schema.structs.tail.map (·.name)).Perm
        (schema.fields.flatMap fun p => p.2.type.references) := by
      cases hstructs : schema.structs with
      | nil => rw [hstructs] at hs; exact absurd hs List.not_mem_nil
      | cons first rest =>
        rw [hstructs] at hhead hperm
        rw [List.head?_cons, Option.map_some, Option.some.injEq] at hhead
        rw [List.map_cons, hhead, List.singleton_append] at hperm
        exact hperm.cons_inv
    have hrefs := (hperm.nodup_iff.mp hnodup).of_append_right
    exact countP_mem_of_nodup_flatMap _ hrefs
      (htail.mem_iff.mp (List.mem_map.mpr ⟨s, hs, rfl⟩))

/-- What a schema that is built from a document consists of. -/
theorem ofValue_eq_ok {ctx : DocumentContext} {v : Value} {schema : Schema}
    (h : ofValue ctx v = .ok schema) :
    ∃ root kind apiVersion fields nested r', v.untagged = .mapping root ∧
      kindOf root = .ok kind ∧ apiVersionOf root = .ok apiVersion ∧
      Walk.resolveRoot ctx (Place.root kind) root
          ((NameRegistry.ofShared
            (Census.shared (Census.ofRoot ctx (Place.root kind) root))).reserve kind).2
        = .ok ((fields, nested), r') ∧
      schema = { apiVersion, kind, structs :=
        { name := kind, documentation := (ctx.comments ((Place.root kind).key "kind")).documentation,
          fields } :: nested } := by
  unfold ofValue at h
  split at h
  · next root hroot =>
    cases hversion : apiVersionOf root with
    | error e => rw [hversion] at h; exact nomatch h
    | ok apiVersion =>
    cases hkind : kindOf root with
    | error e => rw [hversion, hkind] at h; exact nomatch h
    | ok kind =>
    rw [hversion, hkind] at h
    dsimp only [bind, Except.bind, StateT.run] at h
    split at h
    · exact nomatch h
    · next p hrun =>
      obtain ⟨⟨fields, nested⟩, r'⟩ := p
      cases h
      exact ⟨root, kind, apiVersion, fields, nested, r', hroot, hkind, hversion, hrun, rfl⟩
  · exact nomatch h

/-- The structs of a schema have different names and stand in the order of references. -/
theorem ofValue_structs {ctx : DocumentContext} {v : Value} {schema : Schema}
    (h : ofValue ctx v = .ok schema) :
    (schema.structs.map (·.name)).Nodup ∧ InReferenceOrder [schema.kind] schema.structs := by
  obtain ⟨root, kind, apiVersion, fields, nested, r', -, -, -, hrun, rfl⟩ := ofValue_eq_ok h
  obtain ⟨horder, hnames⟩ := Walk.resolveRoot_inOrder root hrun
  obtain ⟨hnodup, hperm⟩ := hnames (List.nodup_singleton kind)
  refine ⟨?_, .single horder⟩
  have htaken := hperm.nodup_iff.mp hnodup
  rw [NameRegistry.reserved_reserve_ofShared] at htaken
  exact List.perm_append_comm.nodup_iff.mp htaken

/-- **The structs of a schema are a tree.** Whatever the document, the comments and the options,
if a schema is built, its struct names are distinct and start with the kind, every reference
leads to a struct, every struct but the resource is referred to from one field, and each struct is
followed by those its fields refer to. -/
theorem ofValue_isStructTree {ctx : DocumentContext} {v : Value} {schema : Schema}
    (h : ofValue ctx v = .ok schema) : schema.IsStructTree := by
  obtain ⟨hnodup, horder⟩ := ofValue_structs h
  exact isStructTree_of_inOrder hnodup horder

/-- A document with a nested mapping and a list of two unlike items. -/
def widgetDocument : Value :=
  .mapping [(.string "kind", .string "Widget"),
    (.string "image", .mapping [(.string "tag", .string "latest")]),
    (.string "sidecars", .sequence [.mapping [(.string "name", .string "proxy")],
      .mapping [(.string "limits", .mapping [(.string "memory", .string "1Gi")])]])]

/-- The struct of the list's items is followed by the one that only its second item has. -/
theorem ofValue_isStructTree_widget :
    ∃ schema, ofValue ⟨{}, {}⟩ widgetDocument = .ok schema ∧
      schema.structs.map (·.name) = ["Widget", "ImageSpec", "SidecarsSpec", "LimitsSpec"] ∧
      schema.IsStructTree := by
  obtain ⟨schema, h, hnames⟩ : ∃ schema, ofValue ⟨{}, {}⟩ widgetDocument = .ok schema ∧
      schema.structs.map (·.name) = ["Widget", "ImageSpec", "SidecarsSpec", "LimitsSpec"] :=
    ⟨_, rfl, by decide +kernel⟩
  exact ⟨schema, h, hnames, ofValue_isStructTree h⟩

end Schema
end ChartSchema
