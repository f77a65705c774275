import ChartSchema.Proofs.Schema.FirstSeen
import ChartSchema.Proofs.Schema.Skeleton
/-!
# What the structs of a schema are made from

A struct is made from a mapping, or from the mappings in a list, and its fields from what was read
right below: from the value of each key, or from the value where the key occurs first among the
items (`Yaml.Value.Below`). `Struct.IsMadeFrom` says so of one struct, for mappings and lists alike.

The walk goes through a document by five functions that call each other. With this relation its
results can be told by one induction on what is read (`Walk.resolve_induction`): a value gives no
struct, or one struct and behind it those that its fields were read with. What holds of a struct if
it holds of all that is read below its value holds then of all structs of a schema.

The resource itself is made like a struct of a mapping, from the entries at the root whose key is
not reserved (`Yaml.Value.resource`).
-/

namespace ChartSchema

open Yaml (Value)
open Outline (structType)

/-! ## Paths and places -/

/-- The key of a step, if it is one. -/
def PathSegment.key? : PathSegment → Option String
  | .key name => some name
  | .index _ => none

/-- The keys on a path, without the indices of lists. -/
def SourcePath.keys (path : SourcePath) : List String :=
  path.filterMap PathSegment.key?

/-- The place at a path of a document for a resource of this kind. -/
def Place.ofPath (kind : String) (path : SourcePath) : Place :=
  ⟨path, path.keys.reverse ++ [kind]⟩

theorem SourcePath.keys_concat (path : SourcePath) (key : String) :
    SourcePath.keys (path ++ [PathSegment.key key]) = path.keys ++ [key] :=
  List.filterMap_append

theorem SourcePath.keys_item (path : SourcePath) (position : Nat) (key : String) :
    SourcePath.keys (path ++ [PathSegment.index position, PathSegment.key key]) =
      path.keys ++ [key] :=
  List.filterMap_append

theorem Place.key_ofPath (kind : String) (path : SourcePath) (key : String) :
    (ofPath kind path).key key = ofPath kind (path ++ [PathSegment.key key]) := by
  unfold ofPath
  rw [SourcePath.keys_concat, List.reverse_append]
  rfl

theorem Place.item_ofPath (kind : String) (path : SourcePath) (position : Nat) (key : String) :
    ((ofPath kind path).index position).key key =
      ofPath kind (path ++ [PathSegment.index position, PathSegment.key key]) := by
  unfold ofPath
  rw [SourcePath.keys_item, List.reverse_append]
  exact congrArg (Place.mk · _) (List.append_assoc _ _ _)

/-! ## What is read right below a value -/

namespace Yaml.Value

/-- The keys of the fields of a value's struct: those of the entries of a mapping, or those of a
list's items in the order in which they are first seen. -/
def fieldKeys (v : Value) : List (Option String) :=
  v.entries.map (ChartSchema.keyText? ·.1) ++
    (v.mergedEntries.map (ChartSchema.keyText? ·.2.1)).eraseDups

/-- **The resource as a mapping**: the entries at the root of a document that are fields of it. -/
def resource (root : List (Value × Value)) : Value :=
  .mapping (ChartSchema.fieldEntries root)

/-- **What is read right below a value** at a path. -/
structure IsReadAs (kind : String) (path : SourcePath) (v : Value) (readings : List Reading) :
    Prop where
  /-- The keys are those of the fields. -/
  keys : (readings.map (·.key)).map some = v.fieldKeys
  /-- Each is read right below the value. -/
  below : ∀ x ∈ readings, ∃ path', x.place = Place.ofPath kind path' ∧
    path'.keys = path.keys ++ [x.key] ∧ Below (path, v) (path', x.value)
  /-- Everything right below the value is read. -/
  complete : ∀ path' w, Below (path, v) (path', w) →
    ∃ x ∈ readings, x.place = Place.ofPath kind path' ∧ x.value = w

variable {v : Value} {kind : String} {path : SourcePath}

/-- A value whose struct has no fields has nothing below it. -/
theorem not_below_of_fieldKeys (h : v.fieldKeys = []) {path' : SourcePath} {w : Value} :
    ¬Below (path, v) (path', w) := by
  obtain ⟨hentries, hmerged⟩ := List.append_eq_nil_iff.mp h
  intro hbelow
  cases hbelow with
  | entry hmem _ =>
    rw [List.map_eq_nil_iff.mp hentries] at hmem
    exact absurd hmem List.not_mem_nil
  | @item _ _ k _ _ position before after hsplit hkey _ =>
    have hmem : ChartSchema.keyText? k ∈ v.mergedEntries.map (ChartSchema.keyText? ·.2.1) :=
      List.mem_map.mpr ⟨_, hsplit ▸ List.mem_append_right _ List.mem_cons_self, rfl⟩
    rw [← List.mem_eraseDups, hmerged] at hmem
    exact absurd hmem List.not_mem_nil

theorem of_mapping {entries : List (Value × Value)} (h : v.untagged = .mapping entries) :
    v.entries = entries ∧ v.mergedEntries = [] := by
  unfold mergedEntries Value.entries items
  rw [h]
  exact ⟨rfl, rfl⟩

theorem of_sequence {list : List Value} (h : v.untagged = .sequence list) :
    v.entries = [] ∧ v.items = list := by
  unfold Value.entries items
  rw [h]
  exact ⟨rfl, rfl⟩

theorem of_isScalar (h : Walk.isScalar v.untagged = true) :
    v.entries = [] ∧ v.mergedEntries = [] := by
  unfold mergedEntries Value.entries items
  cases hv : v.untagged with
  | null | bool _ | number _ | string _ => exact ⟨rfl, rfl⟩
  | sequence _ | mapping _ | tagged _ _ =>
    rw [hv] at h
    cases h

variable {readings : List Reading}

theorem IsReadAs.of_entries (hmerged : v.mergedEntries = [])
    (hentries : readings.map (fun x => (some x.key, x.value)) =
      v.entries.map fun entry => (ChartSchema.keyText? entry.1, entry.2))
    (hplaces : ∀ x ∈ readings, x.place = (Place.ofPath kind path).key x.key) :
    v.IsReadAs kind path readings := by
  refine ⟨?_, fun x hx => ?_, fun path' w hbelow => ?_⟩
  · have hkeys := congrArg (List.map Prod.fst) hentries
    rw [List.map_map, List.map_map] at hkeys
    rw [fieldKeys, hmerged, List.map_nil, List.eraseDups_nil, List.append_nil, List.map_map]
    exact hkeys
  · have hmem : (some x.key, x.value) ∈
        v.entries.map fun entry => (ChartSchema.keyText? entry.1, entry.2) :=
      hentries ▸ List.mem_map_of_mem hx
    obtain ⟨⟨k, w⟩, hmem, heq⟩ := List.mem_map.mp hmem
    obtain ⟨hkey, rfl⟩ := Prod.mk.inj heq
    exact ⟨_, (hplaces x hx).trans (Place.key_ofPath kind path x.key),
      SourcePath.keys_concat path x.key, .entry hmem hkey⟩
  · cases hbelow with
    | @entry _ _ k _ key hmem hkey =>
      have hread : (some key, w) ∈ readings.map fun x => (some x.key, x.value) :=
        hentries ▸ List.mem_map.mpr ⟨(k, w), hmem, Prod.ext hkey rfl⟩
      obtain ⟨x, hx, heq⟩ := List.mem_map.mp hread
      obtain ⟨hxkey, hvalue⟩ := Prod.mk.inj heq
      obtain rfl := Option.some.inj hxkey
      exact ⟨x, hx, (hplaces x hx).trans (Place.key_ofPath kind path x.key), hvalue⟩
    | item hsplit _ _ =>
      rw [hmerged] at hsplit
      exact absurd hsplit.symm (List.append_ne_nil_of_right_ne_nil _ (List.cons_ne_nil _ _))

/-- The entry where a key occurs first is the one that is found. -/
theorem find?_eq_of_first {before after : List (Nat × Value × Value)} {e : Nat × Value × Value}
    {key : String} (hkey : ChartSchema.keyText? e.2.1 = some key)
    (hfirst : ∀ other ∈ before, ChartSchema.keyText? other.2.1 ≠ some key) :
    (before ++ e :: after).find? (ChartSchema.keyText? ·.2.1 == some key) = some e := by
  refine List.find?_eq_some_iff_append.mpr ⟨beq_iff_eq.mpr hkey, before, after, rfl, fun a ha => ?_⟩
  rw [Bool.not_eq_true', beq_eq_false_iff_ne]
  exact hfirst a ha

/-- The entries of a list's items are read where their keys occur first. -/
theorem IsReadAs.of_items (hentries : v.entries = [])
    (hkeys : (readings.map (·.key)).map some =
      (v.mergedEntries.map (ChartSchema.keyText? ·.2.1)).eraseDups)
    (hfirst : ∀ x ∈ readings, x.IsFirst (Place.ofPath kind path) v.mergedEntries) :
    v.IsReadAs kind path readings := by
  refine ⟨?_, fun x hx => ?_, fun path' w hbelow => ?_⟩
  · rw [fieldKeys, hentries, List.map_nil, List.nil_append, hkeys]
  · obtain ⟨before, position, k, after, hsplit, hkey, hplace, hbefore⟩ := hfirst x hx
    exact ⟨_, hplace.trans (Place.item_ofPath kind path position x.key),
      SourcePath.keys_item path position x.key, .item hsplit hkey hbefore⟩
  · cases hbelow with
    | entry hmem _ =>
      rw [hentries] at hmem
      exact absurd hmem List.not_mem_nil
    | @item _ _ k _ key position before after hsplit hkey hbefore =>
      have hread : key ∈ readings.map (·.key) := by
        rw [← List.mem_map_of_injective (Option.some_injective _), hkeys, List.mem_eraseDups,
          ← hkey]
        exact List.mem_map.mpr ⟨_, hsplit ▸ List.mem_append_right _ List.mem_cons_self, rfl⟩
      obtain ⟨x, hx, rfl⟩ := List.mem_map.mp hread
      -- A key occurs first in one place only, so it was read from this value.
      obtain ⟨before', position', k', after', hsplit', hkey', hplace', hbefore'⟩ := hfirst x hx
      have hfind : (before ++ (position, k, w) :: after).find?
          (ChartSchema.keyText? ·.2.1 == some x.key) = some (position, k, w) :=
        find?_eq_of_first hkey hbefore
      rw [← hsplit, hsplit', find?_eq_of_first hkey' hbefore'] at hfind
      cases hfind
      exact ⟨x, hx, hplace'.trans (Place.item_ofPath kind path position x.key), rfl⟩

end Yaml.Value

/-! ## What a struct is made from -/

/-- **A struct is made from a value**: its fields are what is read right below. The comments that
document a field are those from where it is read, or, in a list, later ones where these say
nothing. -/
structure Struct.IsMadeFrom (ctx : DocumentContext) (kind : String) (path : SourcePath) (v : Value)
    (isList : Bool) (readings : List Reading) (s : Struct) : Prop where
  /-- The keys are read right below the value. -/
  reads : v.IsReadAs kind path readings
  /-- The fields are those of the keys. -/
  fields : ∃ block : Reading → CommentBlock,
    s.fields = readings.map (fun x => x.field ctx (block x)) ∧
    ∀ x ∈ readings, block x = ctx.comments x.place ∨
      isList = true ∧ (ctx.comments x.place).isEmpty = true

theorem ReadInTurn.exists_resolve {ctx : DocumentContext} {r r' : NameRegistry}
    {readings : List Reading} (h : ReadInTurn ctx r readings r') :
    ∀ x ∈ readings, ∃ r₁ r₂,
      Walk.resolve ctx x.key x.place x.value r₁ = .ok ((x.type, x.structs), r₂) := by
  induction h with
  | nil => exact nofun
  | cons hfirst _ ih => exact List.forall_mem_cons.mpr ⟨⟨_, _, hfirst⟩, ih⟩

namespace Walk

variable {ctx : DocumentContext} {kind : String}

theorem resolveEntries_readInTurn (entries : List (Value × Value)) {place : Place}
    {fields : List Field} {structs : List Struct} {r r' : NameRegistry}
    (h : resolveEntries ctx place entries r = .ok ((fields, structs), r')) :
    ∃ readings, ReadInTurn ctx r readings r' ∧
      readings.map (fun x => (some x.key, x.value)) =
        entries.map (fun entry => (keyText? entry.1, entry.2)) ∧
      (∀ x ∈ readings, x.place = place.key x.key) ∧
      fields = readings.map (fun x => x.field ctx (ctx.comments x.place)) ∧
      structs = readings.flatMap (·.structs) := by
  induction entries generalizing fields structs r with
  | nil =>
    obtain ⟨rfl, rfl, rfl⟩ := resolveEntries_nil h
    exact ⟨[], .nil, rfl, nofun, rfl, rfl⟩
  | cons entry rest ih =>
    obtain ⟨k, v⟩ := entry
    obtain ⟨key, type, own, r₁, others, nested, hkey, hv, hrest, rfl, rfl⟩ := resolveEntries_cons h
    obtain ⟨readings, hturn, hentries, hplaces, rfl, rfl⟩ := ih hrest
    refine ⟨⟨key, place.key key, v, type, own⟩ :: readings, .cons hv hturn, ?_,
      List.forall_mem_cons.mpr ⟨rfl, hplaces⟩, rfl, rfl⟩
    rw [List.map_cons, List.map_cons, hentries, hkey]

/-- The struct of items that were merged is made from them. -/
theorem IsUnion.isMadeFrom {path : SourcePath} {v : Value} {r r' : NameRegistry}
    {readings : List Reading} {merged : Merged}
    (h : IsUnion ctx (Place.ofPath kind path) v.mergedEntries r readings merged r')
    (hentries : v.entries = []) (name : String) (documentation : List String) :
    Struct.IsMadeFrom ctx kind path v true readings
      { name, documentation, fields := merged.fields.map (·.field) } := by
  refine ⟨.of_items hentries h.keys h.first,
    fun x => ctx.firstSaid (Place.ofPath kind path) v.mergedEntries x.key, ?_, fun x hx => ?_⟩
  · show merged.fields.map (·.field) = _
    rw [h.fields, List.map_map]
    rfl
  · cases hsaid : (ctx.comments x.place).isEmpty with
    | true => exact .inr ⟨rfl, rfl⟩
    | false => exact .inl (DocumentContext.firstSaid_of_isFirst (h.first x hx) hsaid)

/-- **What is read of a value**: nothing, and no struct is made, or what its struct is made from.
Lists of mappings make one struct of all their items. -/
theorem resolve_isMadeFrom {v : Value} {key : String} {path : SourcePath} {type : FieldType}
    {structs : List Struct} {r r' : NameRegistry}
    (h : resolve ctx key (Place.ofPath kind path) v r = .ok ((type, structs), r')) :
    (v.fieldKeys = [] ∧ type.references = [] ∧ structs = []) ∨
      ∃ isList s readings r₁, s.IsMadeFrom ctx kind path v isList readings ∧
        ReadInTurn ctx r₁ readings r' ∧
        s.documentation = (ctx.comments (Place.ofPath kind path)).documentation ∧
        type = structType isList s.name ∧ structs = s :: readings.flatMap (·.structs) := by
  have hnothing (hentries : v.entries = []) (hmerged : v.mergedEntries = []) :
      v.fieldKeys = [] := by
    rw [Value.fieldKeys, hentries, hmerged]
    rfl
  rw [← resolve_untagged] at h
  cases hv : v.untagged with
  | mapping entries =>
    obtain ⟨hentries, hmerged⟩ := Value.of_mapping hv
    rw [hv] at h
    rcases resolve_mapping h with ⟨hint, rfl, -, rfl, rfl, rfl⟩ | ⟨-, name, fields, nested, -,
      hread, rfl, rfl⟩
    · exact .inl ⟨hnothing hentries hmerged, FieldType.references_ofHint _, rfl⟩
    · obtain ⟨readings, hturn, hkeys, hplaces, rfl, rfl⟩ := resolveEntries_readInTurn entries hread
      refine .inr ⟨false, _, readings, _, ⟨.of_entries hmerged (hentries.symm ▸ hkeys) hplaces, _,
        rfl, fun x _ => .inl rfl⟩, hturn, rfl, rfl, rfl⟩
  | sequence items =>
    obtain ⟨hentries, hitems⟩ := Value.of_sequence hv
    rw [hv] at h
    rcases resolve_sequence h with ⟨hstart, rfl, rfl, rfl⟩ | ⟨name, merged, hstart, -, hread, rfl,
      rfl⟩
    · have hmerged : v.mergedEntries = [] := by
        rw [Value.mergedEntries, hitems, hstart]
        rfl
      exact .inl ⟨hnothing hentries hmerged, references_listType _ _, rfl⟩
    · have hmerged : v.mergedEntries = Value.entriesOfItems 0 items := by
        rw [Value.mergedEntries, hitems, if_pos hstart]
      obtain ⟨readings, hunion⟩ := exists_isUnion hread
      rw [← hmerged] at hunion
      exact .inr ⟨true, _, readings, _, hunion.isMadeFrom hentries name _, hunion.inTurn, rfl, rfl,
        by rw [hunion.structs]⟩
  | null | bool _ | number _ | string _ =>
    have hscalar : isScalar v.untagged = true := by rw [hv]; rfl
    obtain ⟨hentries, hmerged⟩ := Value.of_isScalar hscalar
    obtain ⟨rfl, rfl, -⟩ := resolve_scalar hscalar h
    exact .inl ⟨hnothing hentries hmerged, references_scalarType _ _, rfl⟩
  | tagged tag inner => exact absurd hv (Value.untagged_ne_tagged v tag inner)

/-- **Induction on what is read.** What holds where no struct is made, and holds of a struct with
those behind it if it holds of everything that is read right below, holds of all that is made of a
value. -/
theorem resolve_induction {motive : SourcePath → Value → FieldType → List Struct → Prop}
    (leaf : ∀ path v type, v.fieldKeys = [] → type.references = [] → motive path v type [])
    (struct : ∀ path v isList s readings, s.IsMadeFrom ctx kind path v isList readings →
      s.documentation = (ctx.comments (Place.ofPath kind path)).documentation →
      (∀ x ∈ readings, ∀ path', x.place = Place.ofPath kind path' →
        motive path' x.value x.type x.structs) →
      motive path v (structType isList s.name) (s :: readings.flatMap (·.structs)))
    (v : Value) {key : String} {path : SourcePath} {type : FieldType} {structs : List Struct}
    {r r' : NameRegistry}
    (h : resolve ctx key (Place.ofPath kind path) v r = .ok ((type, structs), r')) :
    motive path v type structs := by
  rcases resolve_isMadeFrom h with ⟨hkeys, htype, rfl⟩ |
    ⟨isList, s, readings, r₁, hmade, hturn, hdocumentation, rfl, rfl⟩
  · exact leaf path v type hkeys htype
  · -- What is read below may stand in an item or behind tags, so it is the size that falls.
    refine struct path v isList s readings hmade hdocumentation fun x hx path' hplace => ?_
    obtain ⟨_, _, -, hbelow⟩ := hmade.reads.below x hx
    have hsmaller := Value.sizeOf_lt_of_below hbelow
    obtain ⟨r₂, r₃, hread⟩ := hturn.exists_resolve x hx
    rw [hplace] at hread
    exact resolve_induction leaf struct x.value hread
termination_by sizeOf v

end Walk

/-- **The structs of a schema**: that of the resource, and those that its fields were read with. The
resource is read like any other mapping, without the entries that declare it. -/
theorem Schema.ofValue_isMadeFrom {ctx : DocumentContext} {v : Value} {schema : Schema}
    (h : ofValue ctx v = .ok schema) :
    ∃ root s readings r r', v.untagged = .mapping root ∧
      schema.structs = s :: readings.flatMap (·.structs) ∧ s.name = schema.kind ∧
      s.IsMadeFrom ctx schema.kind [] (Value.resource root) false readings ∧
      ReadInTurn ctx r readings r' := by
  obtain ⟨root, kind, apiVersion, fields, nested, r', hroot, -, -, hrun, rfl⟩ := ofValue_eq_ok h
  rw [Walk.resolveRoot_eq_resolveEntries] at hrun
  obtain ⟨readings, hturn, hkeys, hplaces, rfl, rfl⟩ := Walk.resolveEntries_readInTurn _ hrun
  exact ⟨root, _, readings, _, r', hroot, rfl, rfl,
    ⟨.of_entries rfl hkeys hplaces, _, rfl, fun x _ => .inl rfl⟩, hturn⟩

end ChartSchema
