import ChartSchema.Proofs.Json.Members
import ChartSchema.Proofs.Schema.StructTree
/-!
# The values that an inferred schema describes

The types of a schema come from the values of a document. Where the items of a list are read as
one struct, the type of a key comes from its first occurrence alone, and the other occurrences are
only looked at for their comments. So a schema describes the document that it was inferred from
only if what was passed over has the same shape as what was read.

`Uniform` says this of a document: its lists have scalars of one type, or mappings that agree
where they have a key in common. `Schema.Describes` says what the types of a schema mean, and
`Walk.resolve_reads` is the induction along the walk: the type of a value describes the value and
whatever has the same shape. What is carried along for the items of a list is that every key has
the type of its first occurrence (`Merged.Reads`).
-/

namespace ChartSchema

open Yaml (Value)

/-! ## Shapes -/

/-- **Two values have the same shape**: they are scalars of one type, or mappings with the same
keys and values of the same shape below each, or lists all of whose items have one shape. -/
inductive SameShape : Value → Value → Prop
  /-- Scalars that show the same type. -/
  | scalar {a b : Value} :
    Walk.isScalar a = true → Walk.isScalar b = true → TypeRef.ofValue a = TypeRef.ofValue b →
      SameShape a b
  /-- Mappings with the same keys. -/
  | mapping {xs ys : List (Value × Value)} :
    (∀ key, key ∈ xs.map (·.1) ↔ key ∈ ys.map (·.1)) →
      (∀ key v w, (key, v) ∈ xs → (key, w) ∈ ys → SameShape v w) →
        SameShape (.mapping xs) (.mapping ys)
  /-- Lists with items of one shape. -/
  | sequence {xs ys : List Value} :
    (∀ (i j : Nat) (v w : Value), i < j → (xs ++ ys)[i]? = some v → (xs ++ ys)[j]? = some w → SameShape v w) →
      SameShape (.sequence xs) (.sequence ys)

/-- What has the shape of a list that is not empty is a list of items of the first one's shape. -/
theorem SameShape.of_cons {first w : Value} {rest : List Value}
    (h : SameShape (.sequence (first :: rest)) w) :
    ∃ items, w = .sequence items ∧ ∀ item ∈ items, SameShape first item := by
  cases h with
  | scalar hscalar => exact nomatch hscalar
  | @sequence _ items hshapes =>
    refine ⟨items, rfl, fun item hitem => ?_⟩
    obtain ⟨i, hi, rfl⟩ := List.getElem_of_mem hitem
    refine hshapes 0 ((first :: rest).length + i) first _ (by rw [List.length_cons]; omega) rfl ?_
    rw [List.getElem?_append_right (Nat.le_add_right _ _), Nat.add_sub_cancel_left,
      List.getElem?_eq_getElem hi]

/-- The items are scalars of one type. -/
def ScalarsOfOneType (items : List Value) : Prop :=
  ∃ type, ∀ item ∈ items, Walk.isScalar item = true ∧ TypeRef.ofValue item = type

/-- Two items of a list agree: what they have under a key in common has the same shape. -/
def Agree (a b : Value) : Prop :=
  ∀ xs ys, a = .mapping xs → b = .mapping ys → ∀ key v w, (key, v) ∈ xs → (key, w) ∈ ys →
    SameShape v w

/-- **A uniform document**: keys are texts and different, numbers are finite, there are no tags,
and the items of a list are scalars of one type or mappings that agree. -/
inductive Uniform : Value → Prop
  /-- A scalar. -/
  | scalar {v : Value} :
    Walk.isScalar v = true → (∀ x, v = .number (.float x) → x.isFinite = true) → Uniform v
  /-- A mapping. -/
  | mapping {entries : List (Value × Value)} :
    (∀ entry ∈ entries, ∃ key, entry.1 = .string key) → (entries.map (·.1)).Nodup →
      (∀ key v, (key, v) ∈ entries → Uniform v) → Uniform (.mapping entries)
  /-- A list of scalars. -/
  | scalars {items : List Value} :
    ScalarsOfOneType items → (∀ item ∈ items, Uniform item) → Uniform (.sequence items)
  /-- A list of mappings. -/
  | mappings {items : List Value} :
    (∀ item ∈ items, ∃ entries, item = .mapping entries) → items.Pairwise Agree →
      (∀ item ∈ items, Uniform item) → Uniform (.sequence items)

/-! ## What types mean -/

/-- A struct whose fields have different keys and no rules. -/
structure Struct.IsBare (s : Struct) : Prop where
  /-- The keys are different. -/
  keys_nodup : (s.fields.map (·.sourceKey)).Nodup
  /-- There are no rules. -/
  no_markers : ∀ f ∈ s.fields, f.markers = []

/-- **The values that a type describes**: a type that says nothing about the items of a list may
stand for any list, because it has no place in a resource definition. No part of a type is without
a value that it describes, which is a sample of what it was read from. -/
inductive Schema.Describes (schema : Schema) : FieldType → Value → Prop
  /-- A scalar of its type. -/
  | scalar {v : Value} : Walk.isScalar v = true → Describes schema (.single (.ofValue v)) v
  /-- A mapping each of whose keys has a field. -/
  | mapping {name : String} {s : Struct} {entries : List (Value × Value)} {sample : Field → Value} :
    schema.struct? name = some s → s.IsBare →
      (∀ f ∈ s.fields, Describes schema f.type (sample f)) →
      (∀ key v, (key, v) ∈ entries → ∃ f ∈ s.fields, key = .string f.sourceKey) →
      (∀ v f, f ∈ s.fields → (.string f.sourceKey, v) ∈ entries → Describes schema f.type v) →
        Describes schema (.single (.struct name)) (.mapping entries)
  /-- A list of items of its type. -/
  | sequence {element : TypeRef} {items : List Value} {sample : Value} :
    Describes schema (.single element) sample →
      (∀ item ∈ items, Describes schema (.single element) item) →
        Describes schema (.list element) (.sequence items)
  /-- A list of which nothing is known. -/
  | unknown {items : List Value} : Describes schema (.list .unknown) (.sequence items)

/-- **A type was read from a value**: it describes the value and what has the same shape. -/
def Schema.Reads (schema : Schema) (type : FieldType) (v : Value) : Prop :=
  ∀ w, w = v ∨ SameShape v w → schema.Describes type w

/-! ## Documents without rules -/

namespace DocumentContext

variable {ctx : DocumentContext}

/-- **No comment line is a hint or a rule**: none starts with a plus sign. -/
def HasNoRules (ctx : DocumentContext) : Prop :=
  ∀ path, ∀ line ∈ ctx.sources.comments path, Comment.isPlus (Comment.content line) = false

theorem isPlus_of_hint {tool content type : String} (h : Comment.hint? tool content = some type) :
    Comment.isPlus content = true := by
  rw [Comment.hint?] at h
  split at h
  · exact nomatch h
  · next rest hafter =>
    rw [Comment.isPlus, Text.eq_append_of_after? hafter]
    rfl

theorem HasNoRules.typeHint (h : ctx.HasNoRules) (place : Place) :
    (ctx.comments place).typeHint = none := by
  refine List.findSome?_eq_none_iff.mpr fun content hcontent => ?_
  obtain ⟨line, hline, rfl⟩ := List.mem_map.mp (List.mem_of_mem_filter hcontent)
  rw [Option.eq_none_iff_forall_ne_some]
  intro type htype
  exact absurd ((h place.segments line hline).symm.trans (isPlus_of_hint htype)) nofun

theorem HasNoRules.markers (h : ctx.HasNoRules) (place : Place) :
    (ctx.comments place).markers = [] := by
  refine List.filter_eq_nil_iff.mpr fun content hcontent hmarker => ?_
  obtain ⟨line, hline, rfl⟩ := List.mem_map.mp (List.mem_of_mem_filter hcontent)
  rw [Comment.isMarker, Bool.and_eq_true] at hmarker
  exact absurd ((h place.segments line hline).symm.trans hmarker.2) nofun

end DocumentContext

/-! ## Merged fields -/

/-- The values under text keys. -/
def textEntries (entries : List (Value × Value)) : List (String × Value) :=
  entries.filterMap fun entry =>
    match entry.1 with
    | .string key => some (key, entry.2)
    | _ => none

/-- **The fields of a list's items are read from the first occurrences of their keys.** -/
structure Merged.Reads (schema : Schema) (entries : List (String × Value)) (merged : Merged) :
    Prop where
  /-- The keys are different. -/
  keys_nodup : (merged.fields.map (·.field.sourceKey)).Nodup
  /-- There are no rules. -/
  no_markers : ∀ m ∈ merged.fields, m.field.markers = []
  /-- Each key occurs. -/
  known : ∀ m ∈ merged.fields, hasKey m.field.sourceKey entries = true
  /-- Each key that occurs has a field that was read from its first occurrence. -/
  reads : ∀ key v, findKey? key entries = some v → ∃ m ∈ merged.fields,
    m.field.sourceKey = key ∧ schema.Reads m.field.type v

/-- Another occurrence of a key makes no structs. -/
theorem Merged.document_structs {merged merged' : Merged} {existing : MergedField} {key : String}
    {place : Place} {block : CommentBlock} {line? : Option Nat}
    (h : merged.document existing key place block line? = .ok merged') :
    merged'.structs = merged.structs := by
  rcases document_cases h with ⟨rfl, -⟩ | ⟨rfl, -⟩ <;> rfl

namespace Merged.Reads

variable {schema : Schema} {entries : List (String × Value)} {merged merged' : Merged}
  {key : String} {v : Value}

theorem empty (schema : Schema) : Merged.Reads schema [] {} :=
  ⟨List.nodup_nil, fun _ h => absurd h List.not_mem_nil, fun _ h => absurd h List.not_mem_nil,
    fun _ _ h => (nomatch h)⟩

/-- **A key that occurs again** changes nothing about what was read. Its values have one shape, and
without markers there is nothing else to take from it. -/
theorem again {existing : MergedField} {place : Place} {block : CommentBlock} {line? : Option Nat}
    (h : merged.Reads schema entries) (hfind : merged.find? key = some existing)
    (hdocument : merged.document existing key place block line? = .ok merged')
    (hblock : block.markers = []) : merged'.Reads schema (entries ++ [(key, v)]) := by
  obtain ⟨hfields, -⟩ := Merged.document_keeps h.keys_nodup hfind hdocument
  have hmarkers : ∀ m ∈ merged'.fields, m.field.markers = [] := by
    rcases Merged.document_cases hdocument with ⟨rfl, -⟩ | ⟨rfl, -⟩
    · exact h.no_markers
    · intro m hm
      obtain ⟨old, hold, rfl⟩ := List.mem_map.mp hm
      split
      · exact hblock
      · exact h.no_markers old hold
  -- A field of either list has a field of the other one with its key and its type.
  have hsame {a b : Merged} (hfields : a.fields.map (fun m => (m.field.sourceKey, m.field.type))
      = b.fields.map fun m => (m.field.sourceKey, m.field.type)) {m : MergedField}
      (hm : m ∈ a.fields) : ∃ n ∈ b.fields, n.field.sourceKey = m.field.sourceKey ∧
        n.field.type = m.field.type := by
    have hmem : (m.field.sourceKey, m.field.type)
        ∈ b.fields.map fun m => (m.field.sourceKey, m.field.type) :=
      hfields ▸ List.mem_map.mpr ⟨m, hm, rfl⟩
    obtain ⟨n, hn, heq⟩ := List.mem_map.mp hmem
    obtain ⟨hkey, htype⟩ := Prod.mk.inj heq
    exact ⟨n, hn, hkey, htype⟩
  have hkeys := congrArg (List.map Prod.fst) hfields
  rw [List.map_map, List.map_map] at hkeys
  refine ⟨hkeys ▸ h.keys_nodup, hmarkers, fun m hm => ?_, fun other w hw => ?_⟩
  · obtain ⟨n, hn, hkey, -⟩ := hsame hfields hm
    have hknown := h.known n hn
    rw [hasKey, Option.isSome_iff_exists] at hknown
    obtain ⟨u, hu⟩ := hknown
    rw [hasKey, ← hkey, findKey?_append, hu]
    rfl
  · obtain ⟨hmem, hexisting⟩ := Merged.of_find? hfind
    have hknown := h.known existing hmem
    rw [hexisting, hasKey, Option.isSome_iff_exists] at hknown
    obtain ⟨u, hu⟩ := hknown
    have hold : findKey? other entries = some w := by
      rw [findKey?_append] at hw
      rcases Option.or_eq_some_iff.mp hw with hw | ⟨hnone, hw⟩
      · exact hw
      · -- The key has occurred before.
        rw [findKey?_cons] at hw
        split at hw
        · next heq =>
          rw [← heq, hu] at hnone
          cases hnone
        · cases hw
    obtain ⟨n, hn, hkey, hreads⟩ := h.reads other w hold
    obtain ⟨m, hm, hmkey, hmtype⟩ := hsame hfields.symm hn
    exact ⟨m, hm, hmkey.trans hkey, hmtype ▸ hreads⟩

/-- **A key that occurs for the first time** has a field that is read from its value. -/
theorem push (h : merged.Reads schema entries) (new : MergedField) (own : List Struct)
    (hfind : merged.find? new.field.sourceKey = none) (hmarkers : new.field.markers = [])
    (hnew : schema.Reads new.field.type v) :
    Merged.Reads schema (entries ++ [(new.field.sourceKey, v)])
      { fields := merged.fields ++ [new], structs := merged.structs ++ own } := by
  have hfresh := Merged.not_mem_of_find? hfind
  have hmem {m : MergedField} (hm : m ∈ merged.fields ++ [new]) : m ∈ merged.fields ∨ m = new :=
    (List.mem_append.mp hm).imp_right List.mem_singleton.mp
  refine ⟨?_, fun m hm => ?_, fun m hm => ?_, fun key w hw => ?_⟩
  · rw [List.map_append, List.nodup_append]
    refine ⟨h.keys_nodup, List.nodup_singleton _, fun a ha b hb hab => hfresh ?_⟩
    rw [List.map_singleton, List.mem_singleton] at hb
    exact hb ▸ hab ▸ ha
  · rcases hmem hm with hold | rfl
    · exact h.no_markers m hold
    · exact hmarkers
  · rcases hmem hm with hold | rfl
    · have hknown := h.known m hold
      rw [hasKey, Option.isSome_iff_exists] at hknown
      obtain ⟨u, hu⟩ := hknown
      rw [hasKey, findKey?_append, hu]
      rfl
    · rw [hasKey, findKey?_append, findKey?_cons, if_pos rfl]
      cases findKey? m.field.sourceKey entries <;> rfl
  · rw [findKey?_append] at hw
    rcases Option.or_eq_some_iff.mp hw with hw | ⟨-, hw⟩
    · obtain ⟨m, hm, hkey, hreads⟩ := h.reads key w hw
      exact ⟨m, List.mem_append_left _ hm, hkey, hreads⟩
    · rw [findKey?_cons] at hw
      split at hw
      · next heq =>
        obtain rfl := Option.some.inj hw
        exact ⟨new, List.mem_append_right _ (List.mem_singleton_self _), heq, hnew⟩
      · cases hw

/-- Each field has a sample of what it was read from. -/
theorem exists_sample (h : merged.Reads schema entries) :
    ∃ sample : Field → Value, ∀ m ∈ merged.fields,
      schema.Describes m.field.type (sample m.field) := by
  have hreads (f : Field) :
      ∃ v, ∀ m ∈ merged.fields, m.field = f → schema.Describes f.type v := by
    cases hfind : findKey? f.sourceKey entries with
    | none =>
      refine ⟨.null, fun m hm heq => ?_⟩
      have hknown := h.known m hm
      rw [hasKey, heq, hfind] at hknown
      cases hknown
    | some v =>
      obtain ⟨n, hn, hkey, hv⟩ := h.reads _ v hfind
      refine ⟨v, fun m hm heq => ?_⟩
      have hmn : n = m := by
        refine List.inj_on_of_nodup_map h.keys_nodup hn hm ?_
        rw [hkey, heq]
      rw [← heq, ← hmn]
      exact hv v (Or.inl rfl)
  exact ⟨fun f => (hreads f).choose, fun m hm => (hreads m.field).choose_spec m hm rfl⟩

end Merged.Reads

/-! ## Fields of a mapping -/

/-- **The fields of a struct are read from the entries of a mapping**, one from each. -/
structure Schema.ReadsFields (schema : Schema) (entries : List (Value × Value))
    (fields : List Field) : Prop where
  /-- The keys of the fields are those of the entries. -/
  keys : fields.map (fun f => Value.string f.sourceKey) = entries.map (·.1)
  /-- Each field has no rules and was read from an entry. -/
  reads : ∀ f ∈ fields, f.markers = [] ∧ ∃ v, (.string f.sourceKey, v) ∈ entries ∧
    schema.Reads f.type v

namespace Schema

variable {schema : Schema} {entries : List (Value × Value)} {fields : List Field}

/-- A field behind which the others are read from the other entries. -/
theorem ReadsFields.cons {f : Field} {v : Value} (h : schema.ReadsFields entries fields)
    (hmarkers : f.markers = []) (hreads : schema.Reads f.type v) :
    schema.ReadsFields ((.string f.sourceKey, v) :: entries) (f :: fields) := by
  refine ⟨?_, fun g hg => ?_⟩
  · rw [List.map_cons, List.map_cons, h.keys]
  · rcases List.mem_cons.mp hg with rfl | hg
    · exact ⟨hmarkers, v, List.mem_cons_self, hreads⟩
    · obtain ⟨hnone, w, hw, hreads⟩ := h.reads g hg
      exact ⟨hnone, w, List.mem_cons_of_mem _ hw, hreads⟩

/-- A struct whose fields are read from entries with different keys is bare. -/
theorem ReadsFields.isBare (h : schema.ReadsFields entries fields)
    (hnodup : (entries.map (·.1)).Nodup) (name : String) (documentation : List String) :
    Struct.IsBare { name, documentation, fields } := by
  refine ⟨?_, fun f hf => (h.reads f hf).1⟩
  rw [← h.keys] at hnodup
  have hmap : fields.map (fun f => Value.string f.sourceKey)
      = (fields.map (·.sourceKey)).map Value.string := List.map_map.symm
  rw [hmap] at hnodup
  exact hnodup.of_map _

/-- Of two values under one key of a mapping with different keys both are the same. -/
theorem value_unique (hnodup : (entries.map (·.1)).Nodup) {key v w : Value}
    (hv : (key, v) ∈ entries) (hw : (key, w) ∈ entries) : v = w :=
  (Prod.mk.inj (List.inj_on_of_nodup_map hnodup hv hw rfl)).2

theorem ReadsFields.exists_sample (h : schema.ReadsFields entries fields) :
    ∃ sample : Field → Value, ∀ f ∈ fields, schema.Describes f.type (sample f) := by
  have hreads (f : Field) : ∃ v, f ∈ fields → schema.Describes f.type v := by
    by_cases hf : f ∈ fields
    · obtain ⟨-, v, -, hv⟩ := h.reads f hf
      exact ⟨v, fun _ => hv v (Or.inl rfl)⟩
    · exact ⟨.null, fun h => absurd h hf⟩
  exact ⟨fun f => (hreads f).choose, fun f hf => (hreads f).choose_spec hf⟩

/-- **A struct of entries describes their mapping**, and the mappings of the same shape. Each field
has a value in the mapping from which it was read. -/
theorem ReadsFields.reads_mapping {s : Struct} (h : schema.ReadsFields entries s.fields)
    (hnodup : (entries.map (·.1)).Nodup) (hs : schema.struct? s.name = some s) :
    schema.Reads (.single (.struct s.name)) (.mapping entries) := by
  have hbare : s.IsBare := h.isBare hnodup s.name s.documentation
  have hfield {key : Value} (hkey : key ∈ entries.map (·.1)) :
      ∃ f ∈ s.fields, key = .string f.sourceKey := by
    rw [← h.keys] at hkey
    obtain ⟨f, hf, heq⟩ := List.mem_map.mp hkey
    exact ⟨f, hf, heq.symm⟩
  obtain ⟨sample, hsample⟩ := h.exists_sample
  rintro w (rfl | hshape)
  · refine .mapping hs hbare hsample (fun key v hv => hfield (List.mem_map.mpr ⟨_, hv, rfl⟩))
      fun v f hf hv => ?_
    obtain ⟨-, u, hu, hreads⟩ := h.reads f hf
    exact hreads v (Or.inl (value_unique hnodup hv hu))
  · cases hshape with
    | scalar hscalar => exact nomatch hscalar
    | mapping hkeys hvalues =>
      refine .mapping hs hbare hsample
        (fun key v hv => hfield ((hkeys key).mpr (List.mem_map.mpr ⟨_, hv, rfl⟩)))
        fun v f hf hv => ?_
      obtain ⟨-, u, hu, hreads⟩ := h.reads f hf
      exact hreads v (Or.inr (hvalues _ u v hu hv))

end Schema

/-! ## Items of a list -/

/-- The entries of an item that is a mapping, by their keys. -/
def itemEntries (item : Value) : List (String × Value) :=
  match item with
  | .mapping entries => textEntries entries
  | _ => []

/-- The entries with a text key are found among all entries. -/
theorem mem_textEntries {entries : List (Value × Value)} {key : String} {v : Value} :
    (key, v) ∈ textEntries entries ↔ (.string key, v) ∈ entries := by
  rw [textEntries, List.mem_filterMap]
  constructor
  · rintro ⟨⟨k, w⟩, hmem, heq⟩
    dsimp only at heq
    split at heq
    · obtain ⟨rfl, rfl⟩ := Prod.mk.inj (Option.some.inj heq)
      exact hmem
    · exact nomatch heq
  · intro hmem
    exact ⟨_, hmem, rfl⟩

theorem findKey?_textEntries {entries : List (Value × Value)} {key : String} {v : Value}
    (h : (.string key, v) ∈ entries) : ∃ w, findKey? key (textEntries entries) = some w := by
  cases hfind : findKey? key (textEntries entries) with
  | some w => exact ⟨w, rfl⟩
  | none =>
    exact absurd (List.mem_map.mpr ⟨_, mem_textEntries.mpr h, rfl⟩) (findKey?_eq_none.mp hfind)

/-- **A later occurrence of a key has the shape of the first one**, where the items of a list are
mappings that agree. -/
theorem sameShape_first {items : List Value} (hagree : items.Pairwise Agree)
    (huniform : ∀ item ∈ items, Uniform item) {key : String} {u : Value}
    (hfirst : findKey? key (items.flatMap itemEntries) = some u) {entries : List (Value × Value)}
    (hitem : .mapping entries ∈ items) {w : Value} (hw : (.string key, w) ∈ entries) :
    w = u ∨ SameShape u w := by
  induction items with
  | nil => exact absurd hitem List.not_mem_nil
  | cons item rest ih =>
    obtain ⟨hfirstAgrees, hrest⟩ := List.pairwise_cons.mp hagree
    rw [List.flatMap_cons, findKey?_append] at hfirst
    rcases Option.or_eq_some_iff.mp hfirst with hhere | ⟨hnone, hlater⟩
    · cases item with
      | mapping xs =>
        have hu := mem_textEntries.mp (mem_of_findKey? hhere)
        rcases List.mem_cons.mp hitem with heq | hitem
        · obtain rfl := Value.mapping.inj heq
          cases huniform _ List.mem_cons_self with
          | scalar hscalar => cases hscalar
          | mapping _ hnodup _ => exact Or.inl (Schema.value_unique hnodup hw hu)
        · exact Or.inr (hfirstAgrees _ hitem xs entries rfl rfl _ u w hu hw)
      | _ => cases hhere
    · rcases List.mem_cons.mp hitem with rfl | hitem
      · obtain ⟨v, hv⟩ := findKey?_textEntries hw
        cases hnone.symm.trans hv
      · exact ih hrest (fun item h => huniform item (List.mem_cons_of_mem _ h)) hlater hitem

/-! ## What the walk reads -/

namespace Walk

variable {ctx : DocumentContext} {schema : Schema}

theorem not_uniform_tagged {tag : String} {v : Value} : ¬ Uniform (.tagged tag v) := by
  intro h
  cases h with
  | scalar hscalar => exact nomatch hscalar

/-- The key of an entry of a uniform mapping is its text. -/
theorem eq_of_keyText? {k : Value} {key : String} (hk : ∃ key, k = Value.string key)
    (h : keyText? k = some key) : k = .string key := by
  obtain ⟨text, rfl⟩ := hk
  exact congrArg _ (Option.some.inj h)

/-- **A scalar without a hint has the type that it shows**, and so have those of its shape: the
shape of a scalar is that type. -/
theorem reads_scalar {v : Value} (hv : isScalar v = true) :
    schema.Reads (scalarType none v) v := by
  rintro w (rfl | hshape)
  · exact .scalar hv
  · cases hshape with
    | scalar _ hw heq =>
      show schema.Describes (.single (.ofValue v)) w
      rw [heq]
      exact .scalar hw
    | mapping | sequence => exact nomatch hv

/-- A list of scalars has the type that the first one shows, and so have those of its shape. -/
theorem reads_scalars {items : List Value} (h : ScalarsOfOneType items) :
    schema.Reads (listType none items) (.sequence items) := by
  cases items with
  | nil =>
    rintro w (rfl | hshape)
    · exact .unknown
    · cases hshape with
      | scalar hscalar => exact nomatch hscalar
      | sequence => exact .unknown
  | cons first rest =>
    obtain ⟨type, hitems⟩ := h
    obtain ⟨hfirst, rfl⟩ := hitems first List.mem_cons_self
    have hown : ∀ item ∈ first :: rest, schema.Describes (.single (.ofValue first)) item := by
      intro item hitem
      obtain ⟨hscalar, htype⟩ := hitems item hitem
      exact htype ▸ .scalar hscalar
    have hsample := hown first List.mem_cons_self
    rintro w (rfl | hshape)
    · exact .sequence hsample hown
    · obtain ⟨others, rfl, hothers⟩ := hshape.of_cons
      exact .sequence hsample fun item hitem =>
        reads_scalar hfirst item (Or.inr (hothers item hitem))

/-- **A struct of merged fields describes the list** of agreeing mappings, and the lists of the
same shape: they have items of the shape of the first one, whose keys were read there. -/
theorem reads_mappings {items : List Value} {merged : Merged} {s : Struct}
    (hmappings : ∀ item ∈ items, ∃ entries, item = .mapping entries)
    (hagree : items.Pairwise Agree) (huniform : ∀ item ∈ items, Uniform item)
    (hstart : startsWithMapping items = true)
    (hmerged : merged.Reads schema (items.flatMap itemEntries))
    (hfields : s.fields = merged.fields.map (·.field)) (hs : schema.struct? s.name = some s) :
    schema.Reads (.list (.struct s.name)) (.sequence items) := by
  have hbare : s.IsBare := by
    refine ⟨?_, fun f hf => ?_⟩
    · rw [hfields, List.map_map]
      exact hmerged.keys_nodup
    · rw [hfields] at hf
      obtain ⟨m, hm, rfl⟩ := List.mem_map.mp hf
      exact hmerged.no_markers m hm
  obtain ⟨sample, hfieldSample⟩ := hmerged.exists_sample
  have hsample : ∀ f ∈ s.fields, schema.Describes f.type (sample f) := by
    intro f hf
    rw [hfields] at hf
    obtain ⟨m, hm, rfl⟩ := List.mem_map.mp hf
    exact hfieldSample m hm
  -- A mapping is described if what it has under a key has the shape of the first occurrence.
  have hdescribes (entries : List (Value × Value))
      (hkeys : ∀ key v, (key, v) ∈ entries → ∃ text u, key = .string text ∧
        findKey? text (items.flatMap itemEntries) = some u ∧ (v = u ∨ SameShape u v)) :
      schema.Describes (.single (.struct s.name)) (.mapping entries) := by
    refine .mapping hs hbare hsample (fun key v hv => ?_) fun v f hf hv => ?_
    · obtain ⟨text, u, rfl, hfind, -⟩ := hkeys key v hv
      obtain ⟨m, hm, hkey, -⟩ := hmerged.reads text u hfind
      exact ⟨m.field, by rw [hfields]; exact List.mem_map.mpr ⟨m, hm, rfl⟩, by rw [hkey]⟩
    · obtain ⟨text, u, htext, hfind, hshape⟩ := hkeys _ v hv
      obtain ⟨m, hm, hkey, hreads⟩ := hmerged.reads text u hfind
      have hmem : m.field ∈ s.fields := by
        rw [hfields]
        exact List.mem_map.mpr ⟨m, hm, rfl⟩
      have heq : f = m.field := by
        refine List.inj_on_of_nodup_map hbare.keys_nodup hf hmem ?_
        rw [hkey]
        exact Value.string.inj htext
      exact heq ▸ hreads v hshape
  have hown : ∀ item ∈ items, schema.Describes (.single (.struct s.name)) item := by
    intro item hitem
    obtain ⟨entries, rfl⟩ := hmappings item hitem
    refine hdescribes entries fun key v hv => ?_
    cases huniform _ hitem with
    | scalar hscalar => exact nomatch hscalar
    | mapping hkeys _ _ =>
      obtain ⟨text, rfl : key = .string text⟩ := hkeys _ hv
      have hmem : text ∈ (items.flatMap itemEntries).map (·.1) :=
        List.mem_map.mpr ⟨(text, v), List.mem_flatMap.mpr ⟨_, hitem, mem_textEntries.mpr hv⟩, rfl⟩
      cases hfind : findKey? text (items.flatMap itemEntries) with
      | none => exact absurd hmem (findKey?_eq_none.mp hfind)
      | some u => exact ⟨text, u, rfl, hfind, sameShape_first hagree huniform hfind hitem hv⟩
  cases items with
  | nil => exact nomatch hstart
  | cons first rest =>
    have hfirst := hown first List.mem_cons_self
    rintro w (rfl | hshape)
    · exact .sequence hfirst hown
    · obtain ⟨others, rfl, hothers⟩ := hshape.of_cons
      obtain ⟨xs, rfl⟩ := hmappings first List.mem_cons_self
      refine .sequence hfirst fun item hitem => ?_
      cases hothers item hitem with
      | scalar hscalar => exact nomatch hscalar
      | @mapping _ ys hsame hvalues =>
        refine hdescribes ys fun key v hv => ?_
        -- The key is one of the first item, and so occurs there first.
        obtain ⟨⟨key', u⟩, hu, rfl⟩ := List.mem_map.mp ((hsame key).mpr
          (List.mem_map.mpr ⟨_, hv, rfl⟩))
        cases huniform _ List.mem_cons_self with
        | scalar hscalar => exact nomatch hscalar
        | mapping hkeys hnodup _ =>
          obtain ⟨text, rfl : key' = .string text⟩ := hkeys _ hu
          obtain ⟨u', hfind⟩ := findKey?_textEntries hu
          have heq : u' = u :=
            Schema.value_unique hnodup (mem_textEntries.mp (mem_of_findKey? hfind)) hu
          refine ⟨text, u, rfl, ?_, Or.inr (hvalues _ u v hu hv)⟩
          rw [List.flatMap_cons, findKey?_append]
          show (findKey? text (textEntries xs)).or _ = _
          rw [hfind, heq]
          rfl

/-- The structs that a run of the walk made are those of the schema. -/
def Holds (schema : Schema) (structs : List Struct) : Prop :=
  ∀ s ∈ structs, schema.struct? s.name = some s

mutual

/-- **The type of a uniform value is read from it.** The induction is that of the walk; the items
of a list go on from what was read from the items before. -/
theorem resolve_reads (hrules : ctx.HasNoRules) (v : Value) (hv : Uniform v) {key : String}
    {place : Place} {type : FieldType} {structs : List Struct} {r r' : NameRegistry}
    (h : resolve ctx key place v r = .ok ((type, structs), r')) (hholds : Holds schema structs) :
    schema.Reads type v := by
  match v with
  | .tagged tag v => exact absurd hv not_uniform_tagged
  | .mapping entries =>
    rcases resolve_mapping h with ⟨hint, -, hhint, -⟩ | ⟨-, name, fields, nested, -, hentries,
      rfl, rfl⟩
    · rw [hrules.typeHint] at hhint
      exact nomatch hhint
    · cases hv with
      | scalar hscalar => exact nomatch hscalar
      | mapping hkeys hnodup hvalues =>
        have hfields := resolveEntries_reads hrules entries hkeys hvalues hentries
          fun s hs => hholds s (List.mem_cons_of_mem _ hs)
        exact hfields.reads_mapping hnodup (hholds _ List.mem_cons_self)
  | .sequence items =>
    rcases resolve_sequence h with ⟨hstart, rfl, -, -⟩ | ⟨name, merged, hstart, -, hitems, rfl,
      rfl⟩
    · rw [hrules.typeHint]
      cases hv with
      | scalar hscalar => exact nomatch hscalar
      | scalars htype _ => exact reads_scalars htype
      | mappings hmappings _ _ =>
        cases items with
        | nil => exact reads_scalars ⟨.unknown, fun _ h => absurd h List.not_mem_nil⟩
        | cons first rest =>
          obtain ⟨entries, rfl⟩ := hmappings first List.mem_cons_self
          exact nomatch hstart
    · cases hv with
      | scalar hscalar => exact nomatch hscalar
      | scalars htype _ =>
        cases items with
        | nil => exact nomatch hstart
        | cons first rest =>
          obtain ⟨type, hscalars⟩ := htype
          have hscalar := (hscalars first List.mem_cons_self).1
          cases first with
          | mapping | tagged => exact nomatch hscalar
          | _ => exact nomatch hstart
      | mappings hmappings hagree huniform =>
        have hmerged := (resolveItems_reads hrules items hmappings huniform hitems).2
          (fun s hs => hholds s (List.mem_cons_of_mem _ hs)) (Merged.Reads.empty schema)
        exact reads_mappings hmappings hagree huniform hstart hmerged rfl
          (hholds _ List.mem_cons_self)
  | .null | .bool _ | .number _ | .string _ =>
    obtain ⟨rfl, -, -⟩ := resolve_scalar rfl h
    rw [hrules.typeHint]
    exact reads_scalar rfl
termination_by structural v

/-- The fields of the entries of a uniform mapping are read from them. -/
theorem resolveEntries_reads (hrules : ctx.HasNoRules) (entries : List (Value × Value))
    (hkeys : ∀ entry ∈ entries, ∃ key, entry.1 = .string key)
    (hvalues : ∀ key v, (key, v) ∈ entries → Uniform v) {place : Place} {fields : List Field}
    {structs : List Struct} {r r' : NameRegistry}
    (h : resolveEntries ctx place entries r = .ok ((fields, structs), r'))
    (hholds : Holds schema structs) : schema.ReadsFields entries fields := by
  match entries with
  | [] =>
    obtain ⟨rfl, -, -⟩ := resolveEntries_nil h
    exact ⟨rfl, fun _ h => absurd h List.not_mem_nil⟩
  | (k, v) :: rest =>
    obtain ⟨key, type, own, r₁, others, nested, hkey, hv, hrest, rfl, rfl⟩ := resolveEntries_cons h
    obtain rfl := eq_of_keyText? (hkeys _ List.mem_cons_self) hkey
    have hreads := resolve_reads hrules v (hvalues _ _ List.mem_cons_self) hv
      fun s hs => hholds s (List.mem_append_left _ hs)
    have hothers := resolveEntries_reads hrules rest
      (fun entry h => hkeys entry (List.mem_cons_of_mem _ h))
      (fun key v h => hvalues key v (List.mem_cons_of_mem _ h)) hrest
      fun s hs => hholds s (List.mem_append_right _ hs)
    exact hothers.cons (f := fieldOf ctx key (place.key key) type) (hrules.markers _) hreads
termination_by structural entries

/-- The fields of the items of a uniform list are read from the first occurrences of their
keys. -/
theorem resolveItems_reads (hrules : ctx.HasNoRules) (items : List Value)
    (hmappings : ∀ item ∈ items, ∃ entries, item = .mapping entries)
    (huniform : ∀ item ∈ items, Uniform item) {place : Place} {position : Nat}
    {merged merged' : Merged} {seen : List (String × Value)} {r r' : NameRegistry}
    (h : resolveItems ctx place position merged items r = .ok (merged', r')) :
    merged.structs ⊆ merged'.structs ∧ (Holds schema merged'.structs → merged.Reads schema seen →
      merged'.Reads schema (seen ++ items.flatMap itemEntries)) := by
  match items with
  | [] =>
    obtain ⟨rfl, -⟩ := resolveItems_nil h
    refine ⟨fun _ h => h, fun _ hreads => ?_⟩
    rwa [List.flatMap_nil, List.append_nil]
  | item :: rest =>
    obtain ⟨merged₁, r₁, hitem, hrest⟩ := resolveItems_cons h
    obtain ⟨hsub, hreads⟩ := resolveItem_reads hrules item (hmappings item List.mem_cons_self)
      (huniform item List.mem_cons_self) hitem
    obtain ⟨hsub', hreads'⟩ := resolveItems_reads hrules rest
      (fun item h => hmappings item (List.mem_cons_of_mem _ h))
      (fun item h => huniform item (List.mem_cons_of_mem _ h)) hrest
    refine ⟨fun _ h => hsub' (hsub h), fun hholds hmerged => ?_⟩
    rw [List.flatMap_cons, ← List.append_assoc]
    exact hreads' hholds (hreads (fun s hs => hholds s (hsub' hs)) hmerged)
termination_by structural items

/-- The fields of an item of a uniform list add to those read so far. -/
theorem resolveItem_reads (hrules : ctx.HasNoRules) (item : Value)
    (hmapping : ∃ entries, item = .mapping entries) (huniform : Uniform item) {place : Place}
    {merged merged' : Merged} {seen : List (String × Value)} {r r' : NameRegistry}
    (h : resolveItem ctx place merged item r = .ok (merged', r')) :
    merged.structs ⊆ merged'.structs ∧ (Holds schema merged'.structs → merged.Reads schema seen →
      merged'.Reads schema (seen ++ itemEntries item)) := by
  match item with
  | .mapping entries =>
    rw [resolveItem_mapping] at h
    cases huniform with
    | scalar hscalar => exact nomatch hscalar
    | mapping hkeys _ hvalues => exact mergeEntries_reads hrules entries hkeys hvalues h
  | .tagged _ _ | .null | .bool _ | .number _ | .string _ | .sequence _ =>
    obtain ⟨entries, heq⟩ := hmapping
    exact nomatch heq
termination_by structural item

/-- The entries of an item add the fields of those keys that occur for the first time. -/
theorem mergeEntries_reads (hrules : ctx.HasNoRules) (entries : List (Value × Value))
    (hkeys : ∀ entry ∈ entries, ∃ key, entry.1 = .string key)
    (hvalues : ∀ key v, (key, v) ∈ entries → Uniform v) {place : Place} {merged merged' : Merged}
    {seen : List (String × Value)} {r r' : NameRegistry}
    (h : mergeEntries ctx place merged entries r = .ok (merged', r')) :
    merged.structs ⊆ merged'.structs ∧ (Holds schema merged'.structs → merged.Reads schema seen →
      merged'.Reads schema (seen ++ textEntries entries)) := by
  match entries with
  | [] =>
    obtain ⟨rfl, -⟩ := mergeEntries_nil h
    refine ⟨fun _ h => h, fun _ hreads => ?_⟩
    show merged'.Reads schema (seen ++ [])
    rwa [List.append_nil]
  | (k, v) :: rest =>
    obtain ⟨key, hkey, hcases⟩ := mergeEntries_cons h
    obtain rfl := eq_of_keyText? (hkeys _ List.mem_cons_self) hkey
    have htext : textEntries ((.string key, v) :: rest) = (key, v) :: textEntries rest := rfl
    have hrestKeys : ∀ entry ∈ rest, ∃ key, entry.1 = .string key :=
      fun entry h => hkeys entry (List.mem_cons_of_mem _ h)
    have hrestValues : ∀ key v, (key, v) ∈ rest → Uniform v :=
      fun key v h => hvalues key v (List.mem_cons_of_mem _ h)
    rcases hcases with ⟨existing, merged₁, hfind, hdocument, hrest⟩ |
      ⟨type, own, r₁, hfind, hv, hrest⟩
    · obtain ⟨hsub, hreads⟩ := mergeEntries_reads hrules rest hrestKeys hrestValues hrest
      rw [Merged.document_structs hdocument] at hsub
      refine ⟨hsub, fun hholds hmerged => ?_⟩
      rw [htext, ← List.singleton_append, ← List.append_assoc]
      exact hreads hholds (hmerged.again hfind hdocument (hrules.markers _))
    · obtain ⟨hsub, hreads⟩ := mergeEntries_reads hrules rest hrestKeys hrestValues hrest
      refine ⟨fun _ h => hsub (List.mem_append_left _ h), fun hholds hmerged => ?_⟩
      have hown := resolve_reads hrules v (hvalues _ _ List.mem_cons_self) hv
        fun s hs => hholds s (hsub (List.mem_append_right _ hs))
      have hpushed : Merged.Reads schema (seen ++ [(key, v)])
          { fields := merged.fields ++ [newField ctx key (place.key key) type]
            structs := merged.structs ++ own } :=
        hmerged.push (newField ctx key (place.key key) type) own hfind (hrules.markers _) hown
      rw [htext, ← List.singleton_append, ← List.append_assoc]
      exact hreads hholds hpushed
termination_by structural entries

end

/-- The entries of a resource that become its fields. -/
def ownEntries (entries : List (Value × Value)) : List (Value × Value) :=
  entries.filter fun entry =>
    match entry.1 with
    | .string key => !reservedKeys.contains key
    | _ => true

/-- **The fields of a resource are read** from the entries that are no remarks about it. -/
theorem resolveRoot_reads (hrules : ctx.HasNoRules) (entries : List (Value × Value))
    (hkeys : ∀ entry ∈ entries, ∃ key, entry.1 = .string key)
    (hvalues : ∀ key v, (key, v) ∈ entries → Uniform v) {place : Place} {fields : List Field}
    {structs : List Struct} {r r' : NameRegistry}
    (h : resolveRoot ctx place entries r = .ok ((fields, structs), r'))
    (hholds : Holds schema structs) : schema.ReadsFields (ownEntries entries) fields := by
  induction entries generalizing r fields structs with
  | nil =>
    obtain ⟨rfl, -, -⟩ := resolveRoot_nil h
    exact ⟨rfl, fun _ h => absurd h List.not_mem_nil⟩
  | cons entry rest ih =>
    obtain ⟨k, v⟩ := entry
    obtain ⟨key, hkey, hcases⟩ := resolveRoot_cons h
    obtain rfl := eq_of_keyText? (hkeys _ List.mem_cons_self) hkey
    have hrestKeys : ∀ entry ∈ rest, ∃ key, entry.1 = .string key :=
      fun entry h => hkeys entry (List.mem_cons_of_mem _ h)
    have hrestValues : ∀ key v, (key, v) ∈ rest → Uniform v :=
      fun key v h => hvalues key v (List.mem_cons_of_mem _ h)
    rcases hcases with ⟨hreserved, h⟩ | ⟨type, own, r₁, others, nested, hreserved, hv, hrest, rfl,
      rfl⟩
    · have hskip : ownEntries ((.string key, v) :: rest) = ownEntries rest :=
        List.filter_cons_of_neg (by rw [Bool.not_eq_true, Bool.not_eq_false']; exact hreserved)
      rw [hskip]
      exact ih hrestKeys hrestValues h hholds
    · have hkeep : ownEntries ((.string key, v) :: rest)
          = (.string key, v) :: ownEntries rest :=
        List.filter_cons_of_pos (by rw [Bool.not_eq_true']; exact hreserved)
      have hreads := resolve_reads hrules v (hvalues _ _ List.mem_cons_self) hv
        fun s hs => hholds s (List.mem_append_left _ hs)
      have hothers := ih hrestKeys hrestValues hrest
        fun s hs => hholds s (List.mem_append_right _ hs)
      rw [hkeep]
      exact hothers.cons (f := fieldOf ctx key (place.key key) type) (hrules.markers _) hreads

end Walk

namespace Schema

/-- A struct is found by its name, if names are different. -/
theorem struct?_of_mem {schema : Schema} (hnodup : (schema.structs.map (·.name)).Nodup)
    {s : Struct} (hs : s ∈ schema.structs) : schema.struct? s.name = some s := by
  cases hfind : schema.struct? s.name with
  | none =>
    have hnone := List.find?_eq_none.mp hfind s hs
    rw [beq_self_eq_true] at hnone
    exact absurd rfl hnone
  | some found =>
    have hname : found.name = s.name := by simpa using List.find?_some hfind
    rw [List.inj_on_of_nodup_map hnodup (List.mem_of_find?_eq_some hfind) hs hname]

/-- **The schema of a uniform document without rules**: the fields of its root are read from the
entries of the document that are no remarks about the resource. -/
theorem ofValue_reads {ctx : DocumentContext} (hrules : ctx.HasNoRules) {v : Value}
    (hv : Uniform v) {schema : Schema} (h : ofValue ctx v = .ok schema) :
    ∃ entries s, v = .mapping entries ∧ (∀ entry ∈ entries, ∃ key, entry.1 = .string key) ∧
      (entries.map (·.1)).Nodup ∧ (∃ kind, kindOf entries = .ok kind) ∧
      schema.root? = some s ∧ schema.ReadsFields (Walk.ownEntries entries) s.fields := by
  obtain ⟨hnodup, -⟩ := ofValue_structs h
  obtain ⟨root, kind, apiVersion, fields, nested, r', hroot, hkind, -, hrun, hschema⟩ :=
    ofValue_eq_ok h
  have hholds : Walk.Holds schema schema.structs := fun s hs => struct?_of_mem hnodup hs
  cases hv with
  | scalar hscalar =>
    cases v with
    | sequence | mapping | tagged => exact nomatch hscalar
    | _ => exact nomatch hroot
  | scalars | mappings => exact nomatch hroot
  | @mapping entries hkeys hdistinct hvalues =>
    obtain rfl : entries = root := Value.mapping.inj hroot
    have hfields := Walk.resolveRoot_reads hrules entries hkeys hvalues hrun
      fun s hs => hholds s (by rw [hschema]; exact List.mem_cons_of_mem _ hs)
    have hfirst : schema.struct? kind = some _ := hholds ⟨kind, (ctx.comments ((Place.root kind).key "kind")).documentation, fields⟩
      (by rw [hschema]; exact List.mem_cons_self)
    have hname : schema.kind = kind := by rw [hschema]
    rw [← hname] at hfirst
    exact ⟨entries, _, rfl, hkeys, hdistinct, ⟨kind, hkind⟩, hfirst, hfields⟩

end Schema
end ChartSchema
