import ChartSchema.Proofs.Outcome
import ChartSchema.Proofs.Schema.Sites
/-!
# What a schema depends on

A schema says which keys a document has and of what types their values are. The values themselves
do not matter, nor does what is written above the keys, unless it is a hint.

The **skeleton** of a document is what is left of it when every scalar is replaced by the type that
it shows and tags are dropped. `Schema.ofValue_stripped_eq` says that two documents with one
skeleton, read with the same hints, have the same schema but for what is said about fields and for
the lines they stand in: the same structs, under the same names, in the same order, with the same
fields.

The two walks are followed side by side. They ask the registry for the same names in the same
order, because the census of both documents is the same; and they find the same keys among the
merged fields of a list, because comments, which may be written into a merged field later on,
never touch its key.
-/

namespace ChartSchema

open Yaml (Value)

/-! ## Skeletons -/

/-- **What is left of a value** without the contents of its scalars and without tags. -/
inductive Skeleton where
  /-- A scalar that shows this type. -/
  | scalar (type : TypeRef)
  /-- A list. -/
  | sequence (items : List Skeleton)
  /-- A mapping, with the texts of its keys. -/
  | mapping (entries : List (Option String × Skeleton))

/-- The type that a value with this skeleton shows. -/
def Skeleton.type : Skeleton → TypeRef
  | .scalar type => type
  | .sequence _ | .mapping _ => .unknown

/-- Whether a value with this skeleton is a mapping. -/
def Skeleton.isMapping : Skeleton → Bool
  | .mapping _ => true
  | .scalar _ | .sequence _ => false

namespace Yaml.Value

mutual

/-- The skeleton of a value. -/
def skeleton (v : Value) : Skeleton :=
  match v with
  | .tagged _ inner => inner.skeleton
  | .mapping entries => .mapping (skeletonOfEntries entries)
  | .sequence items => .sequence (skeletonOfItems items)
  | scalar => .scalar (.ofValue scalar)
termination_by structural v

/-- The skeletons of entries, each under the text of its key. -/
def skeletonOfEntries (entries : List (Value × Value)) : List (Option String × Skeleton) :=
  match entries with
  | [] => []
  | (k, v) :: rest => (ChartSchema.keyText? k, v.skeleton) :: skeletonOfEntries rest
termination_by structural entries

/-- The skeletons of items. -/
def skeletonOfItems (items : List Value) : List Skeleton :=
  match items with
  | [] => []
  | item :: rest => item.skeleton :: skeletonOfItems rest
termination_by structural items

end

/-- The type that a value shows is that of its skeleton. -/
theorem ofValue_eq_type (v : Value) : TypeRef.ofValue v = v.skeleton.type := by
  match v with
  | .tagged _ inner => exact ofValue_eq_type inner
  | .null | .bool _ | .number _ | .string _ | .sequence _ | .mapping _ => rfl

/-- Whether a value is a mapping is seen from its skeleton. -/
theorem isMapping_eq_skeleton (v : Value) : ChartSchema.isMapping v = v.skeleton.isMapping := by
  match v with
  | .tagged _ inner => exact isMapping_eq_skeleton inner
  | .null | .bool _ | .number _ | .string _ | .sequence _ | .mapping _ => rfl

/-- A value with the skeleton of a mapping is one, tags aside. -/
theorem of_skeleton_mapping {v : Value} {es : List (Option String × Skeleton)}
    (h : v.skeleton = .mapping es) :
    ∃ entries, v.untagged = .mapping entries ∧ skeletonOfEntries entries = es := by
  match v with
  | .tagged _ inner => exact of_skeleton_mapping (v := inner) h
  | .mapping entries => exact ⟨entries, rfl, Skeleton.mapping.inj h⟩
  | .null | .bool _ | .number _ | .string _ | .sequence _ => exact nomatch h

/-- A value with the skeleton of a list is one, tags aside. -/
theorem of_skeleton_sequence {v : Value} {ss : List Skeleton} (h : v.skeleton = .sequence ss) :
    ∃ items, v.untagged = .sequence items ∧ skeletonOfItems items = ss := by
  match v with
  | .tagged _ inner => exact of_skeleton_sequence (v := inner) h
  | .sequence items => exact ⟨items, rfl, Skeleton.sequence.inj h⟩
  | .null | .bool _ | .number _ | .string _ | .mapping _ => exact nomatch h

/-- A value with the skeleton of a scalar is one, tags aside. -/
theorem of_skeleton_scalar {v : Value} {type : TypeRef} (h : v.skeleton = .scalar type) :
    Walk.isScalar v.untagged = true ∧ TypeRef.ofValue v.untagged = type := by
  match v with
  | .tagged _ inner => exact of_skeleton_scalar (v := inner) h
  | .null | .bool _ | .number _ | .string _ => exact ⟨rfl, Skeleton.scalar.inj h⟩
  | .sequence _ | .mapping _ => exact nomatch h

variable {v : Value} {rest others : List (Value × Value)} {items more : List Value}

theorem skeletonOfEntries_cons {k : Value} {entries : List (Value × Value)}
    (h : skeletonOfEntries ((k, v) :: rest) = skeletonOfEntries entries) :
    ∃ l w others, entries = (l, w) :: others ∧
      ChartSchema.keyText? k = ChartSchema.keyText? l ∧
      v.skeleton = w.skeleton ∧ skeletonOfEntries rest = skeletonOfEntries others := by
  match entries with
  | [] => exact nomatch h
  | (l, w) :: others =>
    obtain ⟨hfirst, hrest⟩ := List.cons.inj h
    obtain ⟨hkey, hvalue⟩ := Prod.mk.inj hfirst
    exact ⟨l, w, others, rfl, hkey, hvalue, hrest⟩

theorem skeletonOfEntries_nil (h : skeletonOfEntries [] = skeletonOfEntries others) :
    others = [] := by
  match others with
  | [] => rfl
  | _ :: _ => exact nomatch h

theorem skeletonOfItems_cons (h : skeletonOfItems (v :: items) = skeletonOfItems more) :
    ∃ w others, more = w :: others ∧ v.skeleton = w.skeleton ∧
      skeletonOfItems items = skeletonOfItems others := by
  match more with
  | [] => exact nomatch h
  | w :: others =>
    obtain ⟨hfirst, hrest⟩ := List.cons.inj h
    exact ⟨w, others, rfl, hfirst, hrest⟩

theorem skeletonOfItems_nil (h : skeletonOfItems [] = skeletonOfItems more) : more = [] := by
  match more with
  | [] => rfl
  | _ :: _ => exact nomatch h

/-- How the first item looks is seen from the skeletons. -/
theorem head?_looksLike (h : skeletonOfItems items = skeletonOfItems more) :
    Option.Rel Walk.LooksLike items.head? more.head? := by
  cases items with
  | nil =>
    rw [skeletonOfItems_nil h]
    exact .none
  | cons first rest =>
    obtain ⟨w, others, rfl, hfirst, -⟩ := skeletonOfItems_cons h
    exact .some ⟨by rw [isMapping_eq_skeleton, isMapping_eq_skeleton, hfirst],
      by rw [ofValue_eq_type, ofValue_eq_type, hfirst]⟩

end Yaml.Value

/-! ## The same hints -/

/-- **Two readings with the same options and the same hints**, whatever else is written above the
keys. -/
structure DocumentContext.SameHints (ctx other : DocumentContext) : Prop where
  /-- The options are the same. -/
  options : ctx.options = other.options
  /-- The hints are the same. -/
  hints : ∀ place, (ctx.comments place).typeHint = (other.comments place).typeHint

section Census

open Census

variable {ctx other : DocumentContext}

theorem Census.ofValue_untagged (key : String) (place : Place) (v : Value) :
    ofValue ctx key place v.untagged = ofValue ctx key place v := by
  match v with
  | .tagged _ inner =>
    rw [ofValue]
    exact ofValue_untagged key place inner
  | .null | .bool _ | .number _ | .string _ | .sequence _ | .mapping _ => rfl

theorem Census.ofItem_untagged (place : Place) (seen : List String) (item : Value) :
    ofItem ctx place seen item.untagged = ofItem ctx place seen item := by
  match item with
  | .tagged _ inner =>
    rw [ofItem]
    exact ofItem_untagged place seen inner
  | .null | .bool _ | .number _ | .string _ | .sequence _ | .mapping _ => rfl

/-- The census is the same for a key that stands above. -/
theorem DocumentContext.SameHints.hasHint_eq (h : ctx.SameHints other) (place : Place) :
    ctx.hasHint place = other.hasHint place := by
  rw [DocumentContext.hasHint_eq, DocumentContext.hasHint_eq, h.hints]

theorem Census.ofValue_scalar {v : Value} (h : Walk.isScalar v = true) (key : String)
    (place : Place) : ofValue ctx key place v = [] := by
  cases v with
  | null | bool _ | number _ | string _ => rfl
  | sequence _ | mapping _ | tagged _ _ => cases h

mutual

/-- **The census of a value depends on its skeleton and the hints.** Scalars and comments have no
part in it. -/
theorem Census.ofValue_congr (hctx : ctx.SameHints other) (v : Value) {w : Value}
    (h : v.skeleton = w.skeleton) (key : String) (place : Place) :
    ofValue ctx key place v = ofValue other key place w := by
  match v with
  | .tagged _ inner =>
    rw [ofValue]
    exact ofValue_congr hctx inner h key place
  | .mapping entries =>
    obtain ⟨entries', hw, hentries⟩ := Value.of_skeleton_mapping h.symm
    rw [← ofValue_untagged key place w, hw, ofValue, ofValue, hctx.hasHint_eq, hctx.options,
      ofEntries_congr hctx entries hentries.symm place]
    cases entries with
    | nil => rw [Value.skeletonOfEntries_nil hentries.symm]
    | cons entry rest =>
      obtain ⟨l, w', others, rfl, -⟩ := Value.skeletonOfEntries_cons hentries.symm
      rfl
  | .sequence items =>
    obtain ⟨items', hw, hitems⟩ := Value.of_skeleton_sequence h.symm
    rw [← ofValue_untagged key place w, hw, ofValue, ofValue,
      Walk.startsWithMapping_eq (Value.head?_looksLike hitems.symm), hctx.options,
      ofItems_congr hctx items hitems.symm place 0 []]
  | .null | .bool _ | .number _ | .string _ =>
    rw [← ofValue_untagged key place w,
      ofValue_scalar (Value.of_skeleton_scalar h.symm).1 key place]
    rfl
termination_by structural v

/-- The census of entries depends on their skeletons and the hints. -/
theorem Census.ofEntries_congr (hctx : ctx.SameHints other) (entries : List (Value × Value))
    {others : List (Value × Value)}
    (h : Value.skeletonOfEntries entries = Value.skeletonOfEntries others) (place : Place) :
    ofEntries ctx place entries = ofEntries other place others := by
  match entries with
  | [] => rw [Value.skeletonOfEntries_nil h]; rfl
  | (k, v) :: rest =>
    obtain ⟨l, w, others, rfl, hkey, hvalue, hrest⟩ := Value.skeletonOfEntries_cons h
    rw [ofEntries, ofEntries, hkey, ofEntries_congr hctx rest hrest place]
    cases keyText? l with
    | none => rfl
    | some key =>
      dsimp only
      rw [ofValue_congr hctx v hvalue key (place.key key)]
termination_by structural entries

theorem Census.ofItems_congr (hctx : ctx.SameHints other) (items : List Value)
    {others : List Value} (h : Value.skeletonOfItems items = Value.skeletonOfItems others)
    (place : Place) (position : Nat) (seen : List String) :
    ofItems ctx place position seen items = ofItems other place position seen others := by
  match items with
  | [] => rw [Value.skeletonOfItems_nil h]; rfl
  | item :: rest =>
    obtain ⟨w, others, rfl, hitem, hrest⟩ := Value.skeletonOfItems_cons h
    rw [ofItems, ofItems, ofItem_congr hctx item hitem (place.index position) seen]
    dsimp only
    rw [ofItems_congr hctx rest hrest place (position + 1) _]
termination_by structural items

theorem Census.ofItem_congr (hctx : ctx.SameHints other) (item : Value) {w : Value}
    (h : item.skeleton = w.skeleton) (place : Place) (seen : List String) :
    ofItem ctx place seen item = ofItem other place seen w := by
  match item with
  | .tagged _ inner =>
    rw [ofItem]
    exact ofItem_congr hctx inner h place seen
  | .mapping entries =>
    obtain ⟨entries', hw, hentries⟩ := Value.of_skeleton_mapping h.symm
    rw [← ofItem_untagged place seen w, hw, ofItem, ofItem]
    exact ofNewEntries_congr hctx entries hentries.symm place seen
  | .sequence items =>
    obtain ⟨items', hw, -⟩ := Value.of_skeleton_sequence h.symm
    rw [← ofItem_untagged place seen w, hw]
    rfl
  | .null | .bool _ | .number _ | .string _ =>
    have hscalar := (Value.of_skeleton_scalar h.symm).1
    rw [← ofItem_untagged place seen w]
    match w.untagged, hscalar with
    | .null, _ | .bool _, _ | .number _, _ | .string _, _ => rfl
termination_by structural item

theorem Census.ofNewEntries_congr (hctx : ctx.SameHints other) (entries : List (Value × Value))
    {others : List (Value × Value)}
    (h : Value.skeletonOfEntries entries = Value.skeletonOfEntries others) (place : Place)
    (seen : List String) :
    ofNewEntries ctx place seen entries = ofNewEntries other place seen others := by
  match entries with
  | [] => rw [Value.skeletonOfEntries_nil h]; rfl
  | (k, v) :: rest =>
    obtain ⟨l, w, others, rfl, hkey, hvalue, hrest⟩ := Value.skeletonOfEntries_cons h
    rw [ofNewEntries, ofNewEntries, hkey]
    cases keyText? l with
    | none => exact ofNewEntries_congr hctx rest hrest place seen
    | some key =>
      dsimp only
      rw [ofNewEntries_congr hctx rest hrest place seen, ofValue_congr hctx v hvalue key _,
        ofNewEntries_congr hctx rest hrest place (key :: seen)]
termination_by structural entries

end

end Census

/-! ## What is left of a schema -/

/-- **A field without what is said about it** and without the line that it stands in. -/
def Field.stripped (f : Field) : Field :=
  { f with documentation := [], markers := [], sourceLine? := none }

/-- A struct without what is said about it and about its fields. -/
def Struct.stripped (s : Struct) : Struct :=
  { s with documentation := [], fields := s.fields.map Field.stripped }

/-- **A schema without documentation, markers and lines.** -/
def Schema.stripped (schema : Schema) : Schema :=
  { schema with structs := schema.structs.map Struct.stripped }

namespace Merged

variable {merged other merged' other' : Merged}

/-- **Merged fields are the same** but for what is said about them, and no key has two of them. -/
structure SameStripped (merged other : Merged) : Prop where
  /-- The fields are the same. -/
  fields : merged.fields.map (·.field.stripped) = other.fields.map (·.field.stripped)
  /-- The structs are the same. -/
  structs : merged.structs.map Struct.stripped = other.structs.map Struct.stripped
  /-- No key has two fields. -/
  keys_nodup : (merged.fields.map (·.field.sourceKey)).Nodup

namespace SameStripped

theorem empty : SameStripped {} {} := ⟨rfl, rfl, List.nodup_nil⟩

theorem keys_eq (h : merged.SameStripped other) :
    merged.fields.map (·.field.sourceKey) = other.fields.map (·.field.sourceKey) := by
  have hkeys := congrArg (List.map Field.sourceKey) h.fields
  rwa [List.map_map, List.map_map] at hkeys

theorem find?_isSome (h : merged.SameStripped other) (key : String) :
    (merged.find? key).isSome = (other.find? key).isSome := by
  have hfind := congrArg (List.find? fun f => f.sourceKey == key) h.fields
  rw [List.find?_map, List.find?_map] at hfind
  have hsome := congrArg Option.isSome hfind
  rwa [Option.isSome_map, Option.isSome_map] at hsome

/-- A key that occurs again changes nothing of this, whatever is written above it. -/
theorem document {existing existing' : MergedField} {key : String} {place : Place}
    {block block' : CommentBlock} {line? line?' : Option Nat} (h : merged.SameStripped other)
    (hfind : merged.find? key = some existing) (hfind' : other.find? key = some existing')
    (hdocument : merged.document existing key place block line? = .ok merged')
    (hdocument' : other.document existing' key place block' line?' = .ok other') :
    merged'.SameStripped other' := by
  have hnodup := h.keys_nodup
  have hnodup' := h.keys_eq ▸ hnodup
  obtain ⟨hfields, hstructs⟩ :=
    map_document (·.field.stripped) (fun _ _ _ _ => rfl) hnodup hfind hdocument
  obtain ⟨hfields', hstructs'⟩ :=
    map_document (·.field.stripped) (fun _ _ _ _ => rfl) hnodup' hfind' hdocument'
  obtain ⟨hkeys, -⟩ := map_document (·.field.sourceKey) (fun _ _ _ _ => rfl) hnodup hfind hdocument
  refine ⟨by rw [hfields, hfields', h.fields], by rw [hstructs, hstructs', h.structs], ?_⟩
  rw [hkeys]
  exact hnodup

/-- A key that occurs for the first time has the same field in both. -/
theorem push (new new' : MergedField) {own own' : List Struct} (h : merged.SameStripped other)
    (hfind : merged.find? new.field.sourceKey = none)
    (hnew : new.field.stripped = new'.field.stripped)
    (hown : own.map Struct.stripped = own'.map Struct.stripped) :
    SameStripped { fields := merged.fields ++ [new], structs := merged.structs ++ own }
      { fields := other.fields ++ [new'], structs := other.structs ++ own' } := by
  refine ⟨?_, ?_, ?_⟩
  · show (merged.fields ++ [new]).map _ = (other.fields ++ [new']).map _
    rw [List.map_append, List.map_append, h.fields, List.map_singleton, List.map_singleton, hnew]
  · rw [List.map_append, List.map_append, h.structs, hown]
  · rw [List.map_append, List.map_singleton, List.nodup_append]
    refine ⟨h.keys_nodup, List.nodup_singleton _, fun a ha b hb hab => ?_⟩
    rw [List.mem_singleton.mp hb] at hab
    exact not_mem_of_find? hfind (hab ▸ ha)

end SameStripped
end Merged

/-! ## Two walks side by side -/

namespace Walk

variable {ctx other : DocumentContext}

theorem resolve_untagged (key : String) (place : Place) (v : Value) :
    resolve ctx key place v.untagged = resolve ctx key place v := by
  match v with
  | .tagged tag inner =>
    rw [resolve_tagged]
    exact resolve_untagged key place inner
  | .null | .bool _ | .number _ | .string _ | .sequence _ | .mapping _ => rfl

theorem resolveItem_untagged (place : Place) (merged : Merged) (item : Value) :
    resolveItem ctx place merged item.untagged = resolveItem ctx place merged item := by
  match item with
  | .tagged tag inner =>
    rw [resolveItem_tagged]
    exact resolveItem_untagged place merged inner
  | .null | .bool _ | .number _ | .string _ | .sequence _ | .mapping _ => rfl

mutual

/-- **Two walks over values with one skeleton, with the same hints and from the same registry**,
give the same type, the same structs but for what is said about them, and leave the same
registry. -/
theorem resolve_sameStripped (hctx : ctx.SameHints other) (v : Value) {w : Value}
    (hskeleton : v.skeleton = w.skeleton) {key : String} {place : Place}
    {type type' : FieldType} {structs structs' : List Struct} {r r₁ r₁' : NameRegistry}
    (h : resolve ctx key place v r = .ok ((type, structs), r₁))
    (h' : resolve other key place w r = .ok ((type', structs'), r₁')) :
    type = type' ∧ structs.map Struct.stripped = structs'.map Struct.stripped ∧ r₁ = r₁' := by
  match v with
  | .tagged tag v =>
    rw [resolve_tagged] at h
    exact resolve_sameStripped hctx v hskeleton h h'
  | .mapping entries =>
    obtain ⟨others, hw, hothers⟩ := Value.of_skeleton_mapping hskeleton.symm
    rw [← resolve_untagged, hw] at h'
    have hempty : entries = [] ↔ others = [] :=
      ⟨fun heq => Value.skeletonOfEntries_nil (heq ▸ hothers.symm),
        fun heq => Value.skeletonOfEntries_nil (heq ▸ hothers)⟩
    have hhint := hctx.hints place
    rcases resolve_mapping h with ⟨hint, hnil, hsome, rfl, rfl, rfl⟩ | ⟨hnone, name, fields,
      nested, hname, hrun, rfl, rfl⟩ <;>
    rcases resolve_mapping h' with ⟨hint', hnil', hsome', rfl, rfl, rfl⟩ | ⟨hnone', name', fields',
      nested', hname', hrun', rfl, rfl⟩
    · rw [hsome, hsome'] at hhint
      exact ⟨by rw [Option.some.inj hhint], rfl, rfl⟩
    · rw [hsome, hnone' (hempty.mp hnil)] at hhint
      cases hhint
    · rw [hnone (hempty.mpr hnil'), hsome'] at hhint
      cases hhint
    · rw [hctx.options] at hname hrun
      obtain rfl := hname.symm.trans hname'
      obtain ⟨hfields, hnested, hregistry⟩ :=
        resolveEntries_sameStripped hctx entries hothers.symm hrun hrun'
      refine ⟨rfl, ?_, hregistry⟩
      rw [List.map_cons, List.map_cons, hnested, Struct.stripped, Struct.stripped, hfields]
  | .sequence items =>
    obtain ⟨others, hw, hothers⟩ := Value.of_skeleton_sequence hskeleton.symm
    rw [← resolve_untagged, hw] at h'
    have hstarts := startsWithMapping_eq (Value.head?_looksLike hothers)
    rcases resolve_sequence h with ⟨hplain, rfl, rfl, rfl⟩ | ⟨name, merged, hstart, hname, hrun,
      rfl, rfl⟩ <;>
    rcases resolve_sequence h' with ⟨hplain', rfl, rfl, rfl⟩ | ⟨name', merged', hstart', hname',
      hrun', rfl, rfl⟩
    · rw [listType_eq (Value.head?_looksLike hothers), hctx.hints place]
      exact ⟨rfl, rfl, rfl⟩
    · rw [hstart', hplain] at hstarts
      cases hstarts
    · rw [hplain', hstart] at hstarts
      cases hstarts
    · rw [hctx.options] at hname hrun
      obtain rfl := hname.symm.trans hname'
      obtain ⟨hmerged, hregistry⟩ :=
        resolveItems_sameStripped hctx items hothers.symm .empty hrun hrun'
      refine ⟨rfl, ?_, hregistry⟩
      rw [List.map_cons, List.map_cons, hmerged.structs, Struct.stripped, Struct.stripped,
        List.map_map, List.map_map]
      exact congrArg (fun fields => ({ name, documentation := [], fields } : Struct) :: _)
        hmerged.fields
  | .null | .bool _ | .number _ | .string _ =>
    obtain ⟨hscalar, htype⟩ := Value.of_skeleton_scalar hskeleton.symm
    rw [← resolve_untagged] at h'
    obtain ⟨rfl, rfl, rfl⟩ := resolve_scalar rfl h
    obtain ⟨rfl, rfl, rfl⟩ := resolve_scalar hscalar h'
    refine ⟨?_, rfl, rfl⟩
    unfold scalarType
    rw [hctx.hints place, htype]
termination_by structural v

theorem resolveEntries_sameStripped (hctx : ctx.SameHints other) (entries : List (Value × Value))
    {others : List (Value × Value)}
    (hskeleton : Value.skeletonOfEntries entries = Value.skeletonOfEntries others)
    {place : Place} {fields fields' : List Field} {structs structs' : List Struct}
    {r r₁ r₁' : NameRegistry}
    (h : resolveEntries ctx place entries r = .ok ((fields, structs), r₁))
    (h' : resolveEntries other place others r = .ok ((fields', structs'), r₁')) :
    fields.map Field.stripped = fields'.map Field.stripped ∧
      structs.map Struct.stripped = structs'.map Struct.stripped ∧ r₁ = r₁' := by
  match entries with
  | [] =>
    rw [Value.skeletonOfEntries_nil hskeleton] at h'
    obtain ⟨rfl, rfl, rfl⟩ := resolveEntries_nil h
    obtain ⟨rfl, rfl, rfl⟩ := resolveEntries_nil h'
    exact ⟨rfl, rfl, rfl⟩
  | (k, v) :: rest =>
    obtain ⟨l, w, others, rfl, hkeys, hvalue, hothers⟩ := Value.skeletonOfEntries_cons hskeleton
    obtain ⟨key, type, own, r₂, more, nested, hkey, hv, hrest, rfl, rfl⟩ := resolveEntries_cons h
    obtain ⟨key', type', own', r₂', more', nested', hkey', hv', hrest', rfl, rfl⟩ :=
      resolveEntries_cons h'
    obtain rfl := Option.some.inj (hkey.symm.trans (hkeys.trans hkey'))
    obtain ⟨rfl, hown, rfl⟩ := resolve_sameStripped hctx v hvalue hv hv'
    obtain ⟨hfields, hnested, hregistry⟩ :=
      resolveEntries_sameStripped hctx rest hothers hrest hrest'
    refine ⟨?_, by rw [List.map_append, List.map_append, hown, hnested], hregistry⟩
    rw [List.map_cons, List.map_cons, hfields]
    rfl
termination_by structural entries

theorem resolveItems_sameStripped (hctx : ctx.SameHints other) (items : List Value)
    {others : List Value}
    (hskeleton : Value.skeletonOfItems items = Value.skeletonOfItems others) {place : Place}
    {position : Nat} {merged merged₁ merged' merged₁' : Merged} {r r₁ r₁' : NameRegistry}
    (hmerged : merged.SameStripped merged')
    (h : resolveItems ctx place position merged items r = .ok (merged₁, r₁))
    (h' : resolveItems other place position merged' others r = .ok (merged₁', r₁')) :
    merged₁.SameStripped merged₁' ∧ r₁ = r₁' := by
  match items with
  | [] =>
    rw [Value.skeletonOfItems_nil hskeleton] at h'
    obtain ⟨rfl, rfl⟩ := resolveItems_nil h
    obtain ⟨rfl, rfl⟩ := resolveItems_nil h'
    exact ⟨hmerged, rfl⟩
  | item :: rest =>
    obtain ⟨w, others, rfl, hitems, hothers⟩ := Value.skeletonOfItems_cons hskeleton
    obtain ⟨merged₂, r₂, hitem, hrest⟩ := resolveItems_cons h
    obtain ⟨merged₂', r₂', hitem', hrest'⟩ := resolveItems_cons h'
    obtain ⟨hmerged₂, rfl⟩ := resolveItem_sameStripped hctx item hitems hmerged hitem hitem'
    exact resolveItems_sameStripped hctx rest hothers hmerged₂ hrest hrest'
termination_by structural items

theorem resolveItem_sameStripped (hctx : ctx.SameHints other) (item : Value) {w : Value}
    (hskeleton : item.skeleton = w.skeleton) {place : Place}
    {merged merged₁ merged' merged₁' : Merged} {r r₁ r₁' : NameRegistry}
    (hmerged : merged.SameStripped merged')
    (h : resolveItem ctx place merged item r = .ok (merged₁, r₁))
    (h' : resolveItem other place merged' w r = .ok (merged₁', r₁')) :
    merged₁.SameStripped merged₁' ∧ r₁ = r₁' := by
  match item with
  | .tagged tag v =>
    rw [resolveItem_tagged] at h
    exact resolveItem_sameStripped hctx v hskeleton hmerged h h'
  | .mapping entries =>
    obtain ⟨others, hw, hothers⟩ := Value.of_skeleton_mapping hskeleton.symm
    rw [← resolveItem_untagged, hw, resolveItem_mapping] at h'
    rw [resolveItem_mapping] at h
    exact mergeEntries_sameStripped hctx entries hothers.symm hmerged h h'
  | .null | .bool _ | .number _ | .string _ | .sequence _ =>
    have hw : isMapping w = false := by
      rw [Value.isMapping_eq_skeleton, ← hskeleton]
      rfl
    obtain ⟨rfl, rfl⟩ := resolveItem_other rfl h
    obtain ⟨rfl, rfl⟩ := resolveItem_other hw h'
    exact ⟨hmerged, rfl⟩
termination_by structural item

/-- Two walks that merge entries with the same skeletons. -/
theorem mergeEntries_sameStripped (hctx : ctx.SameHints other) (entries : List (Value × Value))
    {others : List (Value × Value)}
    (hskeleton : Value.skeletonOfEntries entries = Value.skeletonOfEntries others)
    {place : Place} {merged merged₁ merged' merged₁' : Merged} {r r₁ r₁' : NameRegistry}
    (hmerged : merged.SameStripped merged')
    (h : mergeEntries ctx place merged entries r = .ok (merged₁, r₁))
    (h' : mergeEntries other place merged' others r = .ok (merged₁', r₁')) :
    merged₁.SameStripped merged₁' ∧ r₁ = r₁' := by
  match entries with
  | [] =>
    rw [Value.skeletonOfEntries_nil hskeleton] at h'
    obtain ⟨rfl, rfl⟩ := mergeEntries_nil h
    obtain ⟨rfl, rfl⟩ := mergeEntries_nil h'
    exact ⟨hmerged, rfl⟩
  | (k, v) :: rest =>
    obtain ⟨l, w, others, rfl, hkeys, hvalue, hothers⟩ := Value.skeletonOfEntries_cons hskeleton
    obtain ⟨key, hkey, hcases⟩ := mergeEntries_cons h
    obtain ⟨key', hkey', hcases'⟩ := mergeEntries_cons h'
    obtain rfl := Option.some.inj (hkey.symm.trans (hkeys.trans hkey'))
    have hsome := hmerged.find?_isSome key
    rcases hcases with ⟨existing, merged₂, hfind, hdocument, hrest⟩ |
      ⟨type, own, r₂, hfind, hv, hrest⟩ <;>
    rcases hcases' with ⟨existing', merged₂', hfind', hdocument', hrest'⟩ |
      ⟨type', own', r₂', hfind', hv', hrest'⟩
    · have hmerged₂ := hmerged.document hfind hfind' hdocument hdocument'
      exact mergeEntries_sameStripped hctx rest hothers hmerged₂ hrest hrest'
    · rw [hfind, hfind'] at hsome
      cases hsome
    · rw [hfind, hfind'] at hsome
      cases hsome
    · obtain ⟨rfl, hown, rfl⟩ := resolve_sameStripped hctx v hvalue hv hv'
      have hpushed := hmerged.push (newField ctx key (place.key key) type)
        (newField other key (place.key key) type) hfind rfl hown
      exact mergeEntries_sameStripped hctx rest hothers hpushed hrest hrest'
termination_by structural entries

end

end Walk

/-! ## Schemas of documents with one skeleton -/

/-- **The entries at the root of a document that become fields**: those whose key is not one that
says what the resource is. -/
def fieldEntries (root : List (Value × Value)) : List (Value × Value) :=
  root.filter fun entry => !(keyText? entry.1).any reservedKeys.contains

section Root

variable {k v : Value} {rest : List (Value × Value)} {key : String}

/-- An entry that says what the resource is becomes no field. -/
theorem fieldEntries_reserved (hkey : keyText? k = some key)
    (hreserved : reservedKeys.contains key = true) :
    fieldEntries ((k, v) :: rest) = fieldEntries rest :=
  List.filter_cons_of_neg (by rw [hkey, Option.any_some, hreserved]; decide)

theorem fieldEntries_own (hkey : ∀ key, keyText? k = some key → reservedKeys.contains key = false) :
    fieldEntries ((k, v) :: rest) = (k, v) :: fieldEntries rest := by
  refine List.filter_cons_of_pos ?_
  cases htext : keyText? k with
  | none => rfl
  | some key => rw [Option.any_some, hkey key htext]; rfl

variable {ctx : DocumentContext} {place : Place}

/-- The census of a resource is that of the entries that become fields. -/
theorem Census.ofRoot_eq_ofEntries (root : List (Value × Value)) :
    ofRoot ctx place root = ofEntries ctx place (fieldEntries root) := by
  unfold ofRoot
  induction root with
  | nil => rfl
  | cons entry rest ih =>
    obtain ⟨k, v⟩ := entry
    rw [List.flatMap_cons, ih]
    dsimp only
    cases hkey : keyText? k with
    | none =>
      have hnot : ∀ text, keyText? k = some text → reservedKeys.contains text = false := by
        rw [hkey]
        exact fun _ h => absurd h.symm (Option.some_ne_none _)
      rw [fieldEntries_own hnot, ofEntries, hkey]
    | some key =>
      dsimp only
      split
      · next hreserved => rw [fieldEntries_reserved hkey hreserved, List.nil_append]
      · next hown =>
        have hnot : ∀ text, keyText? k = some text → reservedKeys.contains text = false :=
          fun text htext => Option.some.inj (hkey.symm.trans htext) ▸ Bool.eq_false_iff.mpr hown
        rw [fieldEntries_own hnot, ofEntries, hkey]

/-- The walk over a resource is that over the entries that become fields. -/
theorem Walk.resolveRoot_eq_resolveEntries (root : List (Value × Value)) :
    resolveRoot ctx place root = resolveEntries ctx place (fieldEntries root) := by
  induction root with
  | nil => rfl
  | cons entry rest ih =>
    obtain ⟨k, v⟩ := entry
    rw [resolveRoot, ih]
    cases hkey : keyText? k with
    | none =>
      have hnot : ∀ text, keyText? k = some text → reservedKeys.contains text = false := by
        rw [hkey]
        exact fun _ h => absurd h.symm (Option.some_ne_none _)
      rw [fieldEntries_own hnot, resolveEntries, Walk.key, hkey]
      rfl
    | some key =>
      rw [Walk.key, hkey]
      show (if reservedKeys.contains key = true then _ else _) = _
      split
      · next hreserved => rw [fieldEntries_reserved hkey hreserved]
      · next hown =>
        have hnot : ∀ text, keyText? k = some text → reservedKeys.contains text = false :=
          fun text htext => Option.some.inj (hkey.symm.trans htext) ▸ Bool.eq_false_iff.mpr hown
        rw [fieldEntries_own hnot, resolveEntries, Walk.key, hkey]
        rfl

end Root

namespace Schema

/-- **A schema depends on the skeleton of its document and on the hints, and on nothing else.** Take
two documents that say the same kind and the same version, and whose other entries have the same
skeletons: the same keys in the same order, the same lists, and scalars that show the same types.
Read both with the same options, from places at which the same hints stand. If both have a schema,
the schemas are the same but for documentation, markers and lines. -/
theorem ofValue_stripped_eq {options : BuildOptions} {sources others : SourceMap} {v w : Value}
    {root root' : List (Value × Value)}
    (hhints : ∀ path,
      (CommentBlock.ofLines options.markerTool (sources.comments path)).typeHint =
        (CommentBlock.ofLines options.markerTool (others.comments path)).typeHint)
    (hv : v.untagged = .mapping root) (hw : w.untagged = .mapping root')
    (hversion : apiVersionOf root = apiVersionOf root') (hkind : kindOf root = kindOf root')
    (hskeleton : Value.skeletonOfEntries (fieldEntries root) =
      Value.skeletonOfEntries (fieldEntries root'))
    {schema schema' : Schema} (h : ofValue ⟨options, sources⟩ v = .ok schema)
    (h' : ofValue ⟨options, others⟩ w = .ok schema') : schema.stripped = schema'.stripped := by
  have hctx : DocumentContext.SameHints ⟨options, sources⟩ ⟨options, others⟩ :=
    ⟨rfl, fun place => hhints place.segments⟩
  obtain ⟨entries, kind, version, fields, nested, r, hentries, hkind₁, hversion₁, hrun, rfl⟩ :=
    ofValue_eq_ok h
  obtain ⟨entries', kind', version', fields', nested', r', hentries', hkind₂, hversion₂, hrun',
    rfl⟩ := ofValue_eq_ok h'
  obtain rfl := Value.mapping.inj (hv.symm.trans hentries)
  obtain rfl := Value.mapping.inj (hw.symm.trans hentries')
  obtain rfl := Except.ok.inj (hkind₁.symm.trans (hkind.trans hkind₂))
  obtain rfl := Except.ok.inj (hversion₁.symm.trans (hversion.trans hversion₂))
  have hcensus : Census.ofRoot ⟨options, sources⟩ (Place.root kind) root =
      Census.ofRoot ⟨options, others⟩ (Place.root kind) root' := by
    rw [Census.ofRoot_eq_ofEntries, Census.ofRoot_eq_ofEntries]
    exact Census.ofEntries_congr hctx _ hskeleton _
  rw [Walk.resolveRoot_eq_resolveEntries] at hrun hrun'
  rw [hcensus] at hrun
  obtain ⟨hfields, hnested, -⟩ := Walk.resolveEntries_sameStripped hctx _ hskeleton hrun hrun'
  rw [stripped, stripped, List.map_cons, List.map_cons, hnested, Struct.stripped, Struct.stripped,
    hfields]

/-- The same hints stand at all places if they stand at those that are recorded, in one order. -/
theorem typeHint_congr_of_entries (tool : String) (sources others : SourceMap)
    (h : sources.entries.map (fun e => (e.1, CommentBlock.firstHint? tool e.2.comments)) =
      others.entries.map fun e => (e.1, CommentBlock.firstHint? tool e.2.comments))
    (path : SourcePath) :
    (CommentBlock.ofLines tool (sources.comments path)).typeHint =
      (CommentBlock.ofLines tool (others.comments path)).typeHint := by
  have hlookup (map : SourceMap) :
      (CommentBlock.ofLines tool (map.comments path)).typeHint =
        ((map.entries.map fun e =>
          (e.1, CommentBlock.firstHint? tool e.2.comments)).lookup path).join := by
    rw [CommentBlock.typeHint_ofLines, SourceMap.comments, SourceMap.get?]
    induction map.entries with
    | nil => rfl
    | cons entry rest ih =>
      obtain ⟨at_, found⟩ := entry
      rw [List.map_cons, List.lookup_cons, List.lookup_cons]
      cases path == at_ with
      | true => rfl
      | false => exact ih
  rw [hlookup, hlookup, h]

/-- A document with a number, a list of mappings, and an empty list. -/
def meterRoot : List (Value × Value) :=
  [(.string "kind", .string "Meter"), (.string "rate", .number (.int 5)),
    (.string "probes", .sequence [
      .mapping [(.string "name", .string "a"), (.string "every", .number (.int 1))],
      .mapping [(.string "every", .number (.int 2))]]),
    (.string "tags", .sequence [])]

/-- What is written above its keys. -/
def meterSources : SourceMap :=
  ⟨[([.key "rate"], ⟨3, ["# The rate.", "# +Minimum=1"]⟩),
    ([.key "probes", .index 0, .key "every"], ⟨7, ["# In seconds."]⟩),
    ([.key "tags"], ⟨10, ["# +miaka:type:[]string"]⟩)]⟩

/-- A document with other values, one of them under a tag. -/
def calmMeterRoot : List (Value × Value) :=
  [(.string "kind", .string " Meter"), (.string "rate", .tagged "!once" (.number (.int 7))),
    (.string "probes", .sequence [
      .mapping [(.string "name", .string "main"), (.string "every", .number (.int 60))],
      .mapping [(.string "every", .number (.int 60))]]),
    (.string "tags", .sequence [])]

/-- What is written above its keys: other comments, but the same hint. -/
def calmMeterSources : SourceMap :=
  ⟨[([.key "rate"], ⟨2, []⟩),
    ([.key "probes", .index 0, .key "every"], ⟨5, ["# Often.", "# +Maximum=60"]⟩),
    ([.key "tags"], ⟨9, ["# Free text.", "# +miaka:type:[]string"]⟩)]⟩

/-- Both documents have the same schema, but for what is said and for lines. -/
theorem ofValue_stripped_eq_meter :
    ∃ schema schema', ofValue ⟨{}, meterSources⟩ (.mapping meterRoot) = .ok schema ∧
      ofValue ⟨{}, calmMeterSources⟩ (.mapping calmMeterRoot) = .ok schema' ∧
      schema ≠ schema' ∧ schema.stripped = schema'.stripped := by
  have hsome : ((ofValue ⟨{}, meterSources⟩ (.mapping meterRoot)).toOption.bind fun schema =>
      (ofValue ⟨{}, calmMeterSources⟩ (.mapping calmMeterRoot)).toOption.map fun schema' =>
        decide (schema ≠ schema')) = some true := by decide +kernel
  obtain ⟨schema, hschema, hbind⟩ := Option.bind_eq_some_iff.mp hsome
  obtain ⟨schema', hschema', hne⟩ := Option.map_eq_some_iff.mp hbind
  have h := Outcome.toOption_eq_some.mp hschema
  have h' := Outcome.toOption_eq_some.mp hschema'
  refine ⟨schema, schema', h, h', of_decide_eq_true hne, ?_⟩
  have hrecorded : meterSources.entries.map
        (fun e => (e.1, CommentBlock.firstHint? "miaka" e.2.comments)) =
      calmMeterSources.entries.map
        (fun e => (e.1, CommentBlock.firstHint? "miaka" e.2.comments)) := by
    decide +kernel
  have hkind (root : List (Value × Value)) (hroot : (kindOf root).toOption = some "Meter") :
      kindOf root = .ok "Meter" := Outcome.toOption_eq_some.mp hroot
  have hkinds : kindOf meterRoot = kindOf calmMeterRoot :=
    (hkind meterRoot (by decide +kernel)).trans (hkind calmMeterRoot (by decide +kernel)).symm
  have hversion (root : List (Value × Value))
      (hroot : (apiVersionOf root).toOption = some {}) : apiVersionOf root = .ok {} :=
    Outcome.toOption_eq_some.mp hroot
  have hversions : apiVersionOf meterRoot = apiVersionOf calmMeterRoot :=
    (hversion meterRoot (by decide +kernel)).trans (hversion calmMeterRoot (by decide +kernel)).symm
  have hskeleton : Value.skeletonOfEntries (fieldEntries meterRoot) =
      Value.skeletonOfEntries (fieldEntries calmMeterRoot) := by
    simp only [fieldEntries, meterRoot, calmMeterRoot, keyText?]
    rfl
  refine ofValue_stripped_eq ?_ rfl rfl hversions hkinds hskeleton h h'
  exact typeHint_congr_of_entries "miaka" meterSources calmMeterSources hrecorded

end Schema
end ChartSchema
