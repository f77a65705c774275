import ChartSchema.Proofs.Schema.Readable
/-!
# The union of a list's items

The mappings in a list become one struct. The walk goes through their entries one by one, and what
it does at a key depends on what it met before: whether the key has a field, and whether something
was said about it. This module says what is there in the end without looking at these states. The
keys stand in the order in which they are first seen, each is read where it is first seen, with the
names that the keys before it leave, and what documents it is the first comment that says something
(`Walk.IsUnion`).

What was merged so far is the union of the entries so far, and one more entry keeps it so: it adds a
field (`IsUnion.push`), gives a field the comments that it lacked (`IsUnion.replace`), or changes
nothing (`IsUnion.unchanged`). The type of a field never changes, since its value was read already.
-/

namespace ChartSchema

open Yaml (Value)

/-! ## Keys in the order in which they are first seen -/

section

variable {α : Type} [BEq α] [LawfulBEq α] {a : α} {seen : List α}

/-- What was seen before is not seen first. -/
theorem eraseDups_concat_of_mem (h : a ∈ seen) : (seen ++ [a]).eraseDups = seen.eraseDups := by
  have hgone : [a].removeAll seen = [] := by
    rw [List.removeAll, List.filter_singleton, List.elem_eq_true_of_mem h]
    rfl
  rw [List.eraseDups_append, hgone, List.eraseDups_nil, List.append_nil]

theorem eraseDups_concat_of_not_mem (h : a ∉ seen) :
    (seen ++ [a]).eraseDups = seen.eraseDups ++ [a] := by
  have hleft : [a].removeAll seen = [a] := by
    rw [List.removeAll, List.filter_singleton,
      Bool.eq_false_iff.mpr (mt List.mem_of_elem_eq_true h)]
    rfl
  rw [List.eraseDups_append, hleft, List.eraseDups_cons, List.filter_nil, List.eraseDups_nil]

theorem nodup_eraseDups (l : List α) : l.eraseDups.Nodup := by
  induction l using List.reverseRecOn with
  | nil => exact List.nodup_nil
  | append_singleton seen a ih =>
    by_cases h : a ∈ seen
    · rwa [eraseDups_concat_of_mem h]
    · rw [eraseDups_concat_of_not_mem h, ← List.concat_eq_append]
      exact ih.concat (mt List.mem_eraseDups.mp h)

end

/-! ## Keys that are read -/

/-- Comments that say nothing neither document nor mark a field. -/
theorem DocumentContext.comments_of_isEmpty {ctx : DocumentContext} {place : Place}
    (h : (ctx.comments place).isEmpty = true) :
    (ctx.comments place).documentation = [] ∧ (ctx.comments place).markers = [] := by
  have hlines : ((ctx.sources.comments place.segments).map Comment.content).filter
      (!·.isEmpty) = [] := List.isEmpty_iff.mp h
  unfold comments CommentBlock.ofLines
  rw [hlines]
  exact ⟨rfl, rfl⟩

/-- **A key that was read**: the place and the value that it was read from, and what came of it. -/
structure Reading where
  /-- The key. -/
  key : String
  /-- Where it stands. -/
  place : Place
  /-- Its value. -/
  value : Value
  /-- The type of the value. -/
  type : FieldType
  /-- The structs that the type refers to. -/
  structs : List Struct

namespace Reading

/-- The field of the key, documented by these comments. -/
def field (ctx : DocumentContext) (block : CommentBlock) (x : Reading) : Field :=
  { Walk.fieldOf ctx x.key x.place x.type with
    documentation := block.documentation, markers := block.markers }

/-- The comments at its place document a field as it is read. -/
theorem field_comments (ctx : DocumentContext) (x : Reading) :
    x.field ctx (ctx.comments x.place) = Walk.fieldOf ctx x.key x.place x.type := rfl

theorem field_empty {ctx : DocumentContext} {x : Reading}
    (h : (ctx.comments x.place).isEmpty = true) :
    x.field ctx {} = Walk.fieldOf ctx x.key x.place x.type := by
  obtain ⟨hdocumentation, hmarkers⟩ := DocumentContext.comments_of_isEmpty h
  rw [← field_comments, field, field, hdocumentation, hmarkers]

/-- **A key is read where it occurs first** in entries of a list's items. -/
def IsFirst (place : Place) (es : List (Nat × Value × Value)) (x : Reading) : Prop :=
  ∃ before position k after, es = before ++ (position, k, x.value) :: after ∧
    keyText? k = some x.key ∧ x.place = (place.index position).key x.key ∧
    ∀ e ∈ before, keyText? e.2.1 ≠ some x.key

/-- What occurs first does so whatever comes behind. -/
theorem IsFirst.append {place : Place} {es : List (Nat × Value × Value)} {x : Reading}
    (h : x.IsFirst place es) (more : List (Nat × Value × Value)) :
    x.IsFirst place (es ++ more) := by
  obtain ⟨before, position, k, after, rfl, hfirst⟩ := h
  exact ⟨before, position, k, after ++ more, List.append_assoc _ _ _, hfirst⟩

end Reading

/-- **Keys are read one after the other**, each with the names that those before it leave. -/
inductive ReadInTurn (ctx : DocumentContext) : NameRegistry → List Reading → NameRegistry → Prop
  /-- No keys. -/
  | nil {r : NameRegistry} : ReadInTurn ctx r [] r
  /-- A key before others. -/
  | cons {r r₁ r' : NameRegistry} {x : Reading} {rest : List Reading} :
    Walk.resolve ctx x.key x.place x.value r = .ok ((x.type, x.structs), r₁) →
      ReadInTurn ctx r₁ rest r' → ReadInTurn ctx r (x :: rest) r'

theorem ReadInTurn.concat {ctx : DocumentContext} {r r₁ r' : NameRegistry} {readings : List Reading}
    {x : Reading} (h : ReadInTurn ctx r readings r₁)
    (hx : Walk.resolve ctx x.key x.place x.value r₁ = .ok ((x.type, x.structs), r')) :
    ReadInTurn ctx r (readings ++ [x]) r' := by
  induction h with
  | nil => exact .cons hx .nil
  | cons hfirst _ ih => exact .cons hfirst (ih hx)

/-! ## What is said about a key -/

namespace DocumentContext

/-- What an entry of a list's items says about a key: the comments above it, if it has the key and
they say something. -/
def saying? (ctx : DocumentContext) (place : Place) (key : String) (e : Nat × Value × Value) :
    Option CommentBlock :=
  if keyText? e.2.1 = some key ∧ (ctx.comments ((place.index e.1).key key)).isEmpty = false then
    some (ctx.comments ((place.index e.1).key key))
  else none

/-- **What is said about a key**: the first comments above it that say something, if there are
any. -/
def firstSaid (ctx : DocumentContext) (place : Place) (es : List (Nat × Value × Value))
    (key : String) : CommentBlock :=
  (es.findSome? (ctx.saying? place key)).getD {}

variable {ctx : DocumentContext} {place : Place} {key : String} {e : Nat × Value × Value}
  {es : List (Nat × Value × Value)}

/-- What one more entry says counts if nothing was said before. -/
theorem firstSaid_concat (ctx : DocumentContext) (place : Place) (es : List (Nat × Value × Value))
    (e : Nat × Value × Value) (key : String) :
    ctx.firstSaid place (es ++ [e]) key =
      ((es.findSome? (ctx.saying? place key)).or (ctx.saying? place key e)).getD {} := by
  rw [firstSaid, List.findSome?_append, List.findSome?_singleton]

/-- An entry that says nothing about a key does not count. -/
theorem firstSaid_concat_of_none (h : ctx.saying? place key e = none) :
    ctx.firstSaid place (es ++ [e]) key = ctx.firstSaid place es key := by
  rw [firstSaid_concat, h, Option.or_none, firstSaid]

theorem saying?_of_ne (h : keyText? e.2.1 ≠ some key) : ctx.saying? place key e = none :=
  if_neg fun hsaid => h hsaid.1

theorem firstSaid_concat_of_ne {other : String} (hkey : keyText? e.2.1 = some key)
    (hne : other ≠ key) : ctx.firstSaid place (es ++ [e]) other = ctx.firstSaid place es other := by
  refine firstSaid_concat_of_none (saying?_of_ne ?_)
  rw [hkey]
  exact fun heq => hne (Option.some.inj heq).symm

/-- An entry without comments that say something says nothing. -/
theorem saying?_of_isEmpty (h : (ctx.comments ((place.index e.1).key key)).isEmpty = true) :
    ctx.saying? place key e = none :=
  if_neg fun hsaid => Bool.false_ne_true (hsaid.2.symm.trans h)

/-- An entry with the key and with comments that say something says them. -/
theorem saying?_of_said (hkey : keyText? e.2.1 = some key)
    (h : (ctx.comments ((place.index e.1).key key)).isEmpty = false) :
    ctx.saying? place key e = some (ctx.comments ((place.index e.1).key key)) :=
  if_pos ⟨hkey, h⟩

/-- Either nothing was said about a key, or comments that are not empty. -/
theorem firstSaid_cases (ctx : DocumentContext) (place : Place) (es : List (Nat × Value × Value))
    (key : String) :
    (es.findSome? (ctx.saying? place key) = none ∧ ctx.firstSaid place es key = {}) ∨
      es.findSome? (ctx.saying? place key) = some (ctx.firstSaid place es key) ∧
        (ctx.firstSaid place es key).lines ≠ [] := by
  unfold firstSaid
  cases hfind : es.findSome? (ctx.saying? place key) with
  | none => exact .inl ⟨rfl, rfl⟩
  | some block =>
    refine .inr ⟨rfl, fun hempty => ?_⟩
    obtain ⟨e, -, he⟩ := List.exists_of_findSome?_eq_some hfind
    unfold saying? at he
    split at he
    · next hsaid =>
      rw [Option.some.inj he] at hsaid
      exact Bool.false_ne_true (hsaid.2.symm.trans (List.isEmpty_iff.mpr hempty))
    · cases he

theorem firstSaid_concat_of_said (h : (ctx.firstSaid place es key).lines ≠ []) :
    ctx.firstSaid place (es ++ [e]) key = ctx.firstSaid place es key := by
  rcases ctx.firstSaid_cases place es key with ⟨-, hnone⟩ | ⟨hsome, -⟩
  · exact absurd (by rw [hnone]) h
  · rw [firstSaid_concat, hsome, Option.some_or, Option.getD_some]

/-- Where nothing was said, one more entry says what it does. -/
theorem firstSaid_concat_of_silent (h : (ctx.firstSaid place es key).lines = []) :
    ctx.firstSaid place (es ++ [e]) key = (ctx.saying? place key e).getD {} := by
  rcases ctx.firstSaid_cases place es key with ⟨hnone, -⟩ | ⟨-, hsaid⟩
  · rw [firstSaid_concat, hnone, Option.none_or]
  · exact absurd h hsaid

theorem firstSaid_of_not_mem (h : some key ∉ es.map (keyText? ·.2.1)) :
    ctx.firstSaid place es key = {} := by
  rw [firstSaid, List.findSome?_eq_none_iff.mpr fun e he => saying?_of_ne fun hkey => h ?_]
  · rfl
  · exact List.mem_map.mpr ⟨e, he, hkey⟩

/-- Where a key occurs first, what is said there is said first. -/
theorem firstSaid_of_isFirst {x : Reading} (h : x.IsFirst place es)
    (hsaid : (ctx.comments x.place).isEmpty = false) :
    ctx.firstSaid place es x.key = ctx.comments x.place := by
  obtain ⟨before, position, k, after, rfl, hkey, hplace, hbefore⟩ := h
  have hnone : before.findSome? (ctx.saying? place x.key) = none :=
    List.findSome?_eq_none_iff.mpr fun e he => saying?_of_ne (hbefore e he)
  rw [hplace] at hsaid ⊢
  rw [firstSaid, List.findSome?_append, hnone, Option.none_or, List.findSome?_cons,
    saying?_of_said (e := (position, k, x.value)) hkey hsaid, Option.getD_some]

end DocumentContext

/-! ## The union of entries -/

namespace Walk

/-- **What was merged is the union of entries.** -/
structure IsUnion (ctx : DocumentContext) (place : Place) (es : List (Nat × Value × Value))
    (r : NameRegistry) (readings : List Reading) (merged : Merged) (r' : NameRegistry) : Prop where
  /-- The keys of the entries are read, in the order in which they are first seen. -/
  keys : (readings.map (·.key)).map some = (es.map (keyText? ·.2.1)).eraseDups
  /-- Each is read where it occurs first. -/
  first : ∀ x ∈ readings, x.IsFirst place es
  /-- They are read one after the other. -/
  inTurn : ReadInTurn ctx r readings r'
  /-- Each has a field, documented by the first comments that say something. -/
  fields : merged.fields = readings.map fun x =>
    { field := x.field ctx (ctx.firstSaid place es x.key)
      comments := (ctx.firstSaid place es x.key).lines }
  /-- The structs stand in the order of the fields. -/
  structs : merged.structs = readings.flatMap (·.structs)

namespace IsUnion

variable {ctx : DocumentContext} {place : Place} {es : List (Nat × Value × Value)}
  {r r₁ r' : NameRegistry} {readings : List Reading} {merged merged' : Merged}

theorem nil (ctx : DocumentContext) (place : Place) (r : NameRegistry) :
    IsUnion ctx place [] r [] {} r :=
  ⟨rfl, nofun, .nil, rfl, rfl⟩

theorem mem_keys (h : IsUnion ctx place es r readings merged r') {key : String} :
    key ∈ readings.map (·.key) ↔ some key ∈ es.map (keyText? ·.2.1) := by
  rw [← List.mem_eraseDups (l := es.map _), ← h.keys,
    List.mem_map_of_injective (Option.some_injective _)]

theorem keys_nodup (h : IsUnion ctx place es r readings merged r') :
    (readings.map (·.key)).Nodup := by
  have hnodup := nodup_eraseDups (es.map (keyText? ·.2.1))
  rw [← h.keys] at hnodup
  exact hnodup.of_map

theorem map_sourceKey (h : IsUnion ctx place es r readings merged r') :
    merged.fields.map (·.field.sourceKey) = readings.map (·.key) := by
  rw [h.fields, List.map_map]
  rfl

theorem of_find? (h : IsUnion ctx place es r readings merged r') {key : String}
    {existing : MergedField} (hfind : merged.find? key = some existing) :
    ∃ x ∈ readings, x.key = key ∧ existing.field = x.field ctx (ctx.firstSaid place es key) ∧
      existing.comments = (ctx.firstSaid place es key).lines := by
  obtain ⟨hmem, hkey⟩ := Merged.of_find? hfind
  rw [h.fields] at hmem
  obtain ⟨x, hx, rfl⟩ := List.mem_map.mp hmem
  obtain rfl : x.key = key := hkey
  exact ⟨x, hx, rfl, rfl, rfl⟩

variable {e : Nat × Value × Value} {key : String}

/-- Where a key occurs again and the fields become what is said now, the rest is as it was. -/
theorem again (h : IsUnion ctx place es r readings merged r') (hkey : keyText? e.2.1 = some key)
    (hold : key ∈ readings.map (·.key)) (hstructs : merged'.structs = merged.structs)
    (hfields : merged'.fields = readings.map fun x =>
      { field := x.field ctx (ctx.firstSaid place (es ++ [e]) x.key)
        comments := (ctx.firstSaid place (es ++ [e]) x.key).lines }) :
    IsUnion ctx place (es ++ [e]) r readings merged' r' := by
  refine ⟨?_, fun x hx => (h.first x hx).append _, h.inTurn, hfields, hstructs.trans h.structs⟩
  rw [List.map_append, List.map_singleton, hkey, eraseDups_concat_of_mem (h.mem_keys.mp hold)]
  exact h.keys

/-- An entry that adds nothing to what is said of its key changes nothing. -/
theorem unchanged (h : IsUnion ctx place es r readings merged r')
    (hkey : keyText? e.2.1 = some key) (hold : key ∈ readings.map (·.key))
    (hkept : ctx.firstSaid place (es ++ [e]) key = ctx.firstSaid place es key) :
    IsUnion ctx place (es ++ [e]) r readings merged r' := by
  refine h.again hkey hold rfl (h.fields.trans (List.map_congr_left fun y _ => ?_))
  have hsaid : ctx.firstSaid place (es ++ [e]) y.key = ctx.firstSaid place es y.key := by
    by_cases hykey : y.key = key
    · rw [hykey, hkept]
    · exact DocumentContext.firstSaid_concat_of_ne hkey hykey
  rw [hsaid]

/-- An entry that says the first thing about its key documents the field of the key. -/
theorem replace (h : IsUnion ctx place es r readings merged r') (hkey : keyText? e.2.1 = some key)
    {x : Reading} (hx : x ∈ readings) (hxkey : x.key = key) {block : CommentBlock}
    (hnew : ctx.firstSaid place (es ++ [e]) key = block) :
    IsUnion ctx place (es ++ [e]) r readings
      (merged.replace key { field := x.field ctx block, comments := block.lines }) r' := by
  refine h.again hkey (hxkey ▸ List.mem_map_of_mem hx) rfl ?_
  show merged.fields.map _ = _
  rw [h.fields, List.map_map]
  refine List.map_congr_left fun y hy => ?_
  by_cases hykey : y.key = key
  · obtain rfl : y = x := List.inj_on_of_nodup_map h.keys_nodup hy hx (hykey.trans hxkey.symm)
    rw [Function.comp_apply, hykey, hnew]
    exact if_pos (beq_iff_eq.mpr hykey)
  · rw [DocumentContext.firstSaid_concat_of_ne hkey hykey]
    exact if_neg (mt beq_iff_eq.mp hykey)

/-- **A key that occurs again** gives its field the comments that it lacked, or changes nothing.
Either way the field has what was said first of the key. -/
theorem document (h : IsUnion ctx place es r readings merged r') (hkey : keyText? e.2.1 = some key)
    {existing : MergedField} (hfind : merged.find? key = some existing) {line? : Option Nat}
    (hdocument : merged.document existing key ((place.index e.1).key key)
      (ctx.comments ((place.index e.1).key key)) line? = .ok merged') :
    IsUnion ctx place (es ++ [e]) r readings merged' r' := by
  obtain ⟨x, hx, hxkey, hfield, hcomments⟩ := h.of_find? hfind
  have hold : key ∈ readings.map (·.key) := hxkey ▸ List.mem_map_of_mem hx
  rcases Merged.document_cases hdocument with ⟨rfl, hempty | ⟨hsaid, -⟩⟩ | ⟨rfl, hblock, hsilent⟩
  · exact h.unchanged hkey hold
      (DocumentContext.firstSaid_concat_of_none (DocumentContext.saying?_of_isEmpty hempty))
  · exact h.unchanged hkey hold
      (DocumentContext.firstSaid_concat_of_said (hcomments ▸ hsaid))
  · have hnew : ctx.firstSaid place (es ++ [e]) key = ctx.comments ((place.index e.1).key key) := by
      rw [DocumentContext.firstSaid_concat_of_silent (hcomments ▸ hsilent),
        DocumentContext.saying?_of_said hkey hblock, Option.getD_some]
    rw [hfield]
    exact h.replace hkey hx hxkey hnew

/-- **A key that occurs for the first time** is read behind the others. Its type is that of this
occurrence, and structs inside are made now. -/
theorem push (h : IsUnion ctx place es r readings merged r₁) (hkey : keyText? e.2.1 = some key)
    (hfind : merged.find? key = none) {type : FieldType} {own : List Struct}
    (hv : resolve ctx key ((place.index e.1).key key) e.2.2 r₁ = .ok ((type, own), r')) :
    IsUnion ctx place (es ++ [e]) r
      (readings ++ [⟨key, (place.index e.1).key key, e.2.2, type, own⟩])
      { fields := merged.fields ++ [newField ctx key ((place.index e.1).key key) type]
        structs := merged.structs ++ own } r' := by
  have hnew : some key ∉ es.map (keyText? ·.2.1) := by
    rw [← h.mem_keys, ← h.map_sourceKey]
    exact Merged.not_mem_of_find? hfind
  have hsilent : ctx.firstSaid place es key = {} := DocumentContext.firstSaid_of_not_mem hnew
  refine ⟨?_, ?_, h.inTurn.concat hv, ?_, ?_⟩
  · rw [List.map_append, List.map_append, List.map_append, h.keys, List.map_singleton,
      List.map_singleton, List.map_singleton, hkey, eraseDups_concat_of_not_mem hnew]
  · intro x hx
    rcases List.mem_append.mp hx with hx | hx
    · exact (h.first x hx).append _
    · obtain rfl := List.mem_singleton.mp hx
      exact ⟨es, e.1, e.2.1, [], rfl, hkey, rfl,
        fun other hother heq => hnew (List.mem_map.mpr ⟨other, hother, heq⟩)⟩
  · rw [List.map_append, List.map_singleton, h.fields]
    refine congrArg₂ _ (List.map_congr_left fun x hx => ?_) (congrArg (fun m => [m]) ?_)
    · have hother : x.key ≠ key :=
        fun heq => hnew (heq ▸ h.mem_keys.mp (List.mem_map_of_mem hx))
      rw [DocumentContext.firstSaid_concat_of_ne hkey hother]
    · rw [DocumentContext.firstSaid_concat_of_silent (by rw [hsilent])]
      cases hblock : (ctx.comments ((place.index e.1).key key)).isEmpty with
      | false =>
        rw [DocumentContext.saying?_of_said hkey hblock]
        rfl
      | true =>
        have hfield := Reading.field_empty
          (x := ⟨key, (place.index e.1).key key, e.2.2, type, own⟩) hblock
        rw [DocumentContext.saying?_of_isEmpty hblock, Option.getD_none, hfield]
        exact congrArg (MergedField.mk _) (List.isEmpty_iff.mp hblock)
  · rw [List.flatMap_append, List.flatMap_singleton, h.structs]

end IsUnion

variable {ctx : DocumentContext} {place : Place} {es : List (Nat × Value × Value)}
  {r r₁ r' : NameRegistry} {readings : List Reading} {merged merged' : Merged}

theorem mergeEntries_isUnion (entries : List (Value × Value)) {position : Nat}
    (hmerged : IsUnion ctx place es r readings merged r₁)
    (h : mergeEntries ctx (place.index position) merged entries r₁ = .ok (merged', r')) :
    ∃ readings', IsUnion ctx place (es ++ entries.map (position, ·)) r readings' merged' r' := by
  induction entries generalizing es readings merged r₁ with
  | nil =>
    obtain ⟨rfl, rfl⟩ := mergeEntries_nil h
    rw [List.map_nil, List.append_nil]
    exact ⟨readings, hmerged⟩
  | cons entry rest ih =>
    obtain ⟨k, v⟩ := entry
    -- What was seen so far grows by one entry, which either has a key of these or a new one.
    have hcons : es ++ ((k, v) :: rest).map (position, ·) =
        es ++ [(position, k, v)] ++ rest.map (position, ·) := by
      rw [List.append_assoc, List.map_cons, List.singleton_append]
    rw [hcons]
    obtain ⟨key, hkey, ⟨existing, merged₁, hfind, hdocument, hrest⟩ |
      ⟨type, own, r₂, hfind, hv, hrest⟩⟩ := mergeEntries_cons h
    · exact ih (hmerged.document (e := (position, k, v)) hkey hfind hdocument) hrest
    · exact ih (hmerged.push (e := (position, k, v)) hkey hfind hv) hrest

/-- Merging an item keeps the union; an item that is no mapping adds nothing. -/
theorem resolveItem_isUnion (item : Value) {position : Nat}
    (hmerged : IsUnion ctx place es r readings merged r₁)
    (h : resolveItem ctx (place.index position) merged item r₁ = .ok (merged', r')) :
    ∃ readings', IsUnion ctx place (es ++ item.entries.map (position, ·)) r readings' merged'
      r' := by
  match item with
  | .tagged tag v =>
    rw [resolveItem_tagged] at h
    exact resolveItem_isUnion v hmerged h
  | .mapping entries =>
    rw [resolveItem_mapping] at h
    exact mergeEntries_isUnion entries hmerged h
  | .null | .bool _ | .number _ | .string _ | .sequence _ =>
    obtain ⟨rfl, rfl⟩ := resolveItem_other rfl h
    exact ⟨readings, (List.append_nil es).symm ▸ hmerged⟩
termination_by structural item

theorem resolveItems_isUnion (items : List Value) {position : Nat}
    (hmerged : IsUnion ctx place es r readings merged r₁)
    (h : resolveItems ctx place position merged items r₁ = .ok (merged', r')) :
    ∃ readings', IsUnion ctx place (es ++ Value.entriesOfItems position items) r readings' merged'
      r' := by
  induction items generalizing position es readings merged r₁ with
  | nil =>
    obtain ⟨rfl, rfl⟩ := resolveItems_nil h
    rw [Value.entriesOfItems, List.append_nil]
    exact ⟨readings, hmerged⟩
  | cons item rest ih =>
    obtain ⟨merged₁, r₂, hitem, hrest⟩ := resolveItems_cons h
    obtain ⟨readings₁, hmerged₁⟩ := resolveItem_isUnion item hmerged hitem
    rw [Value.entriesOfItems, ← List.append_assoc]
    exact ih hmerged₁ hrest

theorem exists_isUnion {items : List Value}
    (h : resolveItems ctx place 0 {} items r = .ok (merged, r')) :
    ∃ readings, IsUnion ctx place (Value.entriesOfItems 0 items) r readings merged r' :=
  resolveItems_isUnion items (.nil ctx place r) h

/-- **A list of mappings becomes the union of its items.** Whatever the comments and the names that
are taken, if the items are merged, the keys of the fields are different from each other and are
those of all mappings among the items, in the order in which they are first seen. Each key was read
where it occurs first, with the names that those before it left. Its field has the type, the path
and the line from there and is documented by the first comments above the key that say something.
The structs are those that were read, in the order of the fields. -/
theorem resolveItems_firstSeen {items : List Value}
    (h : resolveItems ctx place 0 {} items r = .ok (merged, r')) :
    (merged.fields.map (·.field.sourceKey)).Nodup ∧
      (merged.fields.map (·.field.sourceKey)).map some =
        ((Value.entriesOfItems 0 items).map (keyText? ·.2.1)).eraseDups ∧
      ∃ readings, IsUnion ctx place (Value.entriesOfItems 0 items) r readings merged r' := by
  obtain ⟨readings, hunion⟩ := exists_isUnion h
  rw [hunion.map_sourceKey]
  exact ⟨hunion.keys_nodup, hunion.keys, readings, hunion⟩

/-- Three items, the second of which is no mapping. The third has the port of the first one again
and two keys of one text. -/
def portItems : List Value :=
  [.mapping [(.string "name", .string "http"),
      (.string "port", .mapping [(.string "number", .number (.int 80))])],
    .string "none",
    .tagged "!tls" (.mapping [(.string "port", .mapping [(.string "tls", .bool true)]),
      (.number (.int 1), .bool true), (.string "1", .string "one"), (.string "name", .null)])]

/-- The comments in that list: above the name of the first item and the port of the third. -/
def portComments : DocumentContext :=
  ⟨{}, ⟨[([.key "ports", .index 0, .key "name"], ⟨3, ["# How it is called."]⟩),
    ([.key "ports", .index 2, .key "port"], ⟨7, ["# Where it listens.", "# +optional"]⟩)]⟩⟩

/-- The port has the type of the first item, whose struct does not get the taken name, and what the
third item says. -/
theorem resolveItems_firstSeen_ports :
    ∃ merged r', resolveItems portComments ((Place.root "Demo").key "ports") 0 {} portItems
        ⟨["Demo", "PortSpec"], []⟩ = .ok (merged, r') ∧
      merged.fields.map (fun m => (m.field.sourceKey, m.field.type, m.field.documentation)) =
        [("name", .single .string, ["How it is called."]),
          ("port", .single (.struct "PortsPortSpec"), ["Where it listens."]),
          ("1", .single .boolean, [])] ∧
      merged.structs.map (·.name) = ["PortsPortSpec"] ∧
      (merged.fields.map (·.field.sourceKey)).Nodup ∧
      ∃ readings, IsUnion portComments ((Place.root "Demo").key "ports")
        (Value.entriesOfItems 0 portItems) ⟨["Demo", "PortSpec"], []⟩ readings merged r' := by
  obtain ⟨merged, r', h, hfields, hstructs⟩ : ∃ merged r',
      resolveItems portComments ((Place.root "Demo").key "ports") 0 {} portItems
        ⟨["Demo", "PortSpec"], []⟩ = .ok (merged, r') ∧
      merged.fields.map (fun m => (m.field.sourceKey, m.field.type, m.field.documentation)) =
        [("name", .single .string, ["How it is called."]),
          ("port", .single (.struct "PortsPortSpec"), ["Where it listens."]),
          ("1", .single .boolean, [])] ∧
      merged.structs.map (·.name) = ["PortsPortSpec"] :=
    ⟨_, _, rfl, by decide +kernel, by decide +kernel⟩
  obtain ⟨hnodup, -, hunion⟩ := resolveItems_firstSeen h
  exact ⟨merged, r', h, hfields, hstructs, hnodup, hunion⟩

end Walk
end ChartSchema
