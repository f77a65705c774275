import ChartSchema.Proofs.Schema.StructTree
/-!
# The outline of a document

A schema lists its structs by name, and the names depend on what was named before. What a schema
*says* does not: behind every reference stands a struct, whose fields again have types of their
own. `Outline` is this tree, without any names. `Outline.ofValue?` reads it off a document
directly, by a walk that carries nothing along.

The walk that makes a schema and the walk that reads the outline go hand in hand: one fails exactly
if the other does, and otherwise the structs of the schema **realise** the outline
(`Walk.resolve_follows`). Whatever is computed from a schema by following references can then be
computed from the outline, where names do not occur.

Below a list the keys of all items are merged. The outline keeps apart what is read there, the
**occurrences** of keys one after the other, and how they are put together, `Outline.merge?`: an
occurrence concerns the field of its own key only.
-/

namespace ChartSchema

open Yaml (Value)

/-! ## Outlines -/

/-- What is known of a field besides what its values are. -/
structure FieldHead where
  /-- The key of the document. -/
  key : String
  /-- The lines that describe the field. -/
  documentation : List String
  /-- The rules for the field's values. -/
  markers : List String
  /-- The keys that lead to the field. -/
  path : String
  /-- The comment lines that document it. -/
  comments : List String

/-- **What a key's value is, without names**: something that no struct is needed for, or a struct
or a list of structs with these fields. -/
inductive Outline where
  /-- A type that refers to no struct. -/
  | leaf (type : FieldType)
  /-- A struct, or a list of them. -/
  | struct (isList : Bool) (fields : List (FieldHead × Outline))

/-- Fields with what their values are. -/
abbrev OutlineFields := List (FieldHead × Outline)

/-- A key at a place of a document, with what is written above it and what its value is, if that
can be read. -/
structure Occurrence where
  /-- The key. -/
  key : String
  /-- The keys that lead to it. -/
  path : String
  /-- The comments above the key. -/
  block : CommentBlock
  /-- What its value is. -/
  content? : Option Outline

namespace Occurrence

/-- The field of a key that occurs for the first time. -/
def head (o : Occurrence) : FieldHead :=
  { key := o.key, documentation := o.block.documentation, markers := o.block.markers
    path := o.path, comments := o.block.lines }

/-- The same with what its value is. -/
def field? (o : Occurrence) : Option (FieldHead × Outline) :=
  o.content?.map (o.head, ·)

end Occurrence

/-- The field with other comments. -/
def FieldHead.document (head : FieldHead) (block : CommentBlock) : FieldHead :=
  { head with
    documentation := block.documentation, markers := block.markers, comments := block.lines }

namespace Outline

/-- The field of a key. -/
def fieldOf? (key : String) (fields : OutlineFields) : Option (FieldHead × Outline) :=
  fields.find? (·.1.key == key)

/-- Fields with one more occurrence of a key merged into them. -/
def add? (fields : OutlineFields) (o : Occurrence) : Option OutlineFields :=
  match fieldOf? o.key fields with
  | none => o.field?.map fun field => fields ++ [field]
  | some (head, _) =>
    if o.block.isEmpty then some fields
    else if head.comments.isEmpty then
      some (fields.map fun field =>
        if field.1.key == o.key then (field.1.document o.block, field.2) else field)
    else if head.comments ≠ o.block.lines then none
    else some fields

/-- Fields with occurrences merged into them, one after the other. -/
def merge? (fields : OutlineFields) : List Occurrence → Option OutlineFields
  | [] => some fields
  | o :: rest => (add? fields o).bind (merge? · rest)

mutual

/-- What the value of a key at a place is. -/
def ofValue? (ctx : DocumentContext) (place : Place) (v : Value) : Option Outline :=
  match v with
  | .tagged _ inner => ofValue? ctx place inner
  | .mapping entries =>
    match entries.isEmpty, (ctx.comments place).typeHint with
    | true, some hint => some (.leaf (.ofHint hint.toList))
    | _, _ =>
      (occurrences? ctx place entries).bind fun os => (os.mapM Occurrence.field?).map (.struct false)
  | .sequence items =>
    if startsWithMapping items then
      (occurrencesOfItems? ctx place 0 items).bind fun os => (merge? [] os).map (.struct true)
    else some (.leaf (Walk.listType (ctx.comments place).typeHint items))
  | scalar => some (.leaf (Walk.scalarType (ctx.comments place).typeHint scalar))
termination_by structural v

/-- The occurrences of keys in the entries of a mapping. -/
def occurrences? (ctx : DocumentContext) (place : Place) (entries : List (Value × Value)) :
    Option (List Occurrence) :=
  match entries with
  | [] => some []
  | (k, v) :: rest =>
    match keyText? k with
    | none => none
    | some key =>
      let own : Occurrence :=
        { key, path := (place.key key).dotted, block := ctx.comments (place.key key)
          content? := ofValue? ctx (place.key key) v }
      (occurrences? ctx place rest).map (own :: ·)
termination_by structural entries

/-- The occurrences of keys in the items of a list, the first of which has the given index. -/
def occurrencesOfItems? (ctx : DocumentContext) (place : Place) (position : Nat)
    (items : List Value) : Option (List Occurrence) :=
  match items with
  | [] => some []
  | item :: rest =>
    (occurrencesOfItem? ctx (place.index position) item).bind fun own =>
      (occurrencesOfItems? ctx place (position + 1) rest).map (own ++ ·)
termination_by structural items

/-- The occurrences of keys in an item of a list. -/
def occurrencesOfItem? (ctx : DocumentContext) (place : Place) (item : Value) :
    Option (List Occurrence) :=
  match item with
  | .tagged _ inner => occurrencesOfItem? ctx place inner
  | .mapping entries => occurrences? ctx place entries
  | _ => some []
termination_by structural item

end

/-! ## Structs that realise an outline -/

/-- The type of a field that refers to a struct. -/
def structType (isList : Bool) (name : String) : FieldType :=
  if isList then .list (.struct name) else .single (.struct name)

mutual

/-- **A type realises an outline** with the structs that it refers to, in order. -/
inductive Realises : Outline → FieldType → List Struct → Prop
  /-- A type that refers to no struct. -/
  | leaf {type : FieldType} : type.references = [] → Realises (.leaf type) type []
  /-- A struct whose fields realise those of the outline. -/
  | struct {isList : Bool} {fields : OutlineFields} {name : String}
      {documentation : List String} {own : List Field} {nested : List Struct} :
    RealisesFields fields own nested →
      Realises (.struct isList fields) (structType isList name)
        ({ name, documentation, fields := own } :: nested)

/-- Fields realise those of an outline, one by one. -/
inductive RealisesFields : OutlineFields → List Field → List Struct → Prop
  /-- No fields. -/
  | nil : RealisesFields [] [] []
  /-- A field before others, and its structs before theirs. -/
  | cons {head : FieldHead} {content : Outline} {rest : OutlineFields} {f : Field}
      {others : List Field} {own nested : List Struct} :
    f.sourceKey = head.key → f.documentation = head.documentation → f.markers = head.markers →
      f.sourcePath = head.path → Realises content f.type own → RealisesFields rest others nested →
        RealisesFields ((head, content) :: rest) (f :: others) (own ++ nested)

end

namespace RealisesFields

variable {fields more : OutlineFields} {own others : List Field} {structs nested : List Struct}

theorem append (h : RealisesFields fields own structs) (h' : RealisesFields more others nested) :
    RealisesFields (fields ++ more) (own ++ others) (structs ++ nested) := by
  induction fields generalizing own structs with
  | nil =>
    cases h
    exact h'
  | cons field rest ih =>
    cases h with
    | cons hkey hdocumentation hmarkers hpath hcontent hrest =>
      rw [List.cons_append, List.cons_append, List.append_assoc]
      exact .cons hkey hdocumentation hmarkers hpath hcontent (ih hrest)

theorem single {head : FieldHead} {content : Outline} {f : Field}
    (hkey : f.sourceKey = head.key) (hdocumentation : f.documentation = head.documentation)
    (hmarkers : f.markers = head.markers) (hpath : f.sourcePath = head.path)
    (hcontent : Realises content f.type structs) :
    RealisesFields [(head, content)] [f] structs := by
  have hcons := cons hkey hdocumentation hmarkers hpath hcontent .nil
  rwa [List.append_nil] at hcons

theorem map_key (h : RealisesFields fields own structs) :
    own.map (·.sourceKey) = fields.map (·.1.key) := by
  induction fields generalizing own structs with
  | nil =>
    cases h
    rfl
  | cons field rest ih =>
    cases h with
    | cons hkey _ _ _ _ hrest => rw [List.map_cons, List.map_cons, hkey, ih hrest]

end RealisesFields

/-! ## Another occurrence of a key -/

/-- The same of a field of a schema. -/
def documentField (block : CommentBlock) (f : Field) : Field :=
  { f with documentation := block.documentation, markers := block.markers }

/-- Fields of which one gets other comments realise those of which the same one does. -/
theorem RealisesFields.document {fields : OutlineFields} {own : List Field}
    {structs : List Struct} (h : RealisesFields fields own structs) (key : String)
    (block : CommentBlock) :
    RealisesFields
      (fields.map fun field =>
        if field.1.key == key then (field.1.document block, field.2) else field)
      (own.map fun f => if f.sourceKey == key then documentField block f else f) structs := by
  induction fields generalizing own structs with
  | nil =>
    cases h
    exact .nil
  | cons field rest ih =>
    cases h with
    | cons hkey hdocumentation hmarkers hpath hcontent hrest =>
      rw [List.map_cons, List.map_cons, hkey]
      split
      · exact .cons hkey rfl rfl hpath hcontent (ih hrest)
      · exact .cons hkey hdocumentation hmarkers hpath hcontent (ih hrest)

/-- **Merged fields realise those of an outline**: the fields do, with their structs, and the
comments that document them are the same. -/
structure RealisesMerged (fields : OutlineFields) (merged : Merged) : Prop where
  /-- The fields realise those of the outline. -/
  realises : RealisesFields fields (merged.fields.map (·.field)) merged.structs
  /-- The same comments document them. -/
  heads : fields.map (fun field => (field.1.key, field.1.comments)) =
    merged.fields.map fun m => (m.field.sourceKey, m.comments)
  /-- No key has two fields. -/
  keys_nodup : (merged.fields.map (·.field.sourceKey)).Nodup

namespace RealisesMerged

variable {fields : OutlineFields} {merged : Merged}

theorem empty : RealisesMerged [] {} := ⟨.nil, rfl, List.nodup_nil⟩

/-- A key has a field in both, with the same comments, or in neither. -/
theorem find?_eq (h : RealisesMerged fields merged) (key : String) :
    (fieldOf? key fields).map (fun field => (field.1.key, field.1.comments)) =
      (merged.find? key).map fun m => (m.field.sourceKey, m.comments) := by
  have hfind := congrArg (List.find? fun p => p.1 == key) h.heads
  rw [List.find?_map, List.find?_map] at hfind
  exact hfind

/-- What a merged field becomes by another occurrence of its key. -/
def documentMerged (block : CommentBlock) (m : MergedField) : MergedField :=
  { field := documentField block m.field, comments := block.lines }

theorem replace_eq (h : RealisesMerged fields merged) {key : String} {existing : MergedField}
    (hfind : merged.find? key = some existing) (block : CommentBlock) :
    merged.replace key (documentMerged block existing) =
      { merged with fields := merged.fields.map fun m =>
          if m.field.sourceKey == key then documentMerged block m else m } := by
  obtain ⟨hmem, hkey⟩ := Merged.of_find? hfind
  refine congrArg (Merged.mk · merged.structs) (List.map_congr_left fun m hm => ?_)
  split
  · next hm_key =>
    have hsame : m = existing :=
      List.inj_on_of_nodup_map h.keys_nodup hm hmem ((beq_iff_eq.mp hm_key).trans hkey.symm)
    rw [hsame]
  · rfl

theorem document (h : RealisesMerged fields merged) (key : String) (block : CommentBlock) :
    RealisesMerged
      (fields.map fun field =>
        if field.1.key == key then (field.1.document block, field.2) else field)
      { merged with fields := merged.fields.map fun m =>
          if m.field.sourceKey == key then documentMerged block m else m } := by
  have hfields : (merged.fields.map fun m =>
      if m.field.sourceKey == key then documentMerged block m else m).map (·.field) =
        (merged.fields.map (·.field)).map fun f =>
          if f.sourceKey == key then documentField block f else f := by
    rw [List.map_map, List.map_map]
    refine List.map_congr_left fun m _ => ?_
    simp only [Function.comp_apply]
    split <;> rfl
  refine ⟨?_, ?_, ?_⟩
  · show RealisesFields _ ((merged.fields.map _).map _) _
    rw [hfields]
    exact h.realises.document key block
  · have hheads := congrArg
      (List.map fun p : String × List String => if p.1 == key then (p.1, block.lines) else p)
      h.heads
    rw [List.map_map, List.map_map] at hheads
    rw [List.map_map, List.map_map]
    refine Eq.trans (List.map_congr_left fun field _ => ?_)
      (hheads.trans (List.map_congr_left fun m _ => ?_))
    · simp only [Function.comp_apply]
      split <;> rfl
    · simp only [Function.comp_apply]
      split <;> rfl
  · have hkeys : (merged.fields.map fun m =>
        if m.field.sourceKey == key then documentMerged block m else m).map (·.field.sourceKey) =
          merged.fields.map (·.field.sourceKey) := by
      rw [List.map_map]
      refine List.map_congr_left fun m _ => ?_
      simp only [Function.comp_apply]
      split <;> rfl
    show ((merged.fields.map _).map _).Nodup
    rw [hkeys]
    exact h.keys_nodup

theorem push (h : RealisesMerged fields merged) {head : FieldHead} {content : Outline}
    {new : MergedField} {own : List Struct} (hfind : merged.find? head.key = none)
    (hkey : new.field.sourceKey = head.key)
    (hdocumentation : new.field.documentation = head.documentation)
    (hmarkers : new.field.markers = head.markers) (hpath : new.field.sourcePath = head.path)
    (hcomments : new.comments = head.comments) (hcontent : Realises content new.field.type own) :
    RealisesMerged (fields ++ [(head, content)])
      { fields := merged.fields ++ [new], structs := merged.structs ++ own } := by
  refine ⟨?_, ?_, ?_⟩
  · show RealisesFields _ ((merged.fields ++ [new]).map _) _
    rw [List.map_append]
    exact h.realises.append (.single hkey hdocumentation hmarkers hpath hcontent)
  · show _ = (merged.fields ++ [new]).map _
    rw [List.map_append, List.map_append, h.heads, List.map_singleton, List.map_singleton, hkey,
      hcomments]
  · show ((merged.fields ++ [new]).map _).Nodup
    rw [List.map_append, List.nodup_append]
    refine ⟨h.keys_nodup, List.nodup_singleton _, fun a ha b hb hab => ?_⟩
    rw [List.map_singleton, List.mem_singleton] at hb
    exact Merged.not_mem_of_find? hfind (hkey ▸ hb ▸ hab ▸ ha)

end RealisesMerged

end Outline

namespace Walk

open Outline

/-! ## The two walks go hand in hand -/

/-- A run follows a result: both fail, or what the one gives is related to what the other gives. -/
def Follows {α β : Type} (R : α → β → Prop) :
    Option α → Except SchemaError (β × NameRegistry) → Prop
  | some a, .ok (b, _) => R a b
  | none, .error _ => True
  | _, _ => False

namespace Follows

variable {α β γ δ : Type} {R : α → β → Prop} {S : γ → δ → Prop}

/-- Steps that follow steps follow them one after the other. -/
theorem bind {x : Option α} {m : Walk β} {r : NameRegistry} {f : α → Option γ} {g : β → Walk δ}
    (h : Follows R x (m r)) (hstep : ∀ a b r', R a b → Follows S (f a) (g b r')) :
    Follows S (x.bind f) ((m >>= g) r) := by
  show Follows S (x.bind f) (m r >>= fun p => g p.1 p.2)
  cases x with
  | none =>
    cases hm : m r with
    | error e => trivial
    | ok p => rw [hm] at h; exact h.elim
  | some a =>
    cases hm : m r with
    | error e => rw [hm] at h; exact h.elim
    | ok p => rw [hm] at h; exact hstep a p.1 p.2 h

/-- What is made from results is related if it is whenever the results are. -/
theorem map {x : Option α} {m : Walk β} {r : NameRegistry} {f : α → γ} {g : β → δ}
    (h : Follows R x (m r)) (hstep : ∀ a b, R a b → S (f a) (g b)) :
    Follows S (x.map f) ((m >>= fun b => pure (g b)) r) := by
  rw [Option.map_eq_bind]
  exact h.bind fun a b _ hab => hstep a b hab

/-- A step that only may fail follows what fails with it. -/
theorem lift {x : Option α} {y : Except SchemaError α} (h : y.toOption = x) (r : NameRegistry) :
    Follows (· = ·) x ((liftM y : Walk α) r) := by
  subst h
  cases y <;> trivial

end Follows

variable {ctx : DocumentContext}

theorem key_toOption (place : Place) (k : Value) : (Walk.key place k).toOption = keyText? k := by
  rw [Walk.key]
  cases keyText? k <;> rfl

/-- One more occurrence of a key that has a field documents the field in both, or is a conflict in
both. -/
theorem document_follows {fields : OutlineFields} {merged : Merged}
    (h : RealisesMerged fields merged) (o : Occurrence) {existing : MergedField}
    (hfind : merged.find? o.key = some existing) (place : Place) (line? : Option Nat)
    (r : NameRegistry) :
    Follows RealisesMerged (add? fields o)
      ((liftM (merged.document existing o.key place o.block line?) : Walk Merged) r) := by
  obtain ⟨head, content, hfield, hcomments⟩ : ∃ head content,
      fieldOf? o.key fields = some (head, content) ∧ head.comments = existing.comments := by
    have heq := h.find?_eq o.key
    rw [hfind] at heq
    obtain ⟨field, hfield, heq⟩ := Option.map_eq_some_iff.mp heq
    exact ⟨field.1, field.2, hfield, congrArg Prod.snd heq⟩
  unfold add? Merged.document
  rw [hfield]
  dsimp only
  rw [hcomments]
  split
  · exact h
  split
  · rw [show (MergedField.mk { existing.field with
        documentation := o.block.documentation, markers := o.block.markers } o.block.lines) =
      RealisesMerged.documentMerged o.block existing from rfl, h.replace_eq hfind]
    exact h.document o.key o.block
  split
  · trivial
  · exact h

/-- The occurrence of a key at a place. -/
def occurrence (ctx : DocumentContext) (key : String) (place : Place) (v : Value) : Occurrence :=
  { key, path := place.dotted, block := ctx.comments place
    content? := Outline.ofValue? ctx place v }

theorem occurrences?_cons (place : Place) (k v : Value) (rest : List (Value × Value)) :
    occurrences? ctx place ((k, v) :: rest) = (keyText? k).bind fun key =>
      (occurrences? ctx place rest).map (occurrence ctx key (place.key key) v :: ·) := by
  rw [occurrences?]
  cases keyText? k <;> rfl

theorem takeName_bind {α : Type} (key : String) (place : Place) (f : String → Walk α)
    (r : NameRegistry) :
    (takeName ctx key place >>= f) r = f (r.uniqueName ctx.options key place.parentKey).1
      (r.uniqueName ctx.options key place.parentKey).2 := rfl

theorem bind_map {α β γ : Type} (x : Option α) (f : α → Option β) (g : β → γ) :
    (x.bind fun a => (f a).map g) = (x.bind f).map g := by
  cases x <;> rfl

theorem mapM_field?_cons (o : Occurrence) (rest? : Option (List Occurrence)) :
    (rest?.map (o :: ·)).bind (List.mapM Occurrence.field?) =
      o.field?.bind fun field => (rest?.bind (List.mapM Occurrence.field?)).map (field :: ·) := by
  cases rest? with
  | none => cases o.field? <;> rfl
  | some rest =>
    show (o :: rest).mapM Occurrence.field? =
      o.field?.bind fun field => (rest.mapM Occurrence.field?).map (field :: ·)
    rw [List.mapM_cons]
    simp only [Option.map_eq_bind]
    rfl

theorem merge?_cons (fields : OutlineFields) (o : Occurrence) (rest? : Option (List Occurrence)) :
    (rest?.map (o :: ·)).bind (merge? fields) =
      (add? fields o).bind fun fields => rest?.bind (merge? fields) := by
  cases rest? with
  | none => cases add? fields o <;> rfl
  | some rest => rfl

theorem merge?_append (fields : OutlineFields) (own? rest? : Option (List Occurrence)) :
    (own?.bind fun own => rest?.map (own ++ ·)).bind (merge? fields) =
      (own?.bind (merge? fields)).bind fun fields => rest?.bind (merge? fields) := by
  cases own? with
  | none => rfl
  | some own =>
    cases rest? with
    | none =>
      show none = (merge? fields own).bind fun _ => none
      cases merge? fields own <;> rfl
    | some rest =>
      show merge? fields (own ++ rest) = (merge? fields own).bind (merge? · rest)
      induction own generalizing fields with
      | nil => rfl
      | cons o own ih =>
        rw [List.cons_append, merge?, merge?, Option.bind_assoc]
        exact congrArg _ (funext ih)

mutual

/-- **The type of a value realises its outline** with the structs that are made for it, and there
is no type if there is no outline. The induction is that of the walk. -/
theorem resolve_follows (v : Value) (key : String) (place : Place) (r : NameRegistry) :
    Follows (fun o p => Realises o p.1 p.2) (Outline.ofValue? ctx place v)
      (resolve ctx key place v r) := by
  match v with
  | .tagged tag inner =>
    rw [resolve_tagged, Outline.ofValue?]
    exact resolve_follows inner key place r
  | .mapping entries =>
    have hstruct : Follows (fun o p => Realises o p.1 p.2)
        ((occurrences? ctx place entries).bind fun os =>
          (os.mapM Occurrence.field?).map (.struct false))
        ((takeName ctx key place >>= fun name => resolveEntries ctx place entries >>= fun p =>
          pure (FieldType.single (.struct name),
            { name, documentation := (ctx.comments place).documentation, fields := p.1 } ::
              p.2) : Walk (FieldType × List Struct)) r) := by
      rw [bind_map, takeName_bind]
      exact Follows.map (resolveEntries_follows entries place _) fun fields p h => Realises.struct h
    rw [resolve, Outline.ofValue?]
    cases hhint : (ctx.comments place).typeHint with
    | none => cases entries <;> exact hstruct
    | some hint =>
      cases entries with
      | nil => exact .leaf (FieldType.references_ofHint _)
      | cons entry rest => exact hstruct
  | .sequence items =>
    rw [resolve, Outline.ofValue?]
    split
    · rw [bind_map, takeName_bind]
      exact Follows.map (resolveItems_follows items place 0 _ .empty) fun fields merged h =>
        Realises.struct h.realises
    · exact .leaf (references_listType _ _)
  | .null | .bool _ | .number _ | .string _ =>
    exact .leaf (references_scalarType _ _)
termination_by structural v

/-- The fields of entries realise those of their occurrences. -/
theorem resolveEntries_follows (entries : List (Value × Value)) (place : Place)
    (r : NameRegistry) :
    Follows (fun fields p => RealisesFields fields p.1 p.2)
      ((occurrences? ctx place entries).bind (List.mapM Occurrence.field?))
      (resolveEntries ctx place entries r) := by
  match entries with
  | [] => exact .nil
  | (k, v) :: rest =>
    rw [occurrences?_cons, Option.bind_assoc, resolveEntries]
    refine Follows.bind (.lift (key_toOption place k) r) ?_
    rintro key _ r rfl
    rw [mapM_field?_cons, Occurrence.field?, Option.bind_map]
    refine Follows.bind (resolve_follows v key (place.key key) r) ?_
    rintro content ⟨type, own⟩ r hcontent
    refine Follows.map (resolveEntries_follows rest place r) ?_
    rintro fields ⟨others, nested⟩ hfields
    exact .cons rfl rfl rfl rfl hcontent hfields
termination_by structural entries

/-- What is merged from items realises what is merged from their occurrences. -/
theorem resolveItems_follows (items : List Value) (place : Place) (position : Nat)
    (r : NameRegistry) {fields : OutlineFields} {merged : Merged}
    (h : RealisesMerged fields merged) :
    Follows RealisesMerged ((occurrencesOfItems? ctx place position items).bind (merge? fields))
      (resolveItems ctx place position merged items r) := by
  match items with
  | [] => exact h
  | item :: rest =>
    rw [occurrencesOfItems?, resolveItems, merge?_append]
    refine Follows.bind (resolveItem_follows item (place.index position) r h) ?_
    intro fields merged r h
    exact resolveItems_follows rest place (position + 1) r h
termination_by structural items

theorem resolveItem_follows (item : Value) (place : Place) (r : NameRegistry)
    {fields : OutlineFields} {merged : Merged} (h : RealisesMerged fields merged) :
    Follows RealisesMerged ((occurrencesOfItem? ctx place item).bind (merge? fields))
      (resolveItem ctx place merged item r) := by
  match item with
  | .tagged tag inner =>
    rw [resolveItem_tagged, occurrencesOfItem?]
    exact resolveItem_follows inner place r h
  | .mapping entries =>
    rw [resolveItem_mapping, occurrencesOfItem?]
    exact mergeEntries_follows entries place r h
  | .null | .bool _ | .number _ | .string _ | .sequence _ => exact h
termination_by structural item

theorem mergeEntries_follows (entries : List (Value × Value)) (place : Place)
    (r : NameRegistry) {fields : OutlineFields} {merged : Merged}
    (h : RealisesMerged fields merged) :
    Follows RealisesMerged ((occurrences? ctx place entries).bind (merge? fields))
      (mergeEntries ctx place merged entries r) := by
  match entries with
  | [] => exact h
  | (k, v) :: rest =>
    rw [occurrences?_cons, Option.bind_assoc, mergeEntries]
    refine Follows.bind (.lift (key_toOption place k) r) ?_
    rintro key _ r rfl
    rw [merge?_cons]
    cases hfind : merged.find? key with
    | some existing =>
      refine Follows.bind (document_follows h (occurrence ctx key (place.key key) v) hfind
        (place.key key) _ r) ?_
      intro fields merged r h
      exact mergeEntries_follows rest place r h
    | none =>
      have hnone : fieldOf? key fields = none := by
        have heq := h.find?_eq key
        rw [hfind] at heq
        exact Option.map_eq_none_iff.mp heq
      have hadd : add? fields (occurrence ctx key (place.key key) v) =
          (Outline.ofValue? ctx (place.key key) v).map fun content =>
            fields ++ [((occurrence ctx key (place.key key) v).head, content)] := by
        unfold add?
        rw [show (occurrence ctx key (place.key key) v).key = key from rfl, hnone]
        exact Option.map_map _ _ _
      rw [hadd, Option.bind_map]
      refine Follows.bind (resolve_follows v key (place.key key) r) ?_
      rintro content ⟨type, own⟩ r hcontent
      refine mergeEntries_follows rest place r (h.push ?_ rfl rfl rfl rfl rfl hcontent)
      exact hfind
termination_by structural entries

end

/-- The fields of a resource are those of the occurrences at the root whose key is not reserved. -/
theorem resolveRoot_follows (entries : List (Value × Value)) (place : Place) (r : NameRegistry) :
    Follows (fun fields p => RealisesFields fields p.1 p.2)
      ((occurrences? ctx place entries).bind fun os =>
        (os.filter fun o => !reservedKeys.contains o.key).mapM Occurrence.field?)
      (resolveRoot ctx place entries r) := by
  induction entries generalizing r with
  | nil => exact .nil
  | cons entry rest ih =>
    obtain ⟨k, v⟩ := entry
    rw [occurrences?_cons, Option.bind_assoc, resolveRoot]
    refine Follows.bind (.lift (key_toOption place k) r) ?_
    rintro key _ r rfl
    have hkey : (occurrence ctx key (place.key key) v).key = key := rfl
    rw [Option.bind_map]
    split
    · next hreserved =>
      have hfilter (os : List Occurrence) :
          (occurrence ctx key (place.key key) v :: os).filter
            (fun o => !reservedKeys.contains o.key) =
              os.filter fun o => !reservedKeys.contains o.key :=
        List.filter_cons_of_neg (by rw [hkey, hreserved]; decide)
      simp only [Function.comp_def, hfilter]
      exact ih r
    · next hown =>
      have hfilter (os : List Occurrence) :
          (occurrence ctx key (place.key key) v :: os).filter
            (fun o => !reservedKeys.contains o.key) =
              occurrence ctx key (place.key key) v ::
                os.filter fun o => !reservedKeys.contains o.key :=
        List.filter_cons_of_pos (by rw [hkey, Bool.eq_false_iff.mpr hown]; rfl)
      have hcons := mapM_field?_cons (occurrence ctx key (place.key key) v)
        ((occurrences? ctx place rest).map fun os =>
          os.filter fun o => !reservedKeys.contains o.key)
      rw [Option.map_map, Option.bind_map, Option.bind_map] at hcons
      simp only [Function.comp_def, hfilter] at hcons ⊢
      rw [hcons, Occurrence.field?, Option.bind_map]
      refine Follows.bind (resolve_follows v key (place.key key) r) ?_
      rintro content ⟨type, own⟩ r hcontent
      refine Follows.map (ih r) ?_
      rintro fields ⟨others, nested⟩ hfields
      exact .cons rfl rfl rfl rfl hcontent hfields

end Walk

/-- The outline of a resource of this kind: the fields at the root whose key is not reserved. -/
def Outline.ofRoot? (ctx : DocumentContext) (kind : String) (root : List (Value × Value)) :
    Option OutlineFields :=
  (occurrences? ctx (Place.root kind) root).bind fun os =>
    (os.filter fun o => !reservedKeys.contains o.key).mapM Occurrence.field?

namespace Schema

/-- **A schema realises the outline of its document.** The walk and the outline go through the same
values, so one fails where the other one does. -/
theorem ofValue_realises {ctx : DocumentContext} {v : Value} {schema : Schema}
    (h : ofValue ctx v = .ok schema) :
    ∃ root kind apiVersion fields own nested, v.untagged = .mapping root ∧
      kindOf root = .ok kind ∧ apiVersionOf root = .ok apiVersion ∧
      Outline.ofRoot? ctx kind root = some fields ∧ Outline.RealisesFields fields own nested ∧
      schema = { apiVersion, kind, structs :=
        { name := kind, documentation := (ctx.comments ((Place.root kind).key "kind")).documentation,
          fields := own } :: nested } := by
  obtain ⟨root, kind, apiVersion, own, nested, r', hroot, hkind, hversion, hrun, rfl⟩ :=
    ofValue_eq_ok h
  have hfollows := @Walk.resolveRoot_follows ctx root (Place.root kind)
    ((NameRegistry.ofShared (Census.shared (Census.ofRoot ctx (Place.root kind) root))).reserve
      kind).2
  rw [hrun] at hfollows
  cases hfields : Outline.ofRoot? ctx kind root with
  | none =>
    rw [show (Outline.occurrences? ctx (Place.root kind) root).bind _ = none from hfields]
      at hfollows
    exact hfollows.elim
  | some fields =>
    rw [show (Outline.occurrences? ctx (Place.root kind) root).bind _ = some fields from hfields]
      at hfollows
    exact ⟨root, kind, apiVersion, fields, own, nested, hroot, hkind, hversion, hfields, hfollows,
      rfl⟩

/-- **A document with an outline has a schema**, if it says its kind and its version. The names of
structs can always be found, so nothing else can go wrong. -/
theorem exists_ofValue {ctx : DocumentContext} {v : Value} {root : List (Value × Value)}
    {kind : String} {apiVersion : GroupVersion} {fields : OutlineFields}
    (hroot : v.untagged = .mapping root) (hkind : kindOf root = .ok kind)
    (hversion : apiVersionOf root = .ok apiVersion)
    (hfields : Outline.ofRoot? ctx kind root = some fields) :
    ∃ schema, ofValue ctx v = .ok schema := by
  have hfollows := @Walk.resolveRoot_follows ctx root (Place.root kind)
    ((NameRegistry.ofShared (Census.shared (Census.ofRoot ctx (Place.root kind) root))).reserve
      kind).2
  rw [show (Outline.occurrences? ctx (Place.root kind) root).bind _ = some fields from hfields]
    at hfollows
  unfold ofValue
  rw [hroot]
  dsimp only
  rw [hversion, hkind]
  dsimp only [bind, Except.bind, StateT.run]
  split
  · next e herror => rw [herror] at hfollows; exact hfollows.elim
  · exact ⟨_, rfl⟩

end Schema
end ChartSchema
