import ChartSchema.Proofs.ByKey
import ChartSchema.Proofs.Schema.Outline
import ChartSchema.Proofs.Schema.Shape
/-!
# Keys in another order

The keys of a mapping have no order that means anything, but the walk over a document goes through
them one after the other: the names of structs depend on what was named before, and below a list
the first occurrence of a key decides what its field is. `Value.Reordered` says that two documents
differ in the order of keys only, at any depth, and this module proves that their outlines are
**alike** then: they have the same fields, perhaps in another order.

What the fields of a struct are is gathered from a list of occurrences of keys, either each for
itself or merged with those of the same key. In both cases what becomes of a key depends on its own
occurrences only (`Outline.GathersFields`). Two lists of occurrences therefore give the same fields as
soon as they agree key by key, which they do if the items of lists stay where they are and no
mapping has one key twice.
-/

namespace ChartSchema

open Yaml (Value)

/-! ## Documents that differ in the order of keys -/

mutual

/-- **A value with the entries of its mappings in another order**, at any depth. -/
inductive Yaml.Value.Reordered : Value → Value → Prop
  /-- A scalar is the same. -/
  | scalar {v : Value} : Walk.isScalar v = true → Reordered v v
  /-- A tag is the same. -/
  | tagged {tag : String} {v w : Value} :
    Reordered v w → Reordered (.tagged tag v) (.tagged tag w)
  /-- The items of a list stay where they are. -/
  | sequence {items others : List Value} :
    ReorderedItems items others → Reordered (.sequence items) (.sequence others)
  /-- The entries of a mapping stand in any order. -/
  | mapping {entries others moved : List (Value × Value)} :
    ReorderedEntries entries others → others.Perm moved →
      Reordered (.mapping entries) (.mapping moved)

/-- The items of a list one by one. -/
inductive Yaml.Value.ReorderedItems : List Value → List Value → Prop
  /-- No items. -/
  | nil : ReorderedItems [] []
  /-- An item before others. -/
  | cons {v w : Value} {items others : List Value} :
    Reordered v w → ReorderedItems items others → ReorderedItems (v :: items) (w :: others)

/-- The entries of a mapping one by one. -/
inductive Yaml.Value.ReorderedEntries : List (Value × Value) → List (Value × Value) → Prop
  /-- No entries. -/
  | nil : ReorderedEntries [] []
  /-- An entry before others. -/
  | cons {k l v w : Value} {entries others : List (Value × Value)} :
    Reordered k l → Reordered v w → ReorderedEntries entries others →
      ReorderedEntries ((k, v) :: entries) ((l, w) :: others)

end

/-- The texts of the keys of entries. -/
def keyTexts (entries : List (Value × Value)) : List String :=
  entries.filterMap (keyText? ·.1)

mutual

/-- **Whether no mapping has two keys with one text**, at any depth. -/
def Yaml.Value.hasDistinctTexts (v : Value) : Bool :=
  match v with
  | .tagged _ inner => inner.hasDistinctTexts
  | .sequence items => distinctTextsInItems items
  | .mapping entries => decide (keyTexts entries).Nodup && distinctTextsInEntries entries
  | _ => true
termination_by structural v

/-- Whether no mapping in items has two keys with one text. -/
def Yaml.Value.distinctTextsInItems (items : List Value) : Bool :=
  match items with
  | [] => true
  | item :: rest => item.hasDistinctTexts && distinctTextsInItems rest
termination_by structural items

/-- Whether no mapping in the values of entries has two keys with one text. -/
def Yaml.Value.distinctTextsInEntries (entries : List (Value × Value)) : Bool :=
  match entries with
  | [] => true
  | (_, v) :: rest => v.hasDistinctTexts && distinctTextsInEntries rest
termination_by structural entries

end

namespace Yaml.Value

theorem hasDistinctTexts_untagged (v : Value) :
    v.untagged.hasDistinctTexts = v.hasDistinctTexts := by
  match v with
  | .tagged _ inner => exact hasDistinctTexts_untagged inner
  | .null | .bool _ | .number _ | .string _ | .sequence _ | .mapping _ => rfl

theorem Reordered.untagged {v w : Value} (h : v.Reordered w) :
    v.untagged.Reordered w.untagged := by
  match v, h with
  | .tagged _ _, .tagged h => exact h.untagged
  | .sequence _, .sequence h => exact .sequence h
  | .mapping _, .mapping h hperm => exact .mapping h hperm
  | .null, .scalar _ | .bool _, .scalar _ | .number _, .scalar _ | .string _, .scalar _ =>
    exact .scalar rfl

namespace Reordered

variable {v w : Value}

theorem keyText?_eq (h : v.Reordered w) : ChartSchema.keyText? v = ChartSchema.keyText? w := by
  unfold ChartSchema.keyText?
  match v.untagged, w.untagged, h.untagged with
  | _, _, .scalar _ => rfl
  | _, _, .tagged _ | _, _, .sequence _ | _, _, .mapping _ _ => rfl

theorem valueKind_eq (h : v.Reordered w) : valueKind v = valueKind w := by
  unfold valueKind
  match v.untagged, w.untagged, h.untagged with
  | _, _, .scalar _ => rfl
  | _, _, .tagged _ | _, _, .sequence _ | _, _, .mapping _ _ => rfl

theorem looksLike (h : v.Reordered w) : Walk.LooksLike v w := by
  constructor
  · unfold isMapping
    match v.untagged, w.untagged, h.untagged with
    | _, _, .scalar _ => rfl
    | _, _, .tagged _ | _, _, .sequence _ | _, _, .mapping _ _ => rfl
  · unfold TypeRef.ofValue
    match v.untagged, w.untagged, h.untagged with
    | _, _, .scalar _ => rfl
    | _, _, .tagged _ | _, _, .sequence _ | _, _, .mapping _ _ => rfl

end Reordered

variable {items : List Value} {entries : List (Value × Value)}

theorem ReorderedItems.head?_looksLike {others : List Value} (h : ReorderedItems items others) :
    Option.Rel Walk.LooksLike items.head? others.head? := by
  cases h with
  | nil => exact .none
  | cons hfirst _ => exact .some hfirst.looksLike

theorem ReorderedEntries.keyTexts_eq {others : List (Value × Value)}
    (h : ReorderedEntries entries others) : keyTexts entries = keyTexts others := by
  induction entries generalizing others with
  | nil =>
    cases h
    rfl
  | cons entry rest ih =>
    cases h with
    | cons hkey _ hrest =>
      unfold keyTexts at ih ⊢
      rw [List.filterMap_cons, List.filterMap_cons, hkey.keyText?_eq, ih hrest]

theorem ReorderedEntries.isEmpty_eq {others : List (Value × Value)}
    (h : ReorderedEntries entries others) : entries.isEmpty = others.isEmpty := by
  cases h <;> rfl

end Yaml.Value

/-! ## Outlines that are alike -/

/-- **Two outlines are alike**: they have the same fields, perhaps in another order, and the values
of each key are alike again. -/
inductive Outline.Alike : Outline → Outline → Prop
  /-- The same type. -/
  | leaf {type : FieldType} : Alike (.leaf type) (.leaf type)
  /-- Structs with the same fields. -/
  | struct {isList : Bool} {fields others : OutlineFields} :
    (∀ key, (fields.filter (·.1.key == key)).map (·.1) =
      (others.filter (·.1.key == key)).map (·.1)) →
    (∀ key, List.Forall₂ Alike ((fields.filter (·.1.key == key)).map (·.2))
      ((others.filter (·.1.key == key)).map (·.2))) →
      Alike (.struct isList fields) (.struct isList others)

/-- Occurrences of one key at one place, with values that are alike if they can be read. -/
structure Occurrence.Alike (x y : Occurrence) : Prop where
  /-- The key is the same. -/
  key : x.key = y.key
  /-- The path is the same. -/
  path : x.path = y.path
  /-- The comments are the same. -/
  block : x.block = y.block
  /-- The values are alike. -/
  content : Option.Rel Outline.Alike x.content? y.content?

namespace Outline

/-- Fields that are the same, with values that are alike. -/
def FieldAlike (x y : FieldHead × Outline) : Prop := x.1 = y.1 ∧ x.2.Alike y.2

/-- The same fields, perhaps in another order, with values that are alike. -/
def FieldsAlike : OutlineFields → OutlineFields → Prop := AgreeByKey (·.1.key) FieldAlike

theorem FieldsAlike.struct {fields others : OutlineFields} (h : FieldsAlike fields others)
    (isList : Bool) : Alike (.struct isList fields) (.struct isList others) :=
  .struct (fun key => (forall₂_prod.mp (h key)).1)
    fun key => (forall₂_prod.mp (h key)).2

/-! ## Gathering fields -/

/-- **Fields are gathered key by key** from occurrences. -/
abbrev GathersFields (gather : List Occurrence → Option OutlineFields) : Prop :=
  Gathers (·.key) (·.1.key) Occurrence.Alike FieldAlike gather

/-! ### Each occurrence for itself -/

theorem key_of_field? {o : Occurrence} {field : FieldHead × Outline}
    (h : o.field? = some field) : field.1.key = o.key := by
  obtain ⟨content, -, rfl⟩ := Option.map_eq_some_iff.mp h
  rfl

theorem field?_alike {o o' : Occurrence} (h : o.Alike o') :
    Option.Rel FieldAlike o.field? o'.field? := by
  refine rel_map h.content fun _ _ hcontent => ⟨?_, hcontent⟩
  show o.head = o'.head
  rw [Occurrence.head, Occurrence.head, h.key, h.path, h.block]

/-- **The fields of the keys of a mapping are gathered key by key.** -/
theorem gathers_mapM_field? : GathersFields (List.mapM Occurrence.field?) :=
  gathers_mapM (fun _ _ => key_of_field?) fun _ _ => field?_alike

/-! ### Occurrences merged with those before -/

/-- The field of a key that is kept is among those that are. -/
theorem fieldOf?_filter {kept : String → Bool} {key : String} (hkept : kept key = true)
    (fields : OutlineFields) :
    fieldOf? key (fields.filter (kept ·.1.key)) = fieldOf? key fields := by
  rw [fieldOf?, fieldOf?, List.find?_filter]
  refine congrArg (List.find? · fields) (funext fun field => ?_)
  rw [Bool.decide_and, Bool.decide_eq_true, Bool.decide_eq_true]
  by_cases hkey : field.1.key = key
  · rw [hkey, hkept, Bool.true_and]
  · rw [beq_false_of_ne hkey, Bool.and_false]

theorem filter_document (own : String) (kept : String → Bool) (block : CommentBlock)
    (fields : OutlineFields) :
    (fields.map fun field =>
        if field.1.key == own then (field.1.document block, field.2) else field).filter
          (kept ·.1.key) =
      (fields.filter (kept ·.1.key)).map fun field =>
        if field.1.key == own then (field.1.document block, field.2) else field := by
  rw [List.filter_map]
  refine congrArg _ (List.filter_congr fun field _ => ?_)
  rw [Function.comp_apply]
  split <;> rfl

/-- An occurrence of a key that is kept is merged into what is kept. -/
theorem add?_kept (kept : String → Bool) (fields : OutlineFields) {o : Occurrence}
    (hkept : kept o.key = true) :
    add? (fields.filter (kept ·.1.key)) o =
      (add? fields o).map (List.filter (kept ·.1.key)) := by
  unfold add?
  rw [fieldOf?_filter hkept]
  split
  · cases hfield : o.field? with
    | none => rfl
    | some field =>
      have hkey : kept field.1.key = true := by rw [key_of_field? hfield, hkept]
      rw [Option.map_some, Option.map_some, Option.map_some, List.filter_append,
        List.filter_singleton, hkey]
      rfl
  · split_ifs
    · rfl
    · rw [Option.map_some, filter_document]
    · rfl
    · rfl

theorem add?_other (kept : String → Bool) {fields merged : OutlineFields} {o : Occurrence}
    (hother : kept o.key = false) (h : add? fields o = some merged) :
    merged.filter (kept ·.1.key) = fields.filter (kept ·.1.key) := by
  unfold add? at h
  split at h
  · obtain ⟨field, hfield, rfl⟩ := Option.map_eq_some_iff.mp h
    have hnew : kept field.1.key = false := by rw [key_of_field? hfield, hother]
    rw [List.filter_append, List.filter_singleton, hnew]
    exact List.append_nil _
  · split_ifs at h
    · rw [Option.some.inj h]
    · rw [← Option.some.inj h, filter_document]
      refine (List.map_congr_left fun field hfield => ?_).trans (List.map_id _)
      have hown : kept field.1.key = true := (List.mem_filter.mp hfield).2
      have hne : field.1.key ≠ o.key := fun heq => by
        rw [heq, hother] at hown
        exact Bool.false_ne_true hown
      rw [if_neg (by rw [beq_iff_eq]; exact hne)]
      rfl
    · rw [Option.some.inj h]

theorem fieldOf?_rel {R : Outline → Outline → Prop} {fields others : OutlineFields}
    (h : List.Forall₂ (fun x y => x.1 = y.1 ∧ R x.2 y.2) fields others) (key : String) :
    Option.Rel (fun x y => x.1 = y.1 ∧ R x.2 y.2) (fieldOf? key fields) (fieldOf? key others) := by
  unfold fieldOf?
  induction h with
  | nil => exact .none
  | @cons x y _ _ hxy _ ih =>
    rw [List.find?_cons, List.find?_cons, hxy.1]
    split
    · exact .some hxy
    · exact ih

/-- **Occurrences of one key are merged into related fields with a related result.** What is read
of them matters only where the key is new. -/
theorem add?_rel {R : Outline → Outline → Prop} {fields others : OutlineFields}
    {o o' : Occurrence}
    (h : List.Forall₂ (fun x y => x.1 = y.1 ∧ R x.2 y.2) fields others) (hkey : o.key = o'.key)
    (hblock : o.block = o'.block)
    (hnew : fieldOf? o.key fields = none → fieldOf? o.key others = none →
      Option.Rel (fun x y => x.1 = y.1 ∧ R x.2 y.2) o.field? o'.field?) :
    Option.Rel (List.Forall₂ fun x y => x.1 = y.1 ∧ R x.2 y.2) (add? fields o) (add? others o') := by
  have hfield := fieldOf?_rel h o.key
  unfold add?
  rw [← hkey, ← hblock]
  revert hfield hnew
  cases fieldOf? o.key fields <;> cases fieldOf? o.key others <;> intro hnew hfield
  · exact rel_map (hnew rfl rfl) fun _ _ hnew => List.rel_append h (.cons hnew .nil)
  · exact nomatch hfield
  · exact nomatch hfield
  · next x y =>
    obtain ⟨hhead, -⟩ := of_rel_some hfield
    dsimp only
    rw [← hhead]
    split_ifs
    · exact .some h
    · refine .some ?_
      rw [List.forall₂_map_left_iff, List.forall₂_map_right_iff]
      refine h.imp fun a b hab => ?_
      rw [hab.1]
      split
      · exact ⟨rfl, hab.2⟩
      · exact hab
    · exact .none
    · exact .some h

theorem add?_alike {fields others : OutlineFields} {o o' : Occurrence}
    (h : List.Forall₂ FieldAlike fields others) (ho : o.Alike o') :
    Option.Rel (List.Forall₂ FieldAlike) (add? fields o) (add? others o') :=
  add?_rel h ho.key ho.block fun _ _ => field?_alike ho

/-- **What is merged of some keys comes from their own occurrences.** An occurrence of another key
does not touch their fields, and one of these keys does not look at other fields. -/
theorem merge?_filter {fields merged : OutlineFields} {os : List Occurrence}
    (kept : String → Bool) (h : merge? fields os = some merged) :
    merge? (fields.filter (kept ·.1.key)) (os.filter (kept ·.key)) =
      some (merged.filter (kept ·.1.key)) := by
  induction os generalizing fields with
  | nil => rw [Option.some.inj h]; rfl
  | cons o rest ih =>
    obtain ⟨added, hadded, h⟩ := Option.bind_eq_some_iff.mp h
    rw [List.filter_cons]
    split
    · next hkept =>
      rw [merge?, add?_kept kept fields hkept, hadded]
      exact ih h
    · next hother =>
      rw [← add?_other kept (Bool.eq_false_iff.mpr hother) hadded]
      exact ih h

/-- Occurrences can be merged if those of each key can. -/
theorem isSome_merge? {fields : OutlineFields} {os : List Occurrence}
    (h : ∀ key,
      (merge? (fields.filter (·.1.key == key)) (os.filter (·.key == key))).isSome) :
    (merge? fields os).isSome := by
  induction os generalizing fields with
  | nil => rfl
  | cons o rest ih =>
    have hkept : (o.key == o.key) = true := beq_self_eq_true o.key
    have hown := h o.key
    rw [filter_own, merge?, add?_kept (· == o.key) fields hkept] at hown
    cases hadded : add? fields o with
    | none => rw [hadded] at hown; exact absurd hown Bool.false_ne_true
    | some added =>
      rw [merge?, hadded]
      refine ih fun key => ?_
      by_cases hkey : o.key = key
      · subst hkey
        rwa [hadded] at hown
      · rw [add?_other (· == key) (beq_false_of_ne hkey) hadded, ← filter_other hkey]
        exact h key

/-- Occurrences that are alike, merged into fields that are alike, give fields that are alike. -/
theorem merge?_alike {fields more : OutlineFields} {os others : List Occurrence}
    (hfields : List.Forall₂ FieldAlike fields more)
    (h : List.Forall₂ Occurrence.Alike os others) :
    Option.Rel (List.Forall₂ FieldAlike) (merge? fields os) (merge? more others) := by
  induction h generalizing fields more with
  | nil => exact .some hfields
  | cons ho _ ih => exact rel_bind (add?_alike hfields ho) fun _ _ => ih

/-- **The fields of the keys of a list's items are gathered key by key.** -/
theorem gathers_merge? : GathersFields (merge? []) :=
  ⟨fun key => merge?_filter (· == key), fun h => isSome_merge? h, merge?_alike .nil⟩

/-! ## Reordered documents have outlines that are alike -/

variable {ctx ctx' : DocumentContext}

/-- The occurrences in entries have the texts of their keys. -/
theorem key_of_occurrences? {place : Place} {entries : List (Value × Value)}
    {os : List Occurrence} (h : occurrences? ctx place entries = some os) :
    os.map (·.key) = keyTexts entries := by
  induction entries generalizing os with
  | nil =>
    obtain rfl := Option.some.inj h
    rfl
  | cons entry rest ih =>
    rw [Walk.occurrences?_cons] at h
    obtain ⟨key, hkey, h⟩ := Option.bind_eq_some_iff.mp h
    obtain ⟨others, hothers, rfl⟩ := Option.map_eq_some_iff.mp h
    rw [List.map_cons, ih hothers, keyTexts, keyTexts, List.filterMap_cons, hkey]
    rfl

/-- Entries in another order have the same occurrences in another order. -/
theorem occurrences?_perm {place : Place} {entries moved : List (Value × Value)}
    (h : entries.Perm moved) :
    Option.Rel List.Perm (occurrences? ctx place entries) (occurrences? ctx place moved) := by
  induction h with
  | nil => exact .some .nil
  | cons entry _ ih =>
    rw [Walk.occurrences?_cons, Walk.occurrences?_cons]
    cases keyText? entry.1 with
    | none => exact .none
    | some key => exact rel_map ih fun _ _ => List.Perm.cons _
  | swap first second rest =>
    rw [Walk.occurrences?_cons, Walk.occurrences?_cons, Walk.occurrences?_cons,
      Walk.occurrences?_cons]
    cases keyText? first.1 <;> cases keyText? second.1 <;> cases occurrences? ctx place rest
    all_goals first | exact .none | exact .some (List.Perm.swap _ _ _)
  | trans _ _ ih ih' =>
    exact rel_trans (R := List.Perm) (S := List.Perm) (fun _ _ _ => List.Perm.trans) ih ih'

/-- Entries that are reordered have occurrences that agree key by key, if those of each entry are
alike. -/
theorem occurrences?_agree {place : Place} {entries others moved : List (Value × Value)}
    (hkeys : (keyTexts entries).Nodup) (hentries : Value.ReorderedEntries entries others)
    (hperm : others.Perm moved)
    (h : Option.Rel (List.Forall₂ Occurrence.Alike) (occurrences? ctx place entries)
      (occurrences? ctx' place others)) :
    Option.Rel (AgreeByKey (·.key) Occurrence.Alike) (occurrences? ctx place entries)
      (occurrences? ctx' place moved) := by
  have hmoved := @occurrences?_perm ctx' place _ _ hperm
  have hnodup {os : List Occurrence} (hos : occurrences? ctx' place others = some os) :
      (os.map (·.key)).Nodup := by
    rw [key_of_occurrences? hos, ← hentries.keyTexts_eq]
    exact hkeys
  generalize occurrences? ctx place entries = own, occurrences? ctx' place others = mid,
    occurrences? ctx' place moved = last at h hmoved hnodup ⊢
  cases h with
  | none => cases hmoved; exact .none
  | some h =>
    cases hmoved with
    | some hmoved => exact .some (.of_perm (fun _ _ h => h.key) h (hnodup rfl) hmoved)

mutual

/-- **A reordered value has an outline that is alike**, or none if the value has none. The
induction is that over the value; the comments are those of the same places. -/
theorem ofValue?_alike (hcomments : ∀ place, ctx.comments place = ctx'.comments place) (v : Value)
    {w : Value} (h : v.Reordered w) (hkeys : v.hasDistinctTexts = true) (place : Place) :
    Option.Rel Alike (ofValue? ctx place v) (ofValue? ctx' place w) := by
  match v with
  | .tagged tag inner =>
    cases h with
    | scalar h => exact nomatch h
    | tagged h =>
      rw [ofValue?, ofValue?]
      exact ofValue?_alike hcomments inner h hkeys place
  | .mapping entries =>
    cases h with
    | scalar h => exact nomatch h
    | @mapping _ others moved h hperm =>
      obtain ⟨hnodup, hvalues⟩ := Bool.and_eq_true_iff.mp hkeys
      have hempty : entries.isEmpty = moved.isEmpty := h.isEmpty_eq.trans hperm.isEmpty_eq
      have hagree := occurrences?_agree (of_decide_eq_true hnodup) h hperm
        (occurrences?_alike hcomments entries h hvalues place)
      have hstruct := rel_bind hagree fun os more hos =>
        rel_map (gathers_mapM_field?.agree hos) fun _ _ h => FieldsAlike.struct h false
      rw [ofValue?, ofValue?, ← hempty, ← hcomments]
      split
      · exact .some .leaf
      · exact hstruct
  | .sequence items =>
    cases h with
    | scalar h => exact nomatch h
    | @sequence _ others h =>
      rw [ofValue?, ofValue?, ← Walk.startsWithMapping_eq h.head?_looksLike, ← hcomments,
        ← Walk.listType_eq h.head?_looksLike]
      split
      · exact rel_bind (occurrencesOfItems?_agree hcomments items h hkeys place 0)
          fun os more hos =>
            rel_map (gathers_merge?.agree hos) fun _ _ h => FieldsAlike.struct h true
      · exact .some .leaf
  | .null | .bool _ | .number _ | .string _ =>
    cases h
    rw [ofValue?, ofValue?, ← hcomments]
    · exact .some .leaf
    all_goals intros; contradiction
termination_by structural v

/-- The entries have occurrences that are alike, one by one. -/
theorem occurrences?_alike (hcomments : ∀ place, ctx.comments place = ctx'.comments place)
    (entries : List (Value × Value)) {others : List (Value × Value)}
    (h : Value.ReorderedEntries entries others)
    (hkeys : Value.distinctTextsInEntries entries = true) (place : Place) :
    Option.Rel (List.Forall₂ Occurrence.Alike) (occurrences? ctx place entries)
      (occurrences? ctx' place others) := by
  match entries with
  | [] =>
    cases h
    exact .some .nil
  | (k, v) :: rest =>
    cases h with
    | cons hkey hv hrest =>
      obtain ⟨hown, hothers⟩ := Bool.and_eq_true_iff.mp hkeys
      rw [Walk.occurrences?_cons, Walk.occurrences?_cons, ← hkey.keyText?_eq]
      cases keyText? k with
      | none => exact .none
      | some key =>
        refine rel_map (occurrences?_alike hcomments rest hrest hothers place)
          fun os more hos => .cons ⟨rfl, rfl, hcomments _, ?_⟩ hos
        exact ofValue?_alike hcomments v hv hown (place.key key)
termination_by structural entries

/-- The items have occurrences that agree key by key. -/
theorem occurrencesOfItems?_agree
    (hcomments : ∀ place, ctx.comments place = ctx'.comments place) (items : List Value)
    {others : List Value} (h : Value.ReorderedItems items others)
    (hkeys : Value.distinctTextsInItems items = true) (place : Place) (position : Nat) :
    Option.Rel (AgreeByKey (·.key) Occurrence.Alike)
      (occurrencesOfItems? ctx place position items)
      (occurrencesOfItems? ctx' place position others) := by
  match items with
  | [] =>
    cases h
    exact .some fun _ => .nil
  | item :: rest =>
    cases h with
    | cons hitem hrest =>
      obtain ⟨hown, hothers⟩ := Bool.and_eq_true_iff.mp hkeys
      rw [occurrencesOfItems?, occurrencesOfItems?]
      exact rel_bind (occurrencesOfItem?_agree hcomments item hitem hown (place.index position))
        fun own own' hown => rel_map
          (occurrencesOfItems?_agree hcomments rest hrest hothers place (position + 1))
          fun os more hos => hown.append hos
termination_by structural items

theorem occurrencesOfItem?_agree
    (hcomments : ∀ place, ctx.comments place = ctx'.comments place) (item : Value) {other : Value}
    (h : item.Reordered other) (hkeys : item.hasDistinctTexts = true) (place : Place) :
    Option.Rel (AgreeByKey (·.key) Occurrence.Alike) (occurrencesOfItem? ctx place item)
      (occurrencesOfItem? ctx' place other) := by
  match item with
  | .tagged tag inner =>
    cases h with
    | scalar h => exact nomatch h
    | tagged h =>
      rw [occurrencesOfItem?, occurrencesOfItem?]
      exact occurrencesOfItem?_agree hcomments inner h hkeys place
  | .mapping entries =>
    cases h with
    | scalar h => exact nomatch h
    | mapping h hperm =>
      obtain ⟨hnodup, hvalues⟩ := Bool.and_eq_true_iff.mp hkeys
      rw [occurrencesOfItem?, occurrencesOfItem?]
      exact occurrences?_agree (of_decide_eq_true hnodup) h hperm
        (occurrences?_alike hcomments entries h hvalues place)
  | .sequence items =>
    cases h with
    | scalar h => exact nomatch h
    | sequence h => exact .some fun _ => .nil
  | .null | .bool _ | .number _ | .string _ =>
    cases h
    exact .some fun _ => .nil
termination_by structural item

end

/-- **The fields of a reordered resource are alike.** No key occurs twice there, so each field comes
of the same entry, wherever this stands. -/
theorem ofRoot?_alike (hcomments : ∀ place, ctx.comments place = ctx'.comments place)
    {entries others moved : List (Value × Value)} (h : Value.ReorderedEntries entries others)
    (hperm : others.Perm moved) (hkeys : (Value.mapping entries).hasDistinctTexts = true)
    (kind : String) :
    Option.Rel FieldsAlike (ofRoot? ctx kind entries) (ofRoot? ctx' kind moved) := by
  obtain ⟨hnodup, hvalues⟩ := Bool.and_eq_true_iff.mp hkeys
  refine rel_bind (occurrences?_agree (of_decide_eq_true hnodup) h hperm
    (occurrences?_alike hcomments entries h hvalues (Place.root kind))) fun os more hos => ?_
  exact gathers_mapM_field?.agree (hos.filter fun key => !reservedKeys.contains key)

end Outline

/-! ## What the resource is -/

/-- The value of a key is found among the entries with texts as keys. -/
theorem valueOfKey?_eq (key : String) (entries : List (Value × Value)) :
    valueOfKey? key entries = findKey? key (textEntries entries) := by
  induction entries with
  | nil => rfl
  | cons entry rest ih =>
    obtain ⟨k, v⟩ := entry
    cases k with
    | string k =>
      show (if k = key then some v else valueOfKey? key rest) =
        if k = key then some v else findKey? key (textEntries rest)
      rw [ih]
    | null | bool _ | number _ | sequence _ | mapping _ | tagged _ _ => exact ih

theorem textEntries_keys_sublist (entries : List (Value × Value)) :
    ((textEntries entries).map (·.1)).Sublist (keyTexts entries) := by
  rw [textEntries, keyTexts, List.map_filterMap]
  induction entries with
  | nil => exact .slnil
  | cons entry rest ih =>
    obtain ⟨k, v⟩ := entry
    rw [List.filterMap_cons, List.filterMap_cons]
    cases k with
    | string k => exact ih.cons_cons k
    | null | bool _ | number _ => exact ih.cons _
    | sequence _ | mapping _ => exact ih
    | tagged tag inner =>
      cases keyText? (.tagged tag inner) with
      | none => exact ih
      | some text => exact ih.cons text

theorem Yaml.Value.ReorderedEntries.textKeys_eq {entries others : List (Value × Value)}
    (h : Value.ReorderedEntries entries others) :
    (textEntries entries).map (·.1) = (textEntries others).map (·.1) := by
  rw [textEntries, textEntries, List.map_filterMap, List.map_filterMap]
  induction entries generalizing others with
  | nil =>
    cases h
    rfl
  | cons entry rest ih =>
    cases h with
    | @cons k l v w _ _ hkey _ hrest =>
      have hothers := ih hrest
      rw [List.filterMap_cons, List.filterMap_cons, hothers]
      cases hkey with
      | scalar _ => cases k <;> rfl
      | tagged _ | sequence _ | mapping _ _ => rfl

/-- **The value of a key is reordered** where the entries are. -/
theorem valueOfKey?_reordered {entries others moved : List (Value × Value)}
    (h : Value.ReorderedEntries entries others) (hperm : others.Perm moved)
    (hkeys : ((textEntries entries).map (·.1)).Nodup) (key : String) :
    Option.Rel Value.Reordered (valueOfKey? key entries) (valueOfKey? key moved) := by
  have hnodup : ((textEntries others).map (·.1)).Nodup := h.textKeys_eq ▸ hkeys
  have hmoved : (textEntries others).Perm (textEntries moved) := hperm.filterMap _
  rw [valueOfKey?_eq key moved, ← findKey?_perm hnodup hmoved, ← valueOfKey?_eq]
  clear hperm hkeys hnodup hmoved
  induction entries generalizing others with
  | nil =>
    cases h
    exact .none
  | cons entry rest ih =>
    cases h with
    | @cons k l v w _ _ hkey hvalue hrest =>
      have hothers := ih hrest
      cases hkey with
      | scalar hscalar =>
        cases k with
        | string text =>
          show Option.Rel _ (if text = key then some v else valueOfKey? key rest)
            (if text = key then some w else valueOfKey? key _)
          split
          · exact .some hvalue
          · exact hothers
        | null | bool _ | number _ => exact hothers
        | sequence _ | mapping _ | tagged _ _ => exact nomatch hscalar
      | tagged _ | sequence _ | mapping _ _ => exact hothers

namespace Schema

variable {entries others moved : List (Value × Value)}

/-- **The kind of a reordered resource is the same.** -/
theorem kindOf_reordered (h : Value.ReorderedEntries entries others) (hperm : others.Perm moved)
    (hkeys : ((textEntries entries).map (·.1)).Nodup) : kindOf entries = kindOf moved := by
  have hvalue := valueOfKey?_reordered h hperm hkeys "kind"
  unfold kindOf
  generalize valueOfKey? "kind" entries = x, valueOfKey? "kind" moved = y at hvalue ⊢
  cases hvalue with
  | none => rfl
  | @some v w hvalue =>
    rw [Option.map_some, Option.map_some]
    match v.untagged, w.untagged, hvalue.untagged with
    | _, _, .scalar _ => rfl
    | _, _, .tagged _ | _, _, .sequence _ | _, _, .mapping _ _ => rfl

/-- **The group and the version of a reordered resource are the same.** -/
theorem apiVersionOf_reordered (h : Value.ReorderedEntries entries others)
    (hperm : others.Perm moved) (hkeys : ((textEntries entries).map (·.1)).Nodup) :
    apiVersionOf entries = apiVersionOf moved := by
  have hvalue := valueOfKey?_reordered h hperm hkeys "apiVersion"
  unfold apiVersionOf
  generalize valueOfKey? "apiVersion" entries = x, valueOfKey? "apiVersion" moved = y
    at hvalue ⊢
  cases hvalue with
  | none => rfl
  | @some v w hvalue =>
    rw [Option.map_some, Option.map_some]
    match v.untagged, w.untagged, hvalue.untagged with
    | _, _, .scalar _ => rfl
    | _, _, .sequence _ | _, _, .mapping _ _ => rfl
    | _, _, .tagged htagged =>
      show Except.error (SchemaError.invalidApiVersion ((keyText? _).getD (valueKind _)) _) =
        Except.error (SchemaError.invalidApiVersion ((keyText? _).getD (valueKind _)) _)
      rw [htagged.tagged.keyText?_eq, htagged.tagged.valueKind_eq]

end Schema
end ChartSchema
