import ChartSchema.Crd.Marker
import ChartSchema.Proofs.Schema.Reordering
/-!
# Entries that are deleted

When a chart gets a new setting, its values document gets an entry that it did not have before.
`Value.Thinned` says it backwards: one document arises from another one by deleting entries of
mappings, at any depth, and this module proves that the outline of the smaller document **grows**
into that of the larger one. Every field is still there, with the same comments and markers, and
what is new are whole fields.

Below a list this is not a matter of course. The keys of all items are merged, the first occurrence
of a key says what its field is, and a key that is deleted from one item may still occur in another
one. Therefore no entry may be left whose keys are those of a deleted one (`Place.keys`, which has
no indices): then a key is deleted from all items of a list or from none, and what is merged from
the rest is the rest of what is merged (`Outline.merge?_filter`).
-/

namespace ChartSchema

open Yaml (Value)

/-! ## Deleting entries -/

mutual

/-- **The places of all entries in a value**, each before those below it. An entry whose key has no
text has no place. -/
def Yaml.Value.entryPlaces (place : Place) (v : Value) : List Place :=
  match v with
  | .tagged _ inner => inner.entryPlaces place
  | .mapping entries => placesOfEntries place entries
  | .sequence items => placesOfItems place 0 items
  | _ => []
termination_by structural v

/-- The places of the entries of a mapping and of those below them. -/
def Yaml.Value.placesOfEntries (place : Place) (entries : List (Value × Value)) : List Place :=
  match entries with
  | [] => []
  | (k, v) :: rest =>
    ((ChartSchema.keyText? k).elim [] fun key => place.key key :: v.entryPlaces (place.key key)) ++
      placesOfEntries place rest
termination_by structural entries

/-- The places of the entries in the items of a list, the first of which has the given index. -/
def Yaml.Value.placesOfItems (place : Place) (position : Nat) (items : List Value) : List Place :=
  match items with
  | [] => []
  | item :: rest =>
    item.entryPlaces (place.index position) ++ placesOfItems place (position + 1) rest
termination_by structural items

end

mutual

/-- **A value from which entries of mappings were deleted**, at any depth: those at the places that
are listed. The items of lists stay where they are, and no mapping loses all of its entries. -/
inductive Yaml.Value.Thinned : Place → List Place → Value → Value → Prop
  /-- A scalar is the same. -/
  | scalar {place : Place} {v : Value} : Walk.isScalar v = true → Thinned place [] v v
  /-- A tag is the same. -/
  | tagged {place : Place} {gone : List Place} {tag : String} {v w : Value} :
    Thinned place gone v w → Thinned place gone (.tagged tag v) (.tagged tag w)
  /-- A list has the same number of items. -/
  | sequence {place : Place} {gone : List Place} {items others : List Value} :
    ThinnedItems place 0 gone items others →
      Thinned place gone (.sequence items) (.sequence others)
  /-- A mapping without entries had none before. -/
  | mapping {place : Place} {gone : List Place} {entries others : List (Value × Value)} :
    ThinnedEntries place gone entries others → (others = [] → entries = []) →
      Thinned place gone (.mapping entries) (.mapping others)

/-- The items of a list one by one, the first of which has the given index. -/
inductive Yaml.Value.ThinnedItems : Place → Nat → List Place → List Value → List Value → Prop
  /-- No items. -/
  | nil {place : Place} {position : Nat} : ThinnedItems place position [] [] []
  /-- An item before others. -/
  | cons {place : Place} {position : Nat} {gone more : List Place} {v w : Value}
      {items others : List Value} :
    Thinned (place.index position) gone v w →
      ThinnedItems place (position + 1) more items others →
        ThinnedItems place position (gone ++ more) (v :: items) (w :: others)

/-- The entries of a mapping one by one. -/
inductive Yaml.Value.ThinnedEntries :
    Place → List Place → List (Value × Value) → List (Value × Value) → Prop
  /-- No entries. -/
  | nil {place : Place} : ThinnedEntries place [] [] []
  /-- An entry that is kept, from whose value others may be deleted. -/
  | keep {place : Place} {gone more : List Place} {k v w : Value} {key : String}
      {entries others : List (Value × Value)} :
    ChartSchema.keyText? k = some key → Thinned (place.key key) gone v w →
      ThinnedEntries place more entries others →
        ThinnedEntries place (gone ++ more) ((k, v) :: entries) ((k, w) :: others)
  /-- An entry that is deleted. -/
  | drop {place : Place} {more : List Place} {k v : Value} {key : String}
      {entries others : List (Value × Value)} :
    ChartSchema.keyText? k = some key → ThinnedEntries place more entries others →
      ThinnedEntries place (place.key key :: more) ((k, v) :: entries) others
  /-- An entry whose key has no text stays as it is. -/
  | stay {place : Place} {more : List Place} {k v : Value} {entries others : List (Value × Value)} :
    ChartSchema.keyText? k = none → ThinnedEntries place more entries others →
      ThinnedEntries place more ((k, v) :: entries) ((k, v) :: others)

end

namespace Yaml.Value

variable {place : Place}

theorem Thinned.untagged {gone : List Place} {v w : Value} (h : v.Thinned place gone w) :
    v.untagged.Thinned place gone w.untagged := by
  match v, h with
  | .tagged _ _, .tagged h => exact h.untagged
  | .sequence _, .sequence h => exact .sequence h
  | .mapping _, .mapping h hempty => exact .mapping h hempty
  | .null, .scalar _ | .bool _, .scalar _ | .number _, .scalar _ | .string _, .scalar _ =>
    exact .scalar rfl

theorem entryPlaces_untagged (place : Place) (v : Value) :
    v.untagged.entryPlaces place = v.entryPlaces place := by
  match v with
  | .tagged _ inner => exact entryPlaces_untagged place inner
  | .null | .bool _ | .number _ | .string _ | .sequence _ | .mapping _ => rfl

/-- A scalar stays the same, a list stays a list, and a mapping stays a mapping. -/
theorem Thinned.untagged_cases {gone : List Place} {v w : Value} (h : v.Thinned place gone w) :
    v.untagged = w.untagged ∨
      (∃ items others, v.untagged = .sequence items ∧ w.untagged = .sequence others) ∨
        ∃ entries others, v.untagged = .mapping entries ∧ w.untagged = .mapping others := by
  match v, h with
  | .tagged _ _, .tagged h => exact h.untagged_cases
  | .sequence items, .sequence _ => exact Or.inr (Or.inl ⟨items, _, rfl, rfl⟩)
  | .mapping entries, .mapping _ _ => exact Or.inr (Or.inr ⟨entries, _, rfl, rfl⟩)
  | .null, .scalar _ | .bool _, .scalar _ | .number _, .scalar _ | .string _, .scalar _ =>
    exact Or.inl rfl

variable {gone : List Place} {v w : Value}

/-- A value from which entries are deleted still looks the same. -/
theorem Thinned.looksLike (h : v.Thinned place gone w) : Walk.LooksLike v w := by
  rcases h.untagged_cases with h | ⟨_, _, hv, hw⟩ | ⟨_, _, hv, hw⟩
  · exact ⟨by rw [isMapping, isMapping, h], by rw [TypeRef.ofValue, TypeRef.ofValue, h]⟩
  · exact ⟨by rw [isMapping, isMapping, hv, hw], by rw [TypeRef.ofValue, TypeRef.ofValue, hv, hw]⟩
  · exact ⟨by rw [isMapping, isMapping, hv, hw], by rw [TypeRef.ofValue, TypeRef.ofValue, hv, hw]⟩

variable {position : Nat} {items others : List Value}

theorem ThinnedItems.head?_looksLike (h : ThinnedItems place position gone items others) :
    Option.Rel Walk.LooksLike items.head? others.head? := by
  cases h with
  | nil => exact .none
  | cons hfirst _ => exact .some hfirst.looksLike

/-- A mapping that does not lose all of its entries is empty if it was. -/
theorem ThinnedEntries.isEmpty_eq {entries others : List (Value × Value)}
    (h : ThinnedEntries place gone entries others) (hempty : others = [] → entries = []) :
    others.isEmpty = entries.isEmpty := by
  cases others with
  | nil => rw [hempty rfl]
  | cons _ _ => cases h <;> rfl

theorem valueOfKey?_cons_of_ne {key : String} {k : Value} (h : ChartSchema.keyText? k ≠ some key)
    (v : Value) (rest : List (Value × Value)) :
    ChartSchema.valueOfKey? key ((k, v) :: rest) = ChartSchema.valueOfKey? key rest := by
  cases k with
  | string k => exact if_neg fun hsame => h (congrArg some hsame)
  | null | bool _ | number _ | sequence _ | mapping _ | tagged _ _ => rfl

/-- A key that has a value has a place. -/
theorem mem_placesOfEntries {entries : List (Value × Value)} {key : String} {v : Value}
    (h : ChartSchema.valueOfKey? key entries = some v) :
    place.key key ∈ placesOfEntries place entries := by
  induction entries with
  | nil => cases h
  | cons entry rest ih =>
    obtain ⟨k, w⟩ := entry
    rw [placesOfEntries]
    by_cases hkey : ChartSchema.keyText? k = some key
    · rw [hkey]
      exact List.mem_append_left _ List.mem_cons_self
    · rw [valueOfKey?_cons_of_ne hkey] at h
      exact List.mem_append_right _ (ih h)

/-- **The value of a key whose entry is not deleted** is the same, with entries deleted from it.
Entries in front of it may be gone, but none of those has its key. -/
theorem ThinnedEntries.valueOfKey? {entries others : List (Value × Value)} {key : String}
    (h : ThinnedEntries place gone entries others) (hkey : place.key key ∉ gone) :
    Option.Rel (fun v w => ∃ own, v.Thinned (place.key key) own w)
      (valueOfKey? key entries) (valueOfKey? key others) := by
  induction entries generalizing others gone with
  | nil =>
    cases h
    exact .none
  | cons entry rest ih =>
    cases h with
    | @keep _ own more k v w text _ others htext hvalue hrest =>
      have hothers := ih hrest fun hmem => hkey (List.mem_append_right _ hmem)
      cases k with
      | string k =>
        obtain rfl : k = text := Option.some.inj htext
        show Option.Rel _ (if k = key then some v else ChartSchema.valueOfKey? key rest)
          (if k = key then some w else ChartSchema.valueOfKey? key others)
        split
        · next hsame => exact .some ⟨own, hsame ▸ hvalue⟩
        · exact hothers
      | null | bool _ | number _ | sequence _ | mapping _ | tagged _ _ => exact hothers
    | @drop _ more k v text _ _ htext hrest =>
      have hne : text ≠ key := fun hsame => hkey (hsame ▸ List.mem_cons_self)
      rw [valueOfKey?_cons_of_ne (by rw [htext]; exact fun h => hne (Option.some.inj h))]
      exact ih hrest fun hmem => hkey (List.mem_cons_of_mem _ hmem)
    | @stay _ more k v _ _ htext hrest =>
      have hne : ChartSchema.keyText? k ≠ some key := by
        rw [htext]
        exact (Option.some_ne_none key).symm
      rw [valueOfKey?_cons_of_ne hne, valueOfKey?_cons_of_ne hne]
      exact ih hrest hkey

end Yaml.Value

/-! ## Outlines that grow -/

/-- Whether a comment line is a marker that makes its field required. -/
def Marker.makesRequired (line : String) : Bool :=
  match parse line with
  | .ok (some (.require required)) => required
  | _ => false

/-- **No marker line makes its field required.** -/
def Marker.NoneRequired (lines : List String) : Prop :=
  ∀ line ∈ lines, makesRequired line = false

instance (lines : List String) : Decidable (Marker.NoneRequired lines) :=
  inferInstanceAs (Decidable (∀ line ∈ lines, Marker.makesRequired line = false))

/-- **An outline grows into another one**: the fields are those of the other one that have certain
keys, with values that grow, and no field of another key is marked as required. A struct without
fields stays one. -/
inductive Outline.Grows : Outline → Outline → Prop
  /-- The same type. -/
  | leaf {type : FieldType} : Grows (.leaf type) (.leaf type)
  /-- A struct with more fields. -/
  | struct {isList : Bool} {fields others : OutlineFields} {kept : String → Bool} :
    fields.map (·.1) = (others.filter (kept ·.1.key)).map (·.1) →
    List.Forall₂ Grows (fields.map (·.2)) ((others.filter (kept ·.1.key)).map (·.2)) →
    (∀ field ∈ others, kept field.1.key = false → Marker.NoneRequired field.1.markers) →
    (fields = [] → others = []) →
      Grows (.struct isList fields) (.struct isList others)

/-- Occurrences of one key at one place, where what its value is grows if it can be read of both. -/
structure Occurrence.Grows (x y : Occurrence) : Prop where
  /-- The key is the same. -/
  key : x.key = y.key
  /-- The path is the same. -/
  path : x.path = y.path
  /-- The comments are the same. -/
  block : x.block = y.block
  /-- What the value is grows. -/
  content : ∀ o o', x.content? = some o → y.content? = some o' → o.Grows o'

namespace Outline

variable {kept : String → Bool}

/-- Fields that are the same, with values that grow. -/
def FieldGrows (x y : FieldHead × Outline) : Prop := x.1 = y.1 ∧ x.2.Grows y.2

/-- Fields that grow, and more fields, none of which is marked as required. -/
def FieldsGrow (kept : String → Bool) : OutlineFields → OutlineFields → Prop :=
  ExtendsByKey (·.1.key) FieldGrows (fun field => Marker.NoneRequired field.1.markers) kept

/-- Occurrences that grow, and occurrences of more keys, none of which is marked as required. -/
def OccurrencesGrow (kept : String → Bool) : List Occurrence → List Occurrence → Prop :=
  ExtendsByKey (·.key) Occurrence.Grows (fun o => Marker.NoneRequired o.block.markers) kept

theorem FieldsGrow.struct {fields others : OutlineFields} (h : FieldsGrow kept fields others)
    (hempty : fields = [] → others = []) (isList : Bool) :
    Grows (.struct isList fields) (.struct isList others) :=
  .struct (forall₂_prod.mp h.same).1 (forall₂_prod.mp h.same).2 h.more hempty

theorem Grows.fields {isList : Bool} {fields others : OutlineFields}
    (h : Grows (.struct isList fields) (.struct isList others)) :
    (∃ kept, FieldsGrow kept fields others) ∧ (fields = [] → others = []) := by
  cases h with
  | @struct _ _ _ kept hheads hcontents hmore hempty =>
    exact ⟨⟨kept, forall₂_prod.mpr ⟨hheads, hcontents⟩, hmore⟩, hempty⟩

/-! ### Each occurrence for itself -/

theorem field?_grows {x y : Occurrence} (h : x.Grows y) {field later : FieldHead × Outline}
    (hx : x.field? = some field) (hy : y.field? = some later) : FieldGrows field later := by
  obtain ⟨o, ho, rfl⟩ := Option.map_eq_some_iff.mp hx
  obtain ⟨o', ho', rfl⟩ := Option.map_eq_some_iff.mp hy
  refine ⟨?_, h.content o o' ho ho'⟩
  show x.head = y.head
  rw [Occurrence.head, Occurrence.head, h.key, h.path, h.block]

/-- **The fields of the keys of a mapping grow** with the occurrences of the keys. Each occurrence
gives one field, and an occurrence that is new gives one that no marker makes required. -/
theorem OccurrencesGrow.fields {os more : List Occurrence} (h : OccurrencesGrow kept os more)
    {fields others : OutlineFields} (hfields : os.mapM Occurrence.field? = some fields)
    (hothers : more.mapM Occurrence.field? = some others) : FieldsGrow kept fields others := by
  refine h.mapM (fun _ _ => key_of_field?)
    (fun x y hxy field later hx hy => field?_grows hxy hx hy) (fun o ho field hfield => ?_)
    hfields hothers
  obtain ⟨content, -, rfl⟩ := Option.map_eq_some_iff.mp hfield
  exact ho

/-! ### Occurrences merged with those before -/

/-- An occurrence that grows is merged into fields that grow. -/
theorem add?_grows {fields others merged further : OutlineFields} {o o' : Occurrence}
    (h : List.Forall₂ FieldGrows fields others) (ho : o.Grows o')
    (hmerged : add? fields o = some merged) (hfurther : add? others o' = some further) :
    List.Forall₂ FieldGrows merged further := by
  have hrel := add?_rel h ho.key ho.block fun hnone hnone' => by
    -- A key that is new in both was read in both.
    unfold add? at hmerged hfurther
    rw [hnone] at hmerged
    rw [← ho.key, hnone'] at hfurther
    obtain ⟨field, hfield, -⟩ := Option.map_eq_some_iff.mp hmerged
    obtain ⟨later, hlater, -⟩ := Option.map_eq_some_iff.mp hfurther
    rw [hfield, hlater]
    exact .some (field?_grows ho hfield hlater)
  rw [hmerged, hfurther] at hrel
  exact of_rel_some hrel

theorem merge?_grows {fields others merged further : OutlineFields} {os more : List Occurrence}
    (hfields : List.Forall₂ FieldGrows fields others)
    (h : List.Forall₂ Occurrence.Grows os more) (hmerged : merge? fields os = some merged)
    (hfurther : merge? others more = some further) : List.Forall₂ FieldGrows merged further := by
  induction h generalizing fields others with
  | nil =>
    obtain rfl := Option.some.inj hmerged
    obtain rfl := Option.some.inj hfurther
    exact hfields
  | cons ho _ ih =>
    obtain ⟨first, hfirst, hmerged⟩ := Option.bind_eq_some_iff.mp hmerged
    obtain ⟨second, hsecond, hfurther⟩ := Option.bind_eq_some_iff.mp hfurther
    exact ih (add?_grows hfields ho hfirst hsecond) hmerged hfurther

/-- What is known of the markers of fields and of an occurrence is known behind merging it. -/
theorem markers_of_add? {P : String → List String → Prop} {fields merged : OutlineFields}
    {o : Occurrence} (hfields : ∀ field ∈ fields, P field.1.key field.1.markers)
    (ho : P o.key o.block.markers) (h : add? fields o = some merged) :
    ∀ field ∈ merged, P field.1.key field.1.markers := by
  unfold add? at h
  split at h
  · obtain ⟨new, hnew, rfl⟩ := Option.map_eq_some_iff.mp h
    obtain ⟨content, -, rfl⟩ := Option.map_eq_some_iff.mp hnew
    intro field hfield
    rcases List.mem_append.mp hfield with hfield | hfield
    · exact hfields field hfield
    · obtain rfl := List.mem_singleton.mp hfield
      exact ho
  · split_ifs at h
    · exact Option.some.inj h ▸ hfields
    · obtain rfl := Option.some.inj h
      intro field hfield
      obtain ⟨before, hbefore, rfl⟩ := List.mem_map.mp hfield
      split
      · next hkey =>
        show P before.1.key o.block.markers
        rw [beq_iff_eq.mp hkey]
        exact ho
      · exact hfields before hbefore
    · exact Option.some.inj h ▸ hfields

/-- **The markers of a merged field are those of an occurrence of its key.** The induction is on the
occurrences; a field that is there keeps its markers or takes over those of another occurrence. -/
theorem markers_of_merge? {P : String → List String → Prop} {fields merged : OutlineFields}
    {os : List Occurrence} (hfields : ∀ field ∈ fields, P field.1.key field.1.markers)
    (hos : ∀ o ∈ os, P o.key o.block.markers) (h : merge? fields os = some merged) :
    ∀ field ∈ merged, P field.1.key field.1.markers := by
  induction os generalizing fields with
  | nil => exact Option.some.inj h ▸ hfields
  | cons o rest ih =>
    obtain ⟨added, hadded, h⟩ := Option.bind_eq_some_iff.mp h
    obtain ⟨ho, hrest⟩ := List.forall_mem_cons.mp hos
    exact ih (markers_of_add? hfields ho hadded) hrest h

/-- **The fields of the keys of a list's items grow** with the occurrences of the keys. Here one
field may come of many occurrences, in different items. -/
theorem OccurrencesGrow.merged {os more : List Occurrence} (h : OccurrencesGrow kept os more)
    {fields others : OutlineFields} (hfields : merge? [] os = some fields)
    (hothers : merge? [] more = some others) : FieldsGrow kept fields others := by
  refine ⟨merge?_grows .nil h.same hfields (merge?_filter kept hothers), ?_⟩
  exact markers_of_merge? (P := fun key markers => kept key = false → Marker.NoneRequired markers)
    (fun field hfield => absurd hfield List.not_mem_nil) h.more hothers

/-! ### Structs without fields -/

theorem eq_nil_of_mapM_field? {os : List Occurrence}
    (h : os.mapM Occurrence.field? = some []) : os = [] := by
  cases os with
  | nil => rfl
  | cons o rest =>
    rw [mapM_cons_option] at h
    obtain ⟨field, -, h⟩ := Option.bind_eq_some_iff.mp h
    obtain ⟨others, -, h⟩ := Option.map_eq_some_iff.mp h
    exact absurd h (List.cons_ne_nil _ _)

theorem add?_ne_nil {fields merged : OutlineFields} {o : Occurrence}
    (h : add? fields o = some merged) : merged ≠ [] := by
  unfold add? at h
  split at h
  · obtain ⟨field, -, rfl⟩ := Option.map_eq_some_iff.mp h
    exact List.append_ne_nil_of_right_ne_nil _ (List.cons_ne_nil _ _)
  · next head content hfield =>
    have hne : fields ≠ [] := List.ne_nil_of_mem (List.mem_of_find?_eq_some hfield)
    split_ifs at h
    · exact Option.some.inj h ▸ hne
    · rw [← Option.some.inj h]
      exact fun hnil => hne (List.map_eq_nil_iff.mp hnil)
    · exact Option.some.inj h ▸ hne

theorem merge?_ne_nil {fields merged : OutlineFields} {os : List Occurrence} (hne : fields ≠ [])
    (h : merge? fields os = some merged) : merged ≠ [] := by
  induction os generalizing fields with
  | nil => exact Option.some.inj h ▸ hne
  | cons o rest ih =>
    obtain ⟨added, hadded, h⟩ := Option.bind_eq_some_iff.mp h
    exact ih (add?_ne_nil hadded) h

theorem eq_nil_of_merge? {os : List Occurrence} (h : merge? [] os = some []) : os = [] := by
  cases os with
  | nil => rfl
  | cons o rest =>
    obtain ⟨added, hadded, h⟩ := Option.bind_eq_some_iff.mp h
    exact absurd rfl (merge?_ne_nil (add?_ne_nil hadded) h)

/-! ### The outlines of documents -/

theorem eq_nil_of_occurrences? {ctx : DocumentContext} {place : Place}
    {entries : List (Value × Value)} (h : occurrences? ctx place entries = some []) :
    entries = [] := by
  cases entries with
  | nil => rfl
  | cons entry rest =>
    rw [Walk.occurrences?_cons] at h
    obtain ⟨key, -, h⟩ := Option.bind_eq_some_iff.mp h
    obtain ⟨others, -, h⟩ := Option.map_eq_some_iff.mp h
    exact absurd h (List.cons_ne_nil _ _)

end Outline

/-- **Whether a key of a place is kept**: no entry with the same keys is deleted. -/
def Place.keeps (gone : List Place) (place : Place) (key : String) : Bool :=
  gone.all fun p => p.keys != (place.key key).keys

namespace Place

variable {gone : List Place} {place : Place} {key : String}

/-- A key is kept if no deleted entry has the same keys. -/
theorem keeps_iff : place.keeps gone key = true ↔ ∀ p ∈ gone, p.keys ≠ (place.key key).keys := by
  unfold keeps
  rw [List.all_eq_true]
  exact forall₂_congr fun p _ => bne_iff_ne

end Place

/-- **Deleted entries are apart from what is left**: those at hand are among all that are deleted,
and none of these has the keys of an entry that is left. -/
structure Place.Apart (gone own left : List Place) : Prop where
  /-- The deleted entries at hand are deleted. -/
  own : ∀ p ∈ own, p ∈ gone
  /-- No deleted entry has the keys of one that is left. -/
  left : ∀ q ∈ left, ∀ p ∈ gone, p.keys ≠ q.keys

namespace Place.Apart

variable {gone own more left further : List Place}

theorem fst (h : Apart gone (own ++ more) (left ++ further)) : Apart gone own left :=
  ⟨fun p hp => h.own p (List.mem_append_left _ hp),
    fun q hq => h.left q (List.mem_append_left _ hq)⟩

theorem snd (h : Apart gone (own ++ more) (left ++ further)) : Apart gone more further :=
  ⟨fun p hp => h.own p (List.mem_append_right _ hp),
    fun q hq => h.left q (List.mem_append_right _ hq)⟩

end Place.Apart

namespace Outline

variable {ctx : DocumentContext} {gone : List Place}

mutual

/-- **The outline of a value grows** by the entries that were deleted from it. Entries may be
deleted elsewhere too; what is left here shares its keys with none of them. -/
theorem ofValue?_grows (hnew : ∀ p ∈ gone, Marker.NoneRequired (ctx.comments p).markers)
    (v : Value) {w : Value} {place : Place} {own : List Place} (h : v.Thinned place own w)
    (hapart : Place.Apart gone own (w.entryPlaces place)) {o o' : Outline}
    (ho : ofValue? ctx place w = some o) (ho' : ofValue? ctx place v = some o') : o.Grows o' := by
  match v with
  | .tagged tag inner =>
    cases h with
    | scalar h => cases h
    | tagged h =>
      rw [ofValue?] at ho ho'
      exact ofValue?_grows hnew inner h hapart ho ho'
  | .mapping entries =>
    cases h with
    | scalar h => cases h
    | @mapping _ _ _ others h hempty =>
      rw [ofValue?, h.isEmpty_eq hempty] at ho
      rw [ofValue?] at ho'
      split at ho
      · next hint hnone hhint =>
        rw [hnone, hhint] at ho'
        obtain rfl := Option.some.inj ho
        obtain rfl := Option.some.inj ho'
        exact .leaf
      · next hstruct =>
        split at ho'
        · next hint hnone hhint => exact absurd hhint (hstruct hint hnone)
        obtain ⟨os, hos, ho⟩ := Option.bind_eq_some_iff.mp ho
        obtain ⟨more, hmore, ho'⟩ := Option.bind_eq_some_iff.mp ho'
        obtain ⟨fields, hfields, rfl⟩ := Option.map_eq_some_iff.mp ho
        obtain ⟨further, hfurther, rfl⟩ := Option.map_eq_some_iff.mp ho'
        have hgrow := occurrences?_grow hnew entries h hapart hos hmore
        refine (hgrow.fields hfields hfurther).struct (fun hnil => ?_) false
        subst hnil
        obtain rfl := eq_nil_of_mapM_field? hfields
        obtain rfl := hempty (eq_nil_of_occurrences? hos)
        obtain rfl := Option.some.inj hmore
        exact (Option.some.inj hfurther).symm
  | .sequence items =>
    cases h with
    | scalar h => cases h
    | @sequence _ _ _ others h =>
      rw [ofValue?, ← Walk.startsWithMapping_eq h.head?_looksLike,
        ← Walk.listType_eq h.head?_looksLike] at ho
      rw [ofValue?] at ho'
      split at ho
      · next hstarts =>
        rw [if_pos hstarts] at ho'
        obtain ⟨os, hos, ho⟩ := Option.bind_eq_some_iff.mp ho
        obtain ⟨more, hmore, ho'⟩ := Option.bind_eq_some_iff.mp ho'
        obtain ⟨fields, hfields, rfl⟩ := Option.map_eq_some_iff.mp ho
        obtain ⟨further, hfurther, rfl⟩ := Option.map_eq_some_iff.mp ho'
        obtain ⟨hgrow, hnone⟩ := occurrencesOfItems?_grow hnew items h hapart hos hmore
        refine (hgrow.merged hfields hfurther).struct (fun hnil => ?_) true
        subst hnil
        rw [hnone (eq_nil_of_merge? hfields)] at hfurther
        exact (Option.some.inj hfurther).symm
      · next hplain =>
        rw [if_neg hplain] at ho'
        obtain rfl := Option.some.inj ho
        obtain rfl := Option.some.inj ho'
        exact .leaf
  | .null | .bool _ | .number _ | .string _ =>
    cases h
    obtain rfl := Option.some.inj ho
    obtain rfl := Option.some.inj ho'
    exact .leaf
termination_by structural v

/-- The occurrences in entries grow by those that were deleted. -/
theorem occurrences?_grow (hnew : ∀ p ∈ gone, Marker.NoneRequired (ctx.comments p).markers)
    (entries : List (Value × Value)) {others : List (Value × Value)} {place : Place}
    {own : List Place} (h : Value.ThinnedEntries place own entries others)
    (hapart : Place.Apart gone own (Value.placesOfEntries place others))
    {os more : List Occurrence} (hos : occurrences? ctx place others = some os)
    (hmore : occurrences? ctx place entries = some more) :
    OccurrencesGrow (place.keeps gone) os more := by
  match entries with
  | [] =>
    cases h
    obtain rfl := Option.some.inj hos
    obtain rfl := Option.some.inj hmore
    exact .nil
  | (k, v) :: rest =>
    rw [Walk.occurrences?_cons] at hmore
    obtain ⟨key, hkey, hmore⟩ := Option.bind_eq_some_iff.mp hmore
    obtain ⟨further, hfurther, rfl⟩ := Option.map_eq_some_iff.mp hmore
    cases h with
    | stay hnone _ => exact absurd (hkey.symm.trans hnone) (Option.some_ne_none key)
    | @keep _ own later _ _ w text _ others htext hvalue hrest =>
      obtain rfl : key = text := Option.some.inj (hkey.symm.trans htext)
      rw [Walk.occurrences?_cons, hkey, Option.bind_some] at hos
      obtain ⟨os, hrestos, rfl⟩ := Option.map_eq_some_iff.mp hos
      rw [Value.placesOfEntries, hkey, Option.elim_some] at hapart
      have hkept : place.keeps gone key = true :=
        Place.keeps_iff.mpr (hapart.left _ (List.mem_append_left _ List.mem_cons_self))
      have hbelow : Place.Apart gone own (w.entryPlaces (place.key key)) :=
        ⟨hapart.fst.own, fun q hq => hapart.fst.left q (List.mem_cons_of_mem _ hq)⟩
      refine .keep hkept ⟨rfl, rfl, rfl, fun o o' ho ho' => ?_⟩
        (occurrences?_grow hnew rest hrest hapart.snd hrestos hfurther)
      exact ofValue?_grows hnew v hvalue hbelow ho ho'
    | @drop _ later _ _ text _ _ htext hrest =>
      obtain rfl : key = text := Option.some.inj (hkey.symm.trans htext)
      have hmem : place.key key ∈ gone := hapart.own _ List.mem_cons_self
      have hother : place.keeps gone key = false :=
        Bool.eq_false_iff.mpr fun hkept => Place.keeps_iff.mp hkept _ hmem rfl
      have hbehind : Place.Apart gone later (Value.placesOfEntries place others) :=
        ⟨fun p hp => hapart.own p (List.mem_cons_of_mem _ hp), hapart.left⟩
      exact .add hother (hnew _ hmem) (occurrences?_grow hnew rest hrest hbehind hos hfurther)
termination_by structural entries

/-- The occurrences in items grow by those that were deleted, and are none where there were
none. -/
theorem occurrencesOfItems?_grow (hnew : ∀ p ∈ gone, Marker.NoneRequired (ctx.comments p).markers)
    (items : List Value) {others : List Value} {place : Place} {position : Nat}
    {own : List Place} (h : Value.ThinnedItems place position own items others)
    (hapart : Place.Apart gone own (Value.placesOfItems place position others))
    {os more : List Occurrence} (hos : occurrencesOfItems? ctx place position others = some os)
    (hmore : occurrencesOfItems? ctx place position items = some more) :
    OccurrencesGrow (place.keeps gone) os more ∧ (os = [] → more = []) := by
  match items with
  | [] =>
    cases h
    obtain rfl := Option.some.inj hos
    obtain rfl := Option.some.inj hmore
    exact ⟨.nil, fun _ => rfl⟩
  | item :: rest =>
    cases h with
    | cons hitem hrest =>
      rw [occurrencesOfItems?] at hos hmore
      rw [Value.placesOfItems] at hapart
      obtain ⟨first, hfirst, hos⟩ := Option.bind_eq_some_iff.mp hos
      obtain ⟨os, hrestos, rfl⟩ := Option.map_eq_some_iff.mp hos
      obtain ⟨second, hsecond, hmore⟩ := Option.bind_eq_some_iff.mp hmore
      obtain ⟨more, hrestmore, rfl⟩ := Option.map_eq_some_iff.mp hmore
      obtain ⟨hgrow, hnone⟩ := occurrencesOfItem?_grow hnew item hitem hapart.fst hfirst hsecond
      obtain ⟨hgrow', hnone'⟩ := occurrencesOfItems?_grow hnew rest hrest hapart.snd hrestos
        hrestmore
      refine ⟨hgrow.append hgrow', fun hnil => ?_⟩
      obtain ⟨hown, hothers⟩ := List.append_eq_nil_iff.mp hnil
      rw [hnone hown, hnone' hothers]
      rfl
termination_by structural items

/-- The occurrences in an item grow by those that were deleted, and are none where there were
none. -/
theorem occurrencesOfItem?_grow (hnew : ∀ p ∈ gone, Marker.NoneRequired (ctx.comments p).markers)
    (item : Value) {other : Value} {place : Place} {own : List Place}
    (h : item.Thinned place own other)
    (hapart : Place.Apart gone own (other.entryPlaces place))
    {os more : List Occurrence} (hos : occurrencesOfItem? ctx place other = some os)
    (hmore : occurrencesOfItem? ctx place item = some more) :
    OccurrencesGrow (place.keeps gone) os more ∧ (os = [] → more = []) := by
  match item with
  | .tagged tag inner =>
    cases h with
    | scalar h => cases h
    | tagged h =>
      rw [occurrencesOfItem?] at hos hmore
      exact occurrencesOfItem?_grow hnew inner h hapart hos hmore
  | .mapping entries =>
    cases h with
    | scalar h => cases h
    | mapping h hempty =>
      rw [occurrencesOfItem?] at hos hmore
      refine ⟨occurrences?_grow hnew entries h hapart hos hmore, fun hnone => ?_⟩
      subst hnone
      obtain rfl := hempty (eq_nil_of_occurrences? hos)
      exact (Option.some.inj hmore).symm
  | .sequence items =>
    cases h with
    | scalar h => cases h
    | sequence h =>
      obtain rfl := Option.some.inj hos
      obtain rfl := Option.some.inj hmore
      exact ⟨.nil, fun _ => rfl⟩
  | .null | .bool _ | .number _ | .string _ =>
    cases h
    obtain rfl := Option.some.inj hos
    obtain rfl := Option.some.inj hmore
    exact ⟨.nil, fun _ => rfl⟩
termination_by structural item

end

/-- **The fields of a resource grow** by the entries that were deleted. The resource may be one
without own fields. -/
theorem ofRoot?_grow (hnew : ∀ p ∈ gone, Marker.NoneRequired (ctx.comments p).markers)
    {kind : String} {entries others : List (Value × Value)}
    (h : Value.ThinnedEntries (Place.root kind) gone entries others)
    (hleft : ∀ q ∈ Value.placesOfEntries (Place.root kind) others, ∀ p ∈ gone, p.keys ≠ q.keys)
    {fields further : OutlineFields} (hfields : ofRoot? ctx kind others = some fields)
    (hfurther : ofRoot? ctx kind entries = some further) :
    FieldsGrow ((Place.root kind).keeps gone) fields further := by
  obtain ⟨os, hos, hfields⟩ := Option.bind_eq_some_iff.mp hfields
  obtain ⟨more, hmore, hfurther⟩ := Option.bind_eq_some_iff.mp hfurther
  have hgrow : OccurrencesGrow _ os more :=
    occurrences?_grow hnew entries h ⟨fun _ hp => hp, hleft⟩ hos hmore
  have hown :=
    ExtendsByKey.filter (fun key => !reservedKeys.contains key) (fun _ _ h => h.key) hgrow
  exact OccurrencesGrow.fields hown hfields hfurther

end Outline

/-! ## What the resource is -/

namespace Schema

variable {kind : String} {gone : List Place} {entries others : List (Value × Value)}

/-- **The kind of the resource is the same**, if it is not deleted. -/
theorem kindOf_thinned (h : Value.ThinnedEntries (Place.root kind) gone entries others)
    (hkept : (Place.root kind).key "kind" ∉ gone) : kindOf entries = kindOf others := by
  have hvalue := h.valueOfKey? hkept
  unfold kindOf
  generalize valueOfKey? "kind" entries = x, valueOfKey? "kind" others = y at hvalue ⊢
  cases hvalue with
  | none => rfl
  | some hvalue =>
    obtain ⟨own, hvalue⟩ := hvalue
    rw [Option.map_some, Option.map_some]
    rcases hvalue.untagged_cases with h | ⟨_, _, hv, hw⟩ | ⟨_, _, hv, hw⟩
    · rw [h]
    · rw [hv, hw]
    · rw [hv, hw]

/-- **The group and the version of the resource are the same**, if they are not deleted. -/
theorem apiVersionOf_thinned (h : Value.ThinnedEntries (Place.root kind) gone entries others)
    (hkept : (Place.root kind).key "apiVersion" ∉ gone) :
    apiVersionOf entries = apiVersionOf others := by
  have hvalue := h.valueOfKey? hkept
  unfold apiVersionOf
  generalize valueOfKey? "apiVersion" entries = x, valueOfKey? "apiVersion" others = y
    at hvalue ⊢
  cases hvalue with
  | none => rfl
  | some hvalue =>
    obtain ⟨own, hvalue⟩ := hvalue
    rw [Option.map_some, Option.map_some]
    rcases hvalue.untagged_cases with h | ⟨_, _, hv, hw⟩ | ⟨_, _, hv, hw⟩
    · rw [h]
    · rw [hv, hw]
      rfl
    · rw [hv, hw]
      rfl

end Schema
end ChartSchema
