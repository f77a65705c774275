import ChartSchema.Proofs.Schema.Reordering
import ChartSchema.Proofs.Schema.StructFields
/-!
# Names that do not depend on what was named before

The walk gives names one by one, and what a struct gets may depend on the names in use. Its
**target** does not: it is the name that its key derives if no other struct derives the same, and
otherwise that name behind the identifier of the key above. If the targets are all different and
none is the kind, every struct is named by its target (`Schema.hasTargetNames_of_suffice`). What
carries the induction is that the names in use are the kind and the targets of the sites before.

Targets are read off the sites of a document, without regard to their order. So the structs of a
document whose keys are put in another order get the same names at the same places, as long as the
sites are the same. They are not if an item of a list has two keys with one text, as `1` and `"1"`:
the first of them decides what the field is, and the structs of the other are not made.
-/

namespace ChartSchema

open Yaml (Value)

/-! ## Targets -/

namespace Schema

/-- **The target of a field that refers to a struct**: the name that its key derives if no other
such field derives the same, and otherwise the same behind the identifier of the key above. -/
def targetName (schema : Schema) (options : BuildOptions) (p : Struct × Field) : String :=
  let derived := structName options p.2.sourceKey
  if schema.structFields.countP (fun q => structName options q.2.sourceKey == derived) ≤ 1 then
    derived
  else identifier (schema.keyAbove p.1) ++ derived

/-- **Prefixes suffice**: the targets are different from each other and from the kind. -/
def PrefixesSuffice (schema : Schema) (options : BuildOptions) : Prop :=
  (schema.kind :: schema.structFields.map (schema.targetName options)).Nodup

instance (schema : Schema) (options : BuildOptions) :
    Decidable (schema.PrefixesSuffice options) :=
  inferInstanceAs (Decidable (List.Nodup _))

/-- **Every struct but the resource is named by its target.** -/
structure HasTargetNames (schema : Schema) (options : BuildOptions) : Prop where
  /-- A field refers to the struct that has its target as a name. -/
  struct?_eq : ∀ p ∈ schema.structFields, p.2.struct? = some (schema.targetName options p)
  /-- The name of a struct is the target of a field that refers to it. -/
  name_eq : ∀ t ∈ schema.structs.tail, ∃ p ∈ schema.structFields,
    p.2.struct? = some t.name ∧ t.name = schema.targetName options p

/-- **Two schemas name the structs at each place alike**: what the same keys lead to has the same
name. -/
def NamedAlike (schema other : Schema) : Prop :=
  ∀ keys name, (∃ s, schema.IsAt keys s ∧ s.name = name) ↔ ∃ s, other.IsAt keys s ∧ s.name = name

end Schema

namespace Site

variable {options : BuildOptions}

/-- The target of a site where some names are shared. -/
def target (options : BuildOptions) (shared : List String) (site : Site) : String :=
  if site.wanted options ∈ shared then identifier site.parent ++ site.wanted options
  else site.wanted options

/-- The names that several of some sites want. -/
def shared (options : BuildOptions) (sites : List Site) : List String :=
  Census.shared (sites.map (wanted options))

theorem mem_shared {sites : List Site} {name : String} :
    name ∈ shared options sites ↔ 1 < (sites.map (wanted options)).count name := by
  rw [shared, Census.shared, List.mem_filter, decide_eq_true_eq]
  exact ⟨fun h => h.2, fun h => ⟨List.count_pos_iff.mp (by omega), h⟩⟩

/-- The order of sites does not matter to their targets. -/
theorem target_perm {sites others : List Site} (h : sites.Perm others) :
    target options (shared options sites) = target options (shared options others) := by
  funext site
  have hshared : site.wanted options ∈ shared options sites ↔
      site.wanted options ∈ shared options others := by
    rw [mem_shared, mem_shared, (h.map _).count_eq]
  simp only [target, hshared]

end Site

/-! ## The registry gives targets -/

namespace NameRegistry

variable {options : BuildOptions}

/-- A target that is not in use is given. -/
theorem freshName_eq_target {registry : NameRegistry} {site : Site}
    (hfree : site.target options registry.shared ∉ registry.reserved) :
    registry.freshName (structName options site.key) site.parent =
      site.target options registry.shared := by
  unfold Site.target Site.wanted at hfree ⊢
  have hshared : registry.shared.contains (structName options site.key) = true ↔
      structName options site.key ∈ registry.shared := List.contains_iff_mem
  simp only [freshName]
  split at hfree
  · next hmem =>
    have hreserved : registry.isReserved (identifier site.parent ++ structName options site.key) =
        false := Bool.eq_false_iff.mpr (mt isReserved_iff.mp hfree)
    rw [if_pos hmem, hshared.mpr hmem, hreserved]
    rfl
  · next hmem =>
    have hreserved : registry.isReserved (structName options site.key) = false :=
      Bool.eq_false_iff.mpr (mt isReserved_iff.mp hfree)
    rw [if_neg hmem, Bool.eq_false_iff.mpr (mt hshared.mp hmem), hreserved]
    rfl

/-- **Targets that differ from each other and from the names in use are given to all sites.** No
site has to give way to another one then, in whatever order they come. -/
theorem give_eq_targets {registry : NameRegistry} {sites : List Site}
    (hfree : (registry.reserved ++ sites.map (Site.target options registry.shared)).Nodup) :
    (registry.give options sites).1 = sites.map (Site.target options registry.shared) := by
  induction sites generalizing registry with
  | nil => rfl
  | cons site rest ih =>
    rw [List.map_cons] at hfree
    have hsite : site.target options registry.shared ∉ registry.reserved := fun hmem =>
      (List.nodup_append.mp hfree).2.2 _ hmem _ List.mem_cons_self rfl
    have hname : (registry.uniqueName options site.key site.parent).1 =
        site.target options registry.shared := freshName_eq_target hsite
    -- The target is in use from here on, and the names that are shared stay the same.
    have hrest := @ih (registry.uniqueName options site.key site.parent).2 (by
      rw [reserved_uniqueName, hname]
      exact List.perm_middle.nodup_iff.mp hfree)
    rw [give_cons, hname, hrest]
    rfl

end NameRegistry

namespace Schema

variable {schema : Schema} {ctx : DocumentContext} {v w : Value}

/-- **The target of a site is that of the field that it is linked to.** It depends on the key, on
the key above, and on whether another site derives the same name, and the schema knows all three. -/
theorem Linked.target_eq {structs : List Struct} {sites : List Site} {link : Link}
    (h : schema.IsStructTree) (hlinked : Linked schema schema.structFields structs sites)
    (hlink : link.Holds schema) (options : BuildOptions) :
    link.site.target options (Site.shared options sites) =
      schema.targetName options (link.holder, link.field) := by
  have hparent : link.site.parent = schema.keyAbove link.holder :=
    (h.keyAbove_eq hlink.isAt _).symm
  have hshared := @Site.mem_shared options sites (link.site.wanted options)
  rw [hlinked.count_wanted] at hshared
  unfold Site.target targetName
  dsimp only
  rw [hparent, show structName options link.field.sourceKey = link.site.wanted options from
    congrArg (structName options) hlink.sourceKey]
  split_ifs with hmem hfew hfew
  · exact absurd hfew (Nat.not_le.mpr (hshared.mp hmem))
  · rfl
  · rfl
  · exact absurd (hshared.mpr (Nat.not_le.mp hfew)) hmem

/-- Prefixes suffice if the targets of the sites are different from each other and from the
kind. -/
theorem PrefixesSuffice.targets_nodup {structs : List Struct} {sites : List Site}
    {options : BuildOptions} (h : schema.IsStructTree)
    (hlinked : Linked schema schema.structFields structs sites)
    (hsuffice : schema.PrefixesSuffice options) :
    (schema.kind :: sites.map (Site.target options (Site.shared options sites))).Nodup := by
  obtain ⟨links, hpairs, -, hsites, hlinks⟩ := id hlinked
  have htargets : sites.map (Site.target options (Site.shared options sites)) =
      (links.map fun l => (l.holder, l.field)).map (schema.targetName options) := by
    rw [← hsites, List.map_map, List.map_map, hsites]
    exact List.map_congr_left fun l hl => hlinked.target_eq h (hlinks l hl) options
  rw [htargets]
  exact ((hpairs.map _).cons _).nodup_iff.mpr hsuffice

/-- **The structs have the targets of their sites as names.** -/
theorem names_eq_targets {sites : List Site} {r' : NameRegistry} {options : BuildOptions}
    {structs : List Struct} {kind : String}
    (hnames : NameRegistry.Gives options ⟨[kind], Site.shared options sites⟩ sites structs r')
    (hnodup : (kind :: sites.map (Site.target options (Site.shared options sites))).Nodup) :
    structs.map (·.name) = sites.map (Site.target options (Site.shared options sites)) := by
  have hgiven := @NameRegistry.give_eq_targets options ⟨[kind], Site.shared options sites⟩ sites
    hnodup
  rwa [show NameRegistry.give _ _ _ = _ from hnames] at hgiven

/-- Structs that have the targets of the sites as names have those of the sites that they are
linked to. -/
theorem Linked.exists_named {pairs : List (Struct × Field)} {structs : List Struct}
    {sites : List Site} {target : Site → String} (hlinked : Linked schema pairs structs sites)
    (hnames : structs.map (·.name) = sites.map target) :
    ∃ links : List Link, (links.map fun l => (l.holder, l.field)).Perm pairs ∧
      links.map (·.struct) = structs ∧ links.map (·.site) = sites ∧
        ∀ l ∈ links, l.Holds schema ∧ l.struct.name = target l.site := by
  obtain ⟨links, hpairs, rfl, rfl, hlinks⟩ := hlinked
  rw [List.map_map, List.map_map] at hnames
  exact ⟨links, hpairs, rfl, rfl, fun l hl => ⟨hlinks l hl, List.map_inj_left.mp hnames l hl⟩⟩

/-- The names of structs are the targets of the fields that refer to them, if they are the targets
of the sites. -/
theorem Linked.hasTargetNames {sites : List Site} {options : BuildOptions}
    (h : schema.IsStructTree)
    (hlinked : Linked schema schema.structFields schema.structs.tail sites)
    (hnames : schema.structs.tail.map (·.name) =
      sites.map (Site.target options (Site.shared options sites))) :
    schema.HasTargetNames options := by
  obtain ⟨links, hpairs, hstructs, -, hlinks⟩ := hlinked.exists_named hnames
  have hname : ∀ l ∈ links, l.struct.name = schema.targetName options (l.holder, l.field) :=
    fun l hl => (hlinks l hl).2.trans (hlinked.target_eq h (hlinks l hl).1 options)
  refine ⟨fun p hp => ?_, fun t ht => ?_⟩
  · obtain ⟨l, hl, rfl⟩ := List.mem_map.mp (hpairs.mem_iff.mpr hp)
    rw [← hname l hl]
    exact (hlinks l hl).1.struct?
  · rw [← hstructs] at ht
    obtain ⟨l, hl, rfl⟩ := List.mem_map.mp ht
    exact ⟨_, (hlinks l hl).1.mem_structFields, (hlinks l hl).1.struct?, hname l hl⟩

/-! ## Names by place -/

/-- **Where the structs with their names stand**: the resource at its kind, and the others at the
sites, if their names are the targets. -/
theorem Linked.isAt_iff {sites : List Site} {target : Site → String} (h : schema.IsStructTree)
    (hlinked : Linked schema schema.structFields schema.structs.tail sites)
    (hnames : schema.structs.tail.map (·.name) = sites.map target) (keys : List String)
    (name : String) :
    (∃ s, schema.IsAt keys s ∧ s.name = name) ↔
      (keys = [schema.kind] ∧ name = schema.kind) ∨
        ∃ site ∈ sites, keys = site.keys ∧ name = target site := by
  obtain ⟨links, hpairs, -, hsites, hlinks⟩ := hlinked.exists_named hnames
  rw [← hsites]
  constructor
  · rintro ⟨s, hs, rfl⟩
    cases hs with
    | root hhead => exact Or.inl ⟨rfl, h.name_of_head? hhead⟩
    | @field above holder _ f hholder hf hstruct _ =>
      obtain ⟨l, hl, hpair⟩ := List.mem_map.mp (hpairs.mem_iff.mpr
        (IsStructTree.mem_structFields_of_isAt hholder hf hstruct))
      cases hpair
      -- The site is at the keys that lead to the holder, and there is only one list of those.
      obtain ⟨hholds, hname⟩ := hlinks l hl
      have habove : above = l.site.above := h.isAt_unique hholder hholds.isAt
      refine Or.inr ⟨l.site, List.mem_map_of_mem hl, ?_, ?_⟩
      · rw [habove, hholds.sourceKey]
        rfl
      · exact (Option.some.inj (hstruct.symm.trans hholds.struct?)).trans hname
  · rintro (⟨rfl, rfl⟩ | ⟨site, hsite, rfl, rfl⟩)
    · obtain ⟨s, hs, hkind⟩ := Option.map_eq_some_iff.mp h.head_name
      exact ⟨s, .root hs, hkind⟩
    · obtain ⟨l, hl, rfl⟩ := List.mem_map.mp hsite
      exact ⟨l.struct, (hlinks l hl).1.isAt_struct, (hlinks l hl).2⟩

end Schema

/-! ## Sites of reordered documents -/

namespace Yaml.Value

/-- Whether the keys of a value have different texts, if it is a mapping. -/
def hasDistinctKeyTexts (v : Value) : Bool :=
  match v.untagged with
  | .mapping entries => decide (keyTexts entries).Nodup
  | _ => true

mutual

/-- **Whether no item of a list has two keys with one text**, at any depth. -/
def itemsHaveDistinctTexts (v : Value) : Bool :=
  match v with
  | .tagged _ inner => inner.itemsHaveDistinctTexts
  | .sequence items => distinctTextsOfItems items
  | .mapping entries => distinctTextsBelow entries
  | _ => true
termination_by structural v

/-- Whether none of these items, nor an item of a list below them, has two keys with one text. -/
def distinctTextsOfItems (items : List Value) : Bool :=
  match items with
  | [] => true
  | item :: rest =>
    item.hasDistinctKeyTexts && item.itemsHaveDistinctTexts && distinctTextsOfItems rest
termination_by structural items

/-- Whether no item of a list in the values of entries has two keys with one text. -/
def distinctTextsBelow (entries : List (Value × Value)) : Bool :=
  match entries with
  | [] => true
  | (_, v) :: rest => v.itemsHaveDistinctTexts && distinctTextsBelow rest
termination_by structural entries

end

theorem itemsHaveDistinctTexts_untagged (v : Value) :
    v.untagged.itemsHaveDistinctTexts = v.itemsHaveDistinctTexts := by
  match v with
  | .tagged _ inner => exact itemsHaveDistinctTexts_untagged inner
  | .null | .bool _ | .number _ | .string _ | .sequence _ | .mapping _ => rfl

end Yaml.Value

namespace Site

variable (ctx : DocumentContext) (place : Place)

theorem ofEntries_eq_flatMap (skipped : String → Bool) (entries : List (Value × Value)) :
    ofEntries ctx place skipped entries =
      entries.flatMap fun entry => ofEntries ctx place skipped [entry] := by
  induction entries with
  | nil => rfl
  | cons entry rest ih =>
    obtain ⟨k, v⟩ := entry
    rw [List.flatMap_cons, ← ih]
    rw [ofEntries, ofEntries, ofEntries, List.append_nil]

/-- Entries in another order have the same sites below them. -/
theorem ofEntries_perm (skipped : String → Bool) {entries moved : List (Value × Value)}
    (h : entries.Perm moved) :
    (ofEntries ctx place skipped entries).Perm (ofEntries ctx place skipped moved) := by
  rw [ofEntries_eq_flatMap, ofEntries_eq_flatMap ctx place skipped moved]
  exact h.flatMap_right _

/-- Only the keys that occur matter for which are left out. -/
theorem ofEntries_congr {skipped others : String → Bool} {entries : List (Value × Value)}
    (h : ∀ key ∈ keyTexts entries, skipped key = others key) :
    ofEntries ctx place skipped entries = ofEntries ctx place others entries := by
  induction entries with
  | nil => rfl
  | cons entry rest ih =>
    obtain ⟨k, v⟩ := entry
    rw [keyTexts, List.filterMap_cons] at h
    rw [ofEntries, ofEntries]
    cases hkey : keyText? k with
    | none =>
      rw [hkey] at h
      rw [ih h]
    | some key =>
      rw [hkey] at h
      dsimp only
      rw [ih fun other hother => h other (List.mem_cons_of_mem key hother),
        h key List.mem_cons_self]

/-- If the keys of entries are different, none of them is seen because of another. -/
theorem ofNewEntries_eq (seen : List String) {entries : List (Value × Value)}
    (hkeys : (keyTexts entries).Nodup) :
    (ofNewEntries ctx place seen entries).1 = ofEntries ctx place seen.contains entries := by
  induction entries generalizing seen with
  | nil => rfl
  | cons entry rest ih =>
    obtain ⟨k, v⟩ := entry
    rw [keyTexts, List.filterMap_cons] at hkeys
    cases hkey : keyText? k with
    | none =>
      rw [hkey] at hkeys
      rw [ofNewEntries, ofEntries, hkey]
      exact ih seen hkeys
    | some key =>
      rw [hkey] at hkeys
      obtain ⟨hother, hrest⟩ := List.nodup_cons.mp hkeys
      rw [ofEntries_cons ctx place hkey]
      by_cases hseen : key ∈ seen
      · rw [ofNewEntries_seen ctx place hkey hseen, if_pos (List.contains_iff_mem.mpr hseen)]
        exact ih seen hrest
      · rw [ofNewEntries_new ctx place hkey hseen, if_neg (mt List.contains_iff_mem.mp hseen),
          ih (key :: seen) hrest]
        -- The keys behind this one differ from it, so having seen it changes nothing for them.
        refine congrArg _ (ofEntries_congr ctx place fun text htext => ?_)
        rw [List.contains_cons, beq_false_of_ne (ne_of_mem_of_not_mem htext hother),
          Bool.false_or]

theorem mem_seen_ofNewEntries (seen : List String) (entries : List (Value × Value))
    (key : String) :
    key ∈ (ofNewEntries ctx place seen entries).2 ↔ key ∈ seen ∨ key ∈ keyTexts entries := by
  induction entries generalizing seen with
  | nil => exact (or_iff_left List.not_mem_nil).symm
  | cons entry rest ih =>
    obtain ⟨k, v⟩ := entry
    rw [keyTexts, List.filterMap_cons]
    cases hkey : keyText? k with
    | none =>
      rw [ofNewEntries, hkey]
      exact ih seen
    | some text =>
      dsimp only
      rw [List.mem_cons]
      by_cases hseen : text ∈ seen
      · rw [ofNewEntries_seen ctx place hkey hseen, ih]
        refine ⟨fun h => h.imp_right Or.inr, ?_⟩
        rintro (h | rfl | h)
        · exact Or.inl h
        · exact Or.inl hseen
        · exact Or.inr h
      · rw [ofNewEntries_new ctx place hkey hseen, ih, List.mem_cons]
        exact or_assoc.trans or_left_comm

mutual

/-- **A reordered value has the same sites**, perhaps in another order. The induction is that over
the value. -/
theorem ofValue_reordered (v : Value) {w : Value} (h : v.Reordered w)
    (hkeys : v.itemsHaveDistinctTexts = true) (key : String) (place : Place) :
    (ofValue ctx key place v).Perm (ofValue ctx key place w) := by
  match v with
  | .tagged tag inner =>
    cases h with
    | scalar h => exact nomatch h
    | tagged h =>
      rw [ofValue, ofValue]
      exact ofValue_reordered inner h hkeys key place
  | .mapping entries =>
    cases h with
    | scalar h => exact nomatch h
    | @mapping _ others moved h hperm =>
      have hempty : entries.isEmpty = moved.isEmpty := h.isEmpty_eq.trans hperm.isEmpty_eq
      rw [ofValue, ofValue, ← hempty]
      split
      · exact .refl _
      · exact .cons _ ((ofEntries_reordered entries h hkeys place _).trans
          (ofEntries_perm ctx place _ hperm))
  | .sequence items =>
    cases h with
    | scalar h => exact nomatch h
    | @sequence _ others h =>
      rw [ofValue, ofValue, ← Walk.startsWithMapping_eq h.head?_looksLike]
      split
      · exact .cons _ (ofItems_reordered items h hkeys place 0 fun _ => Iff.rfl)
      · exact .refl _
  | .null | .bool _ | .number _ | .string _ =>
    cases h
    exact .refl _
termination_by structural v

theorem ofEntries_reordered (entries : List (Value × Value)) {others : List (Value × Value)}
    (h : Value.ReorderedEntries entries others) (hkeys : Value.distinctTextsBelow entries = true)
    (place : Place) (skipped : String → Bool) :
    (ofEntries ctx place skipped entries).Perm (ofEntries ctx place skipped others) := by
  match entries with
  | [] =>
    cases h
    exact .refl _
  | (k, v) :: rest =>
    cases h with
    | cons hkey hv hrest =>
      obtain ⟨hown, hothers⟩ := Bool.and_eq_true_iff.mp hkeys
      rw [ofEntries, ofEntries, ← hkey.keyText?_eq]
      refine List.Perm.append ?_ (ofEntries_reordered rest hrest hothers place skipped)
      cases keyText? k with
      | none => exact .refl _
      | some key =>
        dsimp only
        split
        · exact .refl _
        · exact ofValue_reordered v hv hown key (place.key key)
termination_by structural entries

theorem ofItems_reordered (items : List Value) {others : List Value}
    (h : Value.ReorderedItems items others) (hkeys : Value.distinctTextsOfItems items = true)
    (place : Place) (position : Nat) {seen seen' : List String}
    (hseen : ∀ key, key ∈ seen ↔ key ∈ seen') :
    (ofItems ctx place position seen items).1.Perm (ofItems ctx place position seen' others).1 := by
  match items with
  | [] =>
    cases h
    exact .refl _
  | item :: rest =>
    cases h with
    | cons hitem hrest =>
      obtain ⟨hown, hothers⟩ := Bool.and_eq_true_iff.mp hkeys
      obtain ⟨hdistinct, hbelow⟩ := Bool.and_eq_true_iff.mp hown
      obtain ⟨hsites, hseen⟩ :=
        ofItem_reordered item hitem hdistinct hbelow (place.index position) hseen
      rw [ofItems, ofItems]
      exact hsites.append (ofItems_reordered rest hrest hothers place (position + 1) hseen)
termination_by structural items

theorem ofItem_reordered (item : Value) {other : Value} (h : item.Reordered other)
    (hdistinct : item.hasDistinctKeyTexts = true) (hkeys : item.itemsHaveDistinctTexts = true)
    (place : Place) {seen seen' : List String} (hseen : ∀ key, key ∈ seen ↔ key ∈ seen') :
    (ofItem ctx place seen item).1.Perm (ofItem ctx place seen' other).1 ∧
      ∀ key, key ∈ (ofItem ctx place seen item).2 ↔ key ∈ (ofItem ctx place seen' other).2 := by
  match item with
  | .tagged tag inner =>
    cases h with
    | scalar h => exact nomatch h
    | tagged h =>
      rw [ofItem, ofItem]
      exact ofItem_reordered inner h hdistinct hkeys place hseen
  | .mapping entries =>
    cases h with
    | scalar h => exact nomatch h
    | @mapping _ others moved h hperm =>
      have hnodup : (keyTexts entries).Nodup := of_decide_eq_true hdistinct
      have htexts : (keyTexts entries).Perm (keyTexts moved) :=
        h.keyTexts_eq ▸ hperm.filterMap _
      -- Which keys were seen before does not depend on the order in which they were.
      have hskipped : seen.contains = seen'.contains := by
        funext key
        rw [Bool.eq_iff_iff, List.contains_iff_mem, List.contains_iff_mem, hseen]
      rw [ofItem, ofItem]
      refine ⟨?_, fun key => ?_⟩
      · rw [ofNewEntries_eq ctx place seen hnodup,
          ofNewEntries_eq ctx place seen' (htexts.nodup_iff.mp hnodup), hskipped]
        exact (ofEntries_reordered entries h hkeys place _).trans
          (ofEntries_perm ctx place _ hperm)
      · rw [mem_seen_ofNewEntries, mem_seen_ofNewEntries, hseen, htexts.mem_iff]
  | .sequence items =>
    cases h with
    | scalar h => exact nomatch h
    | sequence h => exact ⟨.refl _, hseen⟩
  | .null | .bool _ | .number _ | .string _ =>
    cases h
    exact ⟨.refl _, hseen⟩
termination_by structural item

end

/-- **A reordered resource has the same sites**, perhaps in another order. -/
theorem ofRoot_reordered {entries others moved : List (Value × Value)}
    (h : Value.ReorderedEntries entries others) (hperm : others.Perm moved)
    (hkeys : Value.distinctTextsBelow entries = true) (kind : String) :
    (ofRoot ctx kind entries).Perm (ofRoot ctx kind moved) :=
  (ofEntries_reordered ctx entries h hkeys (Place.root kind) _).trans
    (ofEntries_perm ctx (Place.root kind) _ hperm)

end Site

namespace Schema

variable {schema : Schema} {ctx : DocumentContext} {v : Value}

/-- The text of a key that is one. -/
def textKey? : Value → Option String
  | .string key => some key
  | _ => none

theorem textKey?_eq_some {k : Value} {text : String} :
    textKey? k = some text ↔ k = .string text := by
  cases k <;> simp [textKey?]

/-- If no key occurs twice, none of those that are texts does. -/
theorem textKeys_nodup {root : List (Value × Value)} (h : (root.map (·.1)).Nodup) :
    ((textEntries root).map (·.1)).Nodup := by
  have hkeys : (textEntries root).map (·.1) = (root.map (·.1)).filterMap textKey? := by
    rw [textEntries, List.map_filterMap, List.filterMap_map]
    refine List.filterMap_congr fun entry _ => ?_
    obtain ⟨k, v⟩ := entry
    cases k <;> rfl
  rw [hkeys]
  exact h.filterMap fun _ _ _ ha hb =>
    (textKey?_eq_some.mp ha).trans (textKey?_eq_some.mp hb).symm

/-- **Where the structs of a document stand, and how they are called**, if the targets of its sites
are different from each other and from the kind. -/
theorem isAt_iff_of_ofValue (h : ofValue ctx v = .ok schema) {root : List (Value × Value)}
    (hroot : v.untagged = .mapping root)
    (hnodup : (schema.kind :: (Site.ofRoot ctx schema.kind root).map (Site.target ctx.options
      (Site.shared ctx.options (Site.ofRoot ctx schema.kind root)))).Nodup)
    (keys : List String) (name : String) :
    (∃ s, schema.IsAt keys s ∧ s.name = name) ↔
      (keys = [schema.kind] ∧ name = schema.kind) ∨
        ∃ site ∈ Site.ofRoot ctx schema.kind root, keys = site.keys ∧ name = site.target ctx.options
          (Site.shared ctx.options (Site.ofRoot ctx schema.kind root)) := by
  obtain ⟨hnames, horder⟩ := ofValue_structs h
  obtain ⟨root', r', hroot', -, hlinked, hgives⟩ := exists_linked h
  cases hroot.symm.trans hroot'
  rw [Census.ofRoot_eq] at hgives
  exact hlinked.isAt_iff (isStructTree_of_inOrder hnames horder) (names_eq_targets hgives hnodup)
    keys name

/-- **Structs are named by their targets if prefixes suffice.** If the targets of a schema are
different from each other and from the kind, every struct but the resource has its target as a
name. The same keys then lead to structs of the same names in the schema of any reordered document,
as long as no item of a list has two keys with one text. -/
theorem hasTargetNames_of_suffice (h : ofValue ctx v = .ok schema)
    (hsuffice : schema.PrefixesSuffice ctx.options) :
    schema.HasTargetNames ctx.options ∧
      ∀ w other, v.Reordered w → (∀ root, v.untagged = .mapping root → (root.map (·.1)).Nodup) →
        v.itemsHaveDistinctTexts = true → ofValue ctx w = .ok other → schema.NamedAlike other := by
  obtain ⟨hnames, horder⟩ := ofValue_structs h
  have htree := isStructTree_of_inOrder hnames horder
  obtain ⟨root, r', hroot, hkind, hlinked, hgives⟩ := exists_linked h
  have hnodup := hsuffice.targets_nodup htree hlinked
  refine ⟨?_, fun w other hreordered hkeys hitems hother keys name => ?_⟩
  · rw [Census.ofRoot_eq] at hgives
    exact hlinked.hasTargetNames htree (names_eq_targets hgives hnodup)
  · obtain ⟨moved, _, hmoved, hkind', -, -⟩ := exists_linked hother
    have huntagged := hreordered.untagged
    rw [← Value.itemsHaveDistinctTexts_untagged, hroot] at hitems
    rw [hroot, hmoved] at huntagged
    cases huntagged with
    | scalar hscalar => exact nomatch hscalar
    | mapping hentries hperm =>
      -- The kinds are the same, and the sites are, but for their order.
      have hsame : schema.kind = other.kind := Except.ok.inj (hkind.symm.trans
        ((kindOf_reordered hentries hperm (textKeys_nodup (hkeys root hroot))).trans hkind'))
      have hsites := Site.ofRoot_reordered ctx hentries hperm hitems schema.kind
      have htargets := @Site.target_perm ctx.options _ _ hsites
      rw [isAt_iff_of_ofValue h hroot hnodup, isAt_iff_of_ofValue hother hmoved, ← hsame,
        ← htargets]
      · refine or_congr_right (exists_congr fun site => and_congr_left fun _ => ?_)
        exact hsites.mem_iff
      · rw [← hsame, ← htargets]
        exact ((hsites.map _).cons _).nodup_iff.mp hnodup

/-- A document with two ports, one below a mapping and one below the items of a list. -/
def listeners : Value :=
  .mapping [(.string "kind", .string "Demo"),
    (.string "http", .mapping [(.string "port", .mapping [(.string "number", .number (.int 80))])]),
    (.string "admin", .sequence
      [.mapping [(.string "name", .string "local"),
        (.string "port", .mapping [(.string "number", .number (.int 81))])]])]

/-- The same with the list in front, and its port in front of the name. -/
def movedListeners : Value :=
  .mapping [(.string "admin", .sequence
      [.mapping [(.string "port", .mapping [(.string "number", .number (.int 81))]),
        (.string "name", .string "local")]]),
    (.string "http", .mapping [(.string "port", .mapping [(.string "number", .number (.int 80))])]),
    (.string "kind", .string "Demo")]

/-- The structs of the listeners are made in another order, and each keeps its name. -/
theorem hasTargetNames_of_suffice_listeners :
    ∃ schema other, ofValue ⟨{}, {}⟩ listeners = .ok schema ∧
      ofValue ⟨{}, {}⟩ movedListeners = .ok other ∧
      schema.structs.map (·.name) =
        ["Demo", "HttpSpec", "HttpPortSpec", "AdminSpec", "AdminPortSpec"] ∧
      other.structs.map (·.name) =
        ["Demo", "AdminSpec", "AdminPortSpec", "HttpSpec", "HttpPortSpec"] ∧
      schema.HasTargetNames {} ∧ schema.NamedAlike other := by
  have hreordered : listeners.Reordered movedListeners := by
    have hport (n : Int) : (Value.mapping [(.string "number", .number (.int n))]).Reordered
        (.mapping [(.string "number", .number (.int n))]) :=
      .mapping (.cons (.scalar rfl) (.scalar rfl) .nil) (.refl _)
    refine .mapping (.cons (.scalar rfl) (.scalar rfl) (.cons (.scalar rfl) ?_
      (.cons (.scalar rfl) ?_ .nil))) (List.reverse_perm [_, _, _]).symm
    · exact .mapping (.cons (.scalar rfl) (hport 80) .nil) (.refl _)
    · exact .sequence (.cons (.mapping (.cons (.scalar rfl) (.scalar rfl)
        (.cons (.scalar rfl) (hport 81) .nil)) (.swap _ _ _)) .nil)
  obtain ⟨schema, h, hnames, hsuffice⟩ : ∃ schema, ofValue ⟨{}, {}⟩ listeners = .ok schema ∧
      schema.structs.map (·.name) =
        ["Demo", "HttpSpec", "HttpPortSpec", "AdminSpec", "AdminPortSpec"] ∧
      schema.PrefixesSuffice {} := ⟨_, rfl, by decide +kernel, by decide +kernel⟩
  obtain ⟨other, hother, hnames'⟩ : ∃ other, ofValue ⟨{}, {}⟩ movedListeners = .ok other ∧
      other.structs.map (·.name) =
        ["Demo", "AdminSpec", "AdminPortSpec", "HttpSpec", "HttpPortSpec"] :=
    ⟨_, rfl, by decide +kernel⟩
  obtain ⟨htargets, halike⟩ := hasTargetNames_of_suffice h hsuffice
  refine ⟨schema, other, h, hother, hnames, hnames', htargets, ?_⟩
  refine halike _ _ hreordered (fun root hroot => ?_) (by decide +kernel) hother
  cases hroot
  refine List.Nodup.of_map (fun k => textKey? k) ?_
  decide +kernel

/-- A document with this item in a list, and with a struct for the key `1` elsewhere. -/
def mixedKeys (item : List (Value × Value)) : Value :=
  .mapping [(.string "kind", .string "Demo"), (.string "items", .sequence [.mapping item]),
    (.string "other", .mapping [(.string "1", .mapping [(.string "c", .string "d")])])]

/-- A number as a key with a text below it. -/
def numberKey : Value × Value := (.number (.int 1), .string "x")

/-- The text of the number as a key with a mapping below it. -/
def numeralKey : Value × Value := (.string "1", .mapping [(.string "a", .string "b")])

/-- **An item with two keys of one text names structs elsewhere by their order.** Where the number
comes first its text makes no struct, and the struct below the other `1` has the name to itself.
Where the text comes first both are named with what is above them. -/
theorem name_depends_on_mixedKeys :
    (mixedKeys [numberKey, numeralKey]).Reordered (mixedKeys [numeralKey, numberKey]) ∧
      ∃ schema other, ofValue ⟨{}, {}⟩ (mixedKeys [numberKey, numeralKey]) = .ok schema ∧
        ofValue ⟨{}, {}⟩ (mixedKeys [numeralKey, numberKey]) = .ok other ∧
        schema.PrefixesSuffice {} ∧ other.PrefixesSuffice {} ∧
        ∃ s t, schema.IsAt ["1", "other", "Demo"] s ∧ other.IsAt ["1", "other", "Demo"] t ∧
          s.name = "X1Spec" ∧ t.name = "OtherX1Spec" := by
  have hstruct (key text : String) : (Value.mapping [(.string key, .string text)]).Reordered
      (.mapping [(.string key, .string text)]) :=
    .mapping (.cons (.scalar rfl) (.scalar rfl) .nil) (.refl _)
  refine ⟨?_, ?_⟩
  · refine .mapping (.cons (.scalar rfl) (.scalar rfl) (.cons (.scalar rfl) (.sequence
      (.cons (.mapping ?_ (.swap _ _ _)) .nil)) (.cons (.scalar rfl) ?_ .nil))) (.refl _)
    · exact .cons (.scalar rfl) (.scalar rfl) (.cons (.scalar rfl) (hstruct "a" "b") .nil)
    · exact .mapping (.cons (.scalar rfl) (hstruct "c" "d") .nil) (.refl _)
  · obtain ⟨schema, h, hkind, hsuffice⟩ : ∃ schema,
        ofValue ⟨{}, {}⟩ (mixedKeys [numberKey, numeralKey]) = .ok schema ∧
        schema.kind = "Demo" ∧ schema.PrefixesSuffice {} :=
      ⟨_, rfl, by decide +kernel, by decide +kernel⟩
    obtain ⟨other, hother, hkind', hsuffice'⟩ : ∃ other,
        ofValue ⟨{}, {}⟩ (mixedKeys [numeralKey, numberKey]) = .ok other ∧
        other.kind = "Demo" ∧ other.PrefixesSuffice {} :=
      ⟨_, rfl, by decide +kernel, by decide +kernel⟩
    obtain ⟨s, hs, hname⟩ := (isAt_iff_of_ofValue h rfl (by rw [hkind]; decide +kernel)
      ["1", "other", "Demo"] "X1Spec").mpr (Or.inr ⟨⟨["other", "Demo"], "1"⟩, by
        rw [hkind]; exact ⟨by decide +kernel, rfl, by decide +kernel⟩⟩)
    obtain ⟨t, ht, hname'⟩ := (isAt_iff_of_ofValue hother rfl (by rw [hkind']; decide +kernel)
      ["1", "other", "Demo"] "OtherX1Spec").mpr (Or.inr ⟨⟨["other", "Demo"], "1"⟩, by
        rw [hkind']; exact ⟨by decide +kernel, rfl, by decide +kernel⟩⟩)
    exact ⟨schema, other, h, hother, hsuffice, hsuffice', s, t, hs, ht, hname, hname'⟩

end Schema
end ChartSchema
