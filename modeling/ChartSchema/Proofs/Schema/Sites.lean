import ChartSchema.Proofs.Schema.StructTree
/-!
# Where the structs of a document come from

A struct of a schema comes from a key: from the one below which its mapping stands, or the list
whose items were merged into it. `Site` names such a key by the keys above it, and `Site.ofValue`
lists the sites of a value, each before those below it. A key that occurs again in a list of
mappings is passed over, as it is by the walk and by the census.

Two walks over a document are compared with this list.

* The census lists the names that the sites want, one by one (`Census.ofValue_eq`).
* The walk makes one struct for every site, in the order of the sites, and takes their names from
  the registry one after the other (`Walk.resolve_sited`).

The census looks at the text of a hint and never fails, while the walk looks at comments sorted by
kind and gives up at a key that is no scalar. They agree because a line without content is no hint.
-/

namespace ChartSchema

open Yaml (Value)

/-- **A key of a document whose value makes a struct.** -/
structure Site where
  /-- The keys above it, innermost first, the kind of the resource last. -/
  above : List String
  /-- The key. -/
  key : String
  deriving Repr, DecidableEq

namespace Site

/-- The key above the site. -/
def parent (site : Site) : String := site.above.headD site.key

/-- The keys that lead to the site, its own first. -/
def keys (site : Site) : List String := site.key :: site.above

/-- The name that the struct of the site wants. -/
def wanted (options : BuildOptions) (site : Site) : String := structName options site.key

/-! ## The sites of a document -/

mutual

/-- The sites of the value of a key. -/
def ofValue (ctx : DocumentContext) (key : String) (place : Place) (v : Value) : List Site :=
  match v with
  | .tagged _ inner => ofValue ctx key place inner
  | .mapping entries =>
    if entries.isEmpty && ctx.hasHint place then []
    else ⟨place.keys.tail, key⟩ :: ofEntries ctx place (fun _ => false) entries
  | .sequence items =>
    if startsWithMapping items then
      ⟨place.keys.tail, key⟩ :: (ofItems ctx place 0 [] items).1
    else []
  | _ => []
termination_by structural v

/-- The sites below the entries of a mapping, those of some keys left out. -/
def ofEntries (ctx : DocumentContext) (place : Place) (skipped : String → Bool)
    (entries : List (Value × Value)) : List Site :=
  match entries with
  | [] => []
  | (k, v) :: rest =>
    (match keyText? k with
      | some key => if skipped key then [] else ofValue ctx key (place.key key) v
      | none => []) ++ ofEntries ctx place skipped rest
termination_by structural entries

/-- The sites below the items of a list, and the keys seen after them; `seen` holds the keys of
the items before. -/
def ofItems (ctx : DocumentContext) (place : Place) (position : Nat) (seen : List String)
    (items : List Value) : List Site × List String :=
  match items with
  | [] => ([], seen)
  | item :: rest =>
    let (sites, seen) := ofItem ctx (place.index position) seen item
    let (others, seen) := ofItems ctx place (position + 1) seen rest
    (sites ++ others, seen)
termination_by structural items

/-- The sites below an item of a list, and the keys seen after it. -/
def ofItem (ctx : DocumentContext) (place : Place) (seen : List String) (item : Value) :
    List Site × List String :=
  match item with
  | .tagged _ inner => ofItem ctx place seen inner
  | .mapping entries => ofNewEntries ctx place seen entries
  | _ => ([], seen)
termination_by structural item

/-- The sites below those entries whose key was not seen before. -/
def ofNewEntries (ctx : DocumentContext) (place : Place) (seen : List String)
    (entries : List (Value × Value)) : List Site × List String :=
  match entries with
  | [] => ([], seen)
  | (k, v) :: rest =>
    match keyText? k with
    | none => ofNewEntries ctx place seen rest
    | some key =>
      if seen.contains key then ofNewEntries ctx place seen rest
      else
        let sites := ofValue ctx key (place.key key) v
        let (others, seen) := ofNewEntries ctx place (key :: seen) rest
        (sites ++ others, seen)
termination_by structural entries

end

/-- The sites of a resource of this kind. -/
def ofRoot (ctx : DocumentContext) (kind : String) (root : List (Value × Value)) : List Site :=
  ofEntries ctx (Place.root kind) reservedKeys.contains root

variable (ctx : DocumentContext) (place : Place)

/-- An entry whose key has a text comes before the others. -/
theorem ofEntries_cons {skipped : String → Bool} {k : Value} {key : String}
    (hkey : keyText? k = some key) (v : Value) (rest : List (Value × Value)) :
    ofEntries ctx place skipped ((k, v) :: rest) =
      (if skipped key then [] else ofValue ctx key (place.key key) v) ++
        ofEntries ctx place skipped rest := by
  rw [ofEntries, hkey]

theorem ofNewEntries_seen {seen : List String} {k : Value} {key : String}
    (hkey : keyText? k = some key) (hseen : key ∈ seen) (v : Value)
    (rest : List (Value × Value)) :
    ofNewEntries ctx place seen ((k, v) :: rest) = ofNewEntries ctx place seen rest := by
  rw [ofNewEntries, hkey]
  exact if_pos (List.contains_iff_mem.mpr hseen)

/-- An entry whose key was not seen comes before the others. -/
theorem ofNewEntries_new {seen : List String} {k : Value} {key : String}
    (hkey : keyText? k = some key) (hnew : key ∉ seen) (v : Value)
    (rest : List (Value × Value)) :
    ofNewEntries ctx place seen ((k, v) :: rest) =
      (ofValue ctx key (place.key key) v ++ (ofNewEntries ctx place (key :: seen) rest).1,
        (ofNewEntries ctx place (key :: seen) rest).2) := by
  rw [ofNewEntries, hkey]
  exact if_neg (mt List.contains_iff_mem.mp hnew)

end Site

/-! ## The census lists what the sites want -/

/-- The hint of a block is the first one among the raw lines: what the block leaves out, lines
without content, are no hints. -/
theorem CommentBlock.typeHint_ofLines (tool : String) (raw : List String) :
    (CommentBlock.ofLines tool raw).typeHint = CommentBlock.firstHint? tool raw := by
  unfold CommentBlock.ofLines CommentBlock.firstHint?
  dsimp only
  induction raw with
  | nil => rw [List.map_nil, List.filter_nil, List.findSome?_nil, List.findSome?_nil]
  | cons line rest ih =>
    rw [List.map_cons, List.filter_cons, List.findSome?_cons]
    cases hempty : (Comment.content line).isEmpty with
    | true =>
      have hnone : Comment.hint? tool (Comment.content line) = none := by
        rw [String.isEmpty_iff.mp hempty, Comment.hint?, String.toList_empty, Comment.hintLead,
          Text.after?]
      rw [hnone, Bool.not_true, if_neg Bool.false_ne_true, ih]
    | false =>
      rw [Bool.not_false, if_pos rfl, List.findSome?_cons, ih]

/-- A hint stands above a key if the comments there have one. -/
theorem DocumentContext.hasHint_eq (ctx : DocumentContext) (place : Place) :
    ctx.hasHint place = (ctx.comments place).typeHint.isSome := by
  rw [hasHint, comments, CommentBlock.typeHint_ofLines]

namespace Census

mutual

/-- **The census of a value lists what its sites want**, one by one. Both go through the value in
the same way, so this is an induction with one case for each of its forms. -/
theorem ofValue_eq (ctx : DocumentContext) (key : String) (place : Place) (v : Value) :
    ofValue ctx key place v = (Site.ofValue ctx key place v).map (Site.wanted ctx.options) := by
  match v with
  | .tagged _ inner =>
    rw [ofValue, Site.ofValue]
    exact ofValue_eq ctx key place inner
  | .mapping entries =>
    rw [ofValue, Site.ofValue, ofEntries_eq ctx place entries]
    split <;> rfl
  | .sequence items =>
    rw [ofValue, Site.ofValue, ofItems_eq ctx place 0 [] items]
    split <;> rfl
  | .null | .bool _ | .number _ | .string _ => rfl
termination_by structural v

/-- The census of entries lists what the sites below them want. -/
theorem ofEntries_eq (ctx : DocumentContext) (place : Place) (entries : List (Value × Value)) :
    ofEntries ctx place entries =
      (Site.ofEntries ctx place (fun _ => false) entries).map (Site.wanted ctx.options) := by
  match entries with
  | [] => rfl
  | (k, v) :: rest =>
    rw [ofEntries, Site.ofEntries, List.map_append, ofEntries_eq ctx place rest]
    cases keyText? k with
    | none => rfl
    | some key => exact congrArg (· ++ _) (ofValue_eq ctx key (place.key key) v)
termination_by structural entries

/-- The census of items lists what the sites below them want. -/
theorem ofItems_eq (ctx : DocumentContext) (place : Place) (position : Nat) (seen : List String)
    (items : List Value) :
    ofItems ctx place position seen items =
      (Site.ofItems ctx place position seen items).1.map (Site.wanted ctx.options) := by
  match items with
  | [] => rfl
  | item :: rest =>
    rw [ofItems, Site.ofItems, ofItem_eq ctx (place.index position) seen item]
    dsimp only
    rw [ofItems_eq ctx place (position + 1) _ rest, List.map_append]
termination_by structural items

theorem ofItem_eq (ctx : DocumentContext) (place : Place) (seen : List String) (item : Value) :
    ofItem ctx place seen item =
      ((Site.ofItem ctx place seen item).1.map (Site.wanted ctx.options),
        (Site.ofItem ctx place seen item).2) := by
  match item with
  | .tagged _ inner =>
    rw [ofItem, Site.ofItem]
    exact ofItem_eq ctx place seen inner
  | .mapping entries =>
    rw [ofItem, Site.ofItem]
    exact ofNewEntries_eq ctx place seen entries
  | .null | .bool _ | .number _ | .string _ | .sequence _ => rfl
termination_by structural item

theorem ofNewEntries_eq (ctx : DocumentContext) (place : Place) (seen : List String)
    (entries : List (Value × Value)) :
    ofNewEntries ctx place seen entries =
      ((Site.ofNewEntries ctx place seen entries).1.map (Site.wanted ctx.options),
        (Site.ofNewEntries ctx place seen entries).2) := by
  match entries with
  | [] => rfl
  | (k, v) :: rest =>
    rw [ofNewEntries, Site.ofNewEntries]
    cases keyText? k with
    | none => exact ofNewEntries_eq ctx place seen rest
    | some key =>
      dsimp only
      split
      · exact ofNewEntries_eq ctx place seen rest
      · rw [ofValue_eq ctx key (place.key key) v, ofNewEntries_eq ctx place (key :: seen) rest,
          List.map_append]
termination_by structural entries

end

/-- **The census of a resource lists what its sites want.** -/
theorem ofRoot_eq (ctx : DocumentContext) (kind : String) (root : List (Value × Value)) :
    ofRoot ctx (Place.root kind) root =
      (Site.ofRoot ctx kind root).map (Site.wanted ctx.options) := by
  unfold ofRoot Site.ofRoot
  induction root with
  | nil => rfl
  | cons entry rest ih =>
    obtain ⟨k, v⟩ := entry
    rw [List.flatMap_cons, ih, Site.ofEntries, List.map_append]
    refine congrArg (· ++ _) ?_
    dsimp only
    cases keyText? k with
    | none => rfl
    | some key =>
      dsimp only
      split
      · rfl
      · exact ofValue_eq ctx key ((Place.root kind).key key) v

end Census

/-! ## Structs that stand at sites -/

/-- The key of a field, with its type. -/
def Field.keyedType (f : Field) : String × FieldType := (f.sourceKey, f.type)

/-- The name of the struct that a field refers to, as a single value or as the element of a
list. -/
def Field.struct? (f : Field) : Option String := f.type.base.struct?

theorem FieldType.struct?_base_of_references {type : FieldType} (h : type.references = []) :
    type.base.struct? = none := by
  rw [← references_base] at h
  cases hbase : type.base with
  | struct name => rw [hbase] at h; cases h
  | _ => rfl

mutual

/-- **The structs of a key's type stand at sites**: the struct that the type refers to stands at
the key, before those that its fields refer to. -/
inductive Sited : List String → String → FieldType → List Struct → List Site → Prop
  /-- A type that is no struct. -/
  | leaf {above : List String} {key : String} {type : FieldType} :
    type.base.struct? = none → Sited above key type [] []
  /-- A struct, or a list of them. -/
  | struct {above : List String} {key : String} {type : FieldType} {s : Struct}
      {nested : List Struct} {sites : List Site} :
    type.base.struct? = some s.name →
      SitedFields (key :: above) (s.fields.map (·.keyedType)) nested sites →
        Sited above key type (s :: nested) (⟨above, key⟩ :: sites)

/-- The structs of keys with their types stand at sites, key by key. -/
inductive SitedFields : List String → List (String × FieldType) → List Struct → List Site → Prop
  /-- No keys. -/
  | nil {above : List String} : SitedFields above [] [] []
  /-- A key before others. -/
  | cons {above : List String} {key : String} {type : FieldType}
      {rest : List (String × FieldType)} {own nested : List Struct} {sites others : List Site} :
    Sited above key type own sites → SitedFields above rest nested others →
      SitedFields above ((key, type) :: rest) (own ++ nested) (sites ++ others)

end

namespace SitedFields

variable {above : List String} {fields more : List (String × FieldType)}
  {structs nested : List Struct} {sites others : List Site}

theorem append (h : SitedFields above fields structs sites)
    (h' : SitedFields above more nested others) :
    SitedFields above (fields ++ more) (structs ++ nested) (sites ++ others) := by
  induction fields generalizing structs sites with
  | nil =>
    cases h
    exact h'
  | cons field rest ih =>
    cases h with
    | cons hown hrest =>
      rw [List.cons_append, List.append_assoc, List.append_assoc]
      exact .cons hown (ih hrest)

theorem single {key : String} {type : FieldType} (h : Sited above key type structs sites) :
    SitedFields above [(key, type)] structs sites := by
  have hcons := cons h .nil
  rwa [List.append_nil, List.append_nil] at hcons

end SitedFields

/-! ## Names given to sites -/

namespace NameRegistry

/-- The names that the structs of sites get, one after the other, and the registry afterwards. -/
def give (options : BuildOptions) (registry : NameRegistry) :
    List Site → List String × NameRegistry
  | [] => ([], registry)
  | site :: rest =>
    let (name, registry) := registry.uniqueName options site.key site.parent
    let (names, registry) := registry.give options rest
    (name :: names, registry)

/-- The first site gets its name before the others do. -/
theorem give_cons (options : BuildOptions) (registry : NameRegistry) (site : Site)
    (rest : List Site) :
    registry.give options (site :: rest) =
      ((registry.uniqueName options site.key site.parent).1 ::
          ((registry.uniqueName options site.key site.parent).2.give options rest).1,
        ((registry.uniqueName options site.key site.parent).2.give options rest).2) := rfl

/-- **The structs of sites have the names that are given to them**, and nothing else is taken
from the registry. -/
def Gives (options : BuildOptions) (before : NameRegistry) (sites : List Site)
    (structs : List Struct) (after : NameRegistry) : Prop :=
  before.give options sites = (structs.map (·.name), after)

namespace Gives

variable {options : BuildOptions} {r r₁ r' : NameRegistry} {sites others : List Site}
  {structs more : List Struct}

theorem nil (r : NameRegistry) : r.Gives options [] [] r := rfl

/-- A struct gets its name before others do. -/
theorem cons {site : Site} {s : Struct}
    (hname : (r.uniqueName options site.key site.parent).1 = s.name)
    (h : (r.uniqueName options site.key site.parent).2.Gives options sites structs r') :
    r.Gives options (site :: sites) (s :: structs) r' := by
  unfold Gives at h
  rw [Gives, give_cons, h, hname, List.map_cons]

theorem append (h : r.Gives options sites structs r₁) (h' : r₁.Gives options others more r') :
    r.Gives options (sites ++ others) (structs ++ more) r' := by
  induction sites generalizing r structs with
  | nil =>
    obtain ⟨hnames, rfl⟩ := Prod.mk.inj h
    rw [List.map_eq_nil_iff.mp hnames.symm]
    exact h'
  | cons site rest ih =>
    obtain ⟨hnames, rfl⟩ := Prod.mk.inj h
    match structs, hnames with
    | s :: nested, hnames =>
      obtain ⟨hname, hrest⟩ := List.cons.inj hnames
      exact cons hname (ih (Prod.ext hrest rfl))

end Gives
end NameRegistry

/-! ## The walk makes a struct for every site -/

/-- **Fields of a list's items stand at sites**: their keys are distinct and are those that were
seen, and their structs stand at the sites that were found. -/
structure Merged.IsSited (above seen : List String) (sites : List Site) (merged : Merged) :
    Prop where
  /-- No key has two fields. -/
  keys_nodup : (merged.fields.map (·.field.sourceKey)).Nodup
  /-- The keys with a field are those seen. -/
  mem_seen : ∀ key, key ∈ seen ↔ key ∈ merged.fields.map (·.field.sourceKey)
  /-- The structs stand at the sites. -/
  sited : SitedFields above (merged.fields.map (·.field.keyedType)) merged.structs sites

namespace Merged.IsSited

variable {above seen : List String} {sites here : List Site} {merged merged' : Merged}
  {key : String}

theorem empty (above : List String) : IsSited above [] [] {} :=
  ⟨List.nodup_nil, fun _ => Iff.rfl, .nil⟩

/-- A key has a field if it was seen. -/
theorem mem_of_find? {existing : MergedField} (h : merged.IsSited above seen sites)
    (hfind : merged.find? key = some existing) : key ∈ seen := by
  obtain ⟨hmem, rfl⟩ := of_find? hfind
  exact (h.mem_seen _).mpr (List.mem_map_of_mem hmem)

/-- Fields stand where they stood when a key occurs again. -/
theorem document {existing : MergedField} {place : Place} {block : CommentBlock}
    {line? : Option Nat} (h : merged.IsSited above seen sites)
    (hfind : merged.find? key = some existing)
    (hdocument : merged.document existing key place block line? = .ok merged') :
    merged'.IsSited above seen sites ∧ merged'.structs = merged.structs := by
  obtain ⟨hfields, hstructs⟩ := document_keeps h.keys_nodup hfind hdocument
  have hkeys := congrArg (List.map Prod.fst) hfields
  rw [List.map_map, List.map_map] at hkeys
  refine ⟨⟨?_, fun key => ?_, ?_⟩, hstructs⟩
  · exact hkeys ▸ h.keys_nodup
  · exact (h.mem_seen key).trans (hkeys ▸ Iff.rfl)
  · rw [hstructs]
    exact hfields ▸ h.sited

/-- A key that occurs for the first time brings its own sites. -/
theorem push (new : MergedField) {own : List Struct} (h : merged.IsSited above seen sites)
    (hfind : merged.find? new.field.sourceKey = none)
    (hown : Sited above new.field.sourceKey new.field.type own here) :
    IsSited above (new.field.sourceKey :: seen) (sites ++ here)
      { fields := merged.fields ++ [new], structs := merged.structs ++ own } := by
  have hnew := not_mem_of_find? hfind
  refine ⟨?_, fun key => ?_, ?_⟩
  · rw [List.map_append, List.map_singleton, ← List.concat_eq_append]
    exact h.keys_nodup.concat hnew
  · rw [List.map_append, List.mem_append, List.mem_cons, h.mem_seen, or_comm]
    exact or_congr_right List.mem_singleton.symm
  · rw [List.map_append]
    exact h.sited.append (.single hown)

end Merged.IsSited

namespace Walk

variable {ctx : DocumentContext}

/-- **What a run over items has to find**: from fields that stand at the sites so far, it gets to
fields that stand at these and the ones that it found, and gives names to the structs that it
added. -/
def Finds (options : BuildOptions) (above seen : List String) (merged : Merged)
    (r : NameRegistry) (found : List Site × List String) (merged' : Merged)
    (r' : NameRegistry) : Prop :=
  ∀ sites, merged.IsSited above seen sites →
    merged'.IsSited above found.2 (sites ++ found.1) ∧
      ∃ own, merged'.structs = merged.structs ++ own ∧ r.Gives options found.1 own r'

theorem Finds.refl {options : BuildOptions} {above seen : List String} (merged : Merged)
    (r : NameRegistry) : Finds options above seen merged r ([], seen) merged r := by
  refine fun sites h => ⟨?_, [], (List.append_nil _).symm, .nil r⟩
  rwa [List.append_nil]

theorem Finds.trans {options : BuildOptions} {above seen seen₁ seen' : List String}
    {merged merged₁ merged' : Merged} {r r₁ r' : NameRegistry} {here others : List Site}
    (h : Finds options above seen merged r (here, seen₁) merged₁ r₁)
    (h' : Finds options above seen₁ merged₁ r₁ (others, seen') merged' r') :
    Finds options above seen merged r (here ++ others, seen') merged' r' := by
  intro sites hmerged
  obtain ⟨hmerged₁, own, hown, hnames⟩ := h sites hmerged
  obtain ⟨hmerged', more, hmore, hnames'⟩ := h' _ hmerged₁
  rw [List.append_assoc] at hmerged'
  exact ⟨hmerged', own ++ more, by rw [hmore, hown, List.append_assoc], hnames.append hnames'⟩

/-- The name of a struct is asked for with the key above its site. -/
theorem parentKey_eq {key : String} {place : Place} {above : List String}
    (hplace : place.keys = key :: above) : place.parentKey = (Site.mk above key).parent := by
  rw [Place.parentKey, hplace]
  cases above <;> rfl

mutual

/-- **The structs of a value stand at its sites**, and their names are given to them one after the
other. The induction is that of the walk; the items of a list add to what was found before. -/
theorem resolve_sited (v : Value) {key : String} {place : Place} {above : List String}
    {type : FieldType} {structs : List Struct} {r r' : NameRegistry}
    (h : resolve ctx key place v r = .ok ((type, structs), r'))
    (hplace : place.keys = key :: above) :
    Sited above key type structs (Site.ofValue ctx key place v) ∧
      r.Gives ctx.options (Site.ofValue ctx key place v) structs r' := by
  match v with
  | .tagged tag v =>
    rw [resolve_tagged] at h
    rw [Site.ofValue]
    exact resolve_sited v h hplace
  | .mapping entries =>
    rw [Site.ofValue, DocumentContext.hasHint_eq, hplace, List.tail_cons]
    rcases resolve_mapping h with ⟨hint, rfl, hhint, rfl, rfl, rfl⟩ |
      ⟨hnone, name, fields, nested, hname, hentries, rfl, rfl⟩
    · rw [if_pos (by rw [hhint]; rfl)]
      exact ⟨.leaf (FieldType.struct?_base_of_references (FieldType.references_ofHint _)), .nil r'⟩
    · -- With entries, or with nothing above it that says a type, the key is a site.
      have hmakes : ¬(entries.isEmpty && (ctx.comments place).typeHint.isSome) = true := by
        rw [Bool.and_eq_true, List.isEmpty_iff]
        rintro ⟨hempty, hhint⟩
        rw [hnone hempty] at hhint
        exact Bool.false_ne_true hhint
      rw [if_neg hmakes]
      obtain ⟨hfields, hnames⟩ := resolveEntries_sited entries hentries
      rw [hplace] at hfields
      rw [parentKey_eq hplace] at hname hnames
      exact ⟨.struct rfl hfields, .cons hname hnames⟩
  | .sequence items =>
    rw [Site.ofValue, hplace, List.tail_cons]
    rcases resolve_sequence h with ⟨hstart, rfl, rfl, rfl⟩ |
      ⟨name, merged, hstart, hname, hitems, rfl, rfl⟩
    · rw [if_neg (Bool.eq_false_iff.mp hstart)]
      exact ⟨.leaf (FieldType.struct?_base_of_references (references_listType _ _)), .nil r'⟩
    · rw [if_pos hstart]
      -- The first item finds nothing merged and no key seen.
      obtain ⟨hmerged, own, hown, hnames⟩ := resolveItems_sited items hitems [] (.empty _)
      have hsited := hmerged.sited
      rw [List.nil_append] at hown hsited
      rw [hplace] at hsited
      rw [parentKey_eq hplace] at hname hnames
      refine ⟨.struct rfl ?_, .cons hname (hown ▸ hnames)⟩
      rwa [List.map_map]
  | .null | .bool _ | .number _ | .string _ =>
    obtain ⟨rfl, rfl, rfl⟩ := resolve_scalar rfl h
    exact ⟨.leaf (FieldType.struct?_base_of_references (references_scalarType _ _)), .nil r'⟩
termination_by structural v

/-- The structs of entries stand at the sites below them. -/
theorem resolveEntries_sited (entries : List (Value × Value)) {place : Place}
    {fields : List Field} {structs : List Struct} {r r' : NameRegistry}
    (h : resolveEntries ctx place entries r = .ok ((fields, structs), r')) :
    SitedFields place.keys (fields.map (·.keyedType)) structs
        (Site.ofEntries ctx place (fun _ => false) entries) ∧
      r.Gives ctx.options (Site.ofEntries ctx place (fun _ => false) entries) structs r' := by
  match entries with
  | [] =>
    obtain ⟨rfl, rfl, rfl⟩ := resolveEntries_nil h
    exact ⟨.nil, .nil r'⟩
  | (k, v) :: rest =>
    obtain ⟨key, type, own, r₁, others, nested, hkey, hv, hrest, rfl, rfl⟩ := resolveEntries_cons h
    obtain ⟨hown, hnames⟩ := resolve_sited v hv rfl
    obtain ⟨hothers, hnames'⟩ := resolveEntries_sited rest hrest
    rw [Site.ofEntries_cons _ _ hkey, if_neg Bool.false_ne_true]
    exact ⟨.cons hown hothers, hnames.append hnames'⟩
termination_by structural entries

theorem resolveItems_sited (items : List Value) {place : Place} {position : Nat}
    {seen : List String} {merged merged' : Merged} {r r' : NameRegistry}
    (h : resolveItems ctx place position merged items r = .ok (merged', r')) :
    Finds ctx.options place.keys seen merged r (Site.ofItems ctx place position seen items)
      merged' r' := by
  match items with
  | [] =>
    obtain ⟨rfl, rfl⟩ := resolveItems_nil h
    exact .refl merged' r'
  | item :: rest =>
    obtain ⟨merged₁, r₁, hitem, hrest⟩ := resolveItems_cons h
    rw [Site.ofItems]
    exact (resolveItem_sited item hitem).trans (resolveItems_sited rest hrest)
termination_by structural items

theorem resolveItem_sited (item : Value) {place : Place} {seen : List String}
    {merged merged' : Merged} {r r' : NameRegistry}
    (h : resolveItem ctx place merged item r = .ok (merged', r')) :
    Finds ctx.options place.keys seen merged r (Site.ofItem ctx place seen item) merged' r' := by
  match item with
  | .tagged tag v =>
    rw [resolveItem_tagged] at h
    rw [Site.ofItem]
    exact resolveItem_sited v h
  | .mapping entries =>
    rw [resolveItem_mapping] at h
    rw [Site.ofItem]
    exact mergeEntries_sited entries h
  | .null | .bool _ | .number _ | .string _ | .sequence _ =>
    obtain ⟨rfl, rfl⟩ := resolveItem_other rfl h
    exact .refl merged' r'
termination_by structural item

/-- Entries find the sites below those keys that occur for the first time. -/
theorem mergeEntries_sited (entries : List (Value × Value)) {place : Place} {seen : List String}
    {merged merged' : Merged} {r r' : NameRegistry}
    (h : mergeEntries ctx place merged entries r = .ok (merged', r')) :
    Finds ctx.options place.keys seen merged r (Site.ofNewEntries ctx place seen entries)
      merged' r' := by
  match entries with
  | [] =>
    obtain ⟨rfl, rfl⟩ := mergeEntries_nil h
    exact .refl merged' r'
  | (k, v) :: rest =>
    intro sites hmerged
    obtain ⟨key, hkey, ⟨existing, merged₁, hfind, hdocument, hrest⟩ |
      ⟨type, own, r₁, hfind, hv, hrest⟩⟩ := mergeEntries_cons h
    · -- The key has a field, so it was seen, and its value is not looked at.
      rw [Site.ofNewEntries_seen _ _ hkey (hmerged.mem_of_find? hfind)]
      obtain ⟨hmerged₁, hstructs⟩ := hmerged.document hfind hdocument
      rw [← hstructs]
      exact mergeEntries_sited rest hrest sites hmerged₁
    · have hnew : key ∉ seen := mt (hmerged.mem_seen key).mp (Merged.not_mem_of_find? hfind)
      rw [Site.ofNewEntries_new _ _ hkey hnew]
      obtain ⟨hown, hnames⟩ := resolve_sited v hv rfl
      obtain ⟨hmerged', more, hmore, hnames'⟩ := mergeEntries_sited rest hrest _
        (hmerged.push (newField ctx key (place.key key) type) hfind hown)
      rw [List.append_assoc] at hmerged'
      exact ⟨hmerged', own ++ more, by rw [hmore, List.append_assoc], hnames.append hnames'⟩
termination_by structural entries

end

/-- **The structs of a resource's fields stand at its sites**, and their names are given to them
one after the other. -/
theorem resolveRoot_sited (entries : List (Value × Value)) {place : Place} {fields : List Field}
    {structs : List Struct} {r r' : NameRegistry}
    (h : resolveRoot ctx place entries r = .ok ((fields, structs), r')) :
    SitedFields place.keys (fields.map (·.keyedType)) structs
        (Site.ofEntries ctx place reservedKeys.contains entries) ∧
      r.Gives ctx.options (Site.ofEntries ctx place reservedKeys.contains entries) structs r' := by
  induction entries generalizing r fields structs with
  | nil =>
    obtain ⟨rfl, rfl, rfl⟩ := resolveRoot_nil h
    exact ⟨.nil, .nil r'⟩
  | cons entry rest ih =>
    obtain ⟨k, v⟩ := entry
    obtain ⟨key, hkey, ⟨hreserved, h⟩ |
      ⟨type, own, r₁, others, nested, hreserved, hv, hrest, rfl, rfl⟩⟩ := resolveRoot_cons h
    · rw [Site.ofEntries_cons _ _ hkey, if_pos hreserved]
      exact ih h
    · rw [Site.ofEntries_cons _ _ hkey, if_neg (Bool.eq_false_iff.mp hreserved)]
      obtain ⟨hown, hnames⟩ := resolve_sited v hv rfl
      obtain ⟨hothers, hnames'⟩ := ih hrest
      exact ⟨.cons hown hothers, hnames.append hnames'⟩

end Walk
end ChartSchema
