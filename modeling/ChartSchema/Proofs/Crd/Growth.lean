import ChartSchema.Proofs.Crd.OutlineNode
import ChartSchema.Proofs.Schema.Deletion
/-!
# Definitions that grow

When the outline of a document grows, the node that is made of it grows as well: it says the same
about the value, has the properties of before, and requires nothing new (`SchemaNode.Grows`). The
markers of a field are the same before and behind, and each of them takes nodes that grow to nodes
that grow, the one that replaces a node included.

A struct without fields stands for free content, so it may not get any. The one exception is the
resource itself, which is not free content even if it has no fields of its own.
-/

namespace ChartSchema

/-! ## Nodes that grow -/

/-- **A node grows into another one**: both say the same about the value, the properties of the
first are among those of the second and grow, and what the second requires was required before. -/
inductive SchemaNode.Grows : SchemaNode → SchemaNode → Prop
  /-- Each part grows or is the same. -/
  | intro {old new : SchemaNode} :
    old.type? = new.type? →
    new.facets = { old.facets with required? := new.facets.required? } →
    (∀ key ∈ new.facets.required?.getD [], key ∈ old.facets.required?.getD []) →
    (∀ key, hasKey key (old.properties?.getD []) = true →
      hasKey key (new.properties?.getD []) = true) →
    (∀ key p q, findKey? key (old.properties?.getD []) = some p →
      findKey? key (new.properties?.getD []) = some q → Grows p q) →
    Option.Rel Grows old.items? new.items? → old.additional? = new.additional? →
    old.others = new.others → Grows old new

namespace SchemaNode

variable {old new : SchemaNode}

/-- **Properties grow**: those of before are still there and grow. -/
def PropertiesGrow (properties more : List (String × SchemaNode)) : Prop :=
  ∀ key p, findKey? key properties = some p → ∃ q, findKey? key more = some q ∧ p.Grows q

namespace Grows

theorem type?_eq (h : old.Grows new) : old.type? = new.type? := by
  cases h
  assumption

/-- What is said about the value stays the same, but for the members that are required. -/
theorem facets_eq (h : old.Grows new) :
    new.facets = { old.facets with required? := new.facets.required? } := by
  cases h
  assumption

theorem required (h : old.Grows new) :
    ∀ key ∈ new.facets.required?.getD [], key ∈ old.facets.required?.getD [] := by
  cases h
  assumption

theorem properties (h : old.Grows new) :
    PropertiesGrow (old.properties?.getD []) (new.properties?.getD []) := by
  cases h with
  | intro _ _ _ hkeys hproperties _ _ _ =>
    intro key p hp
    obtain ⟨q, hq⟩ := Option.isSome_iff_exists.mp (hkeys key (by rw [hasKey, hp]; rfl))
    exact ⟨q, hq, hproperties key p q hp hq⟩

theorem items (h : old.Grows new) : Option.Rel Grows old.items? new.items? := by
  cases h
  assumption

theorem additional?_eq (h : old.Grows new) : old.additional? = new.additional? := by
  cases h
  assumption

theorem others_eq (h : old.Grows new) : old.others = new.others := by
  cases h
  assumption

/-- A node grows if its parts do. -/
theorem of_parts (htype : old.type? = new.type?)
    (hfacets : new.facets = { old.facets with required? := new.facets.required? })
    (hrequired : ∀ key ∈ new.facets.required?.getD [], key ∈ old.facets.required?.getD [])
    (hproperties : PropertiesGrow (old.properties?.getD []) (new.properties?.getD []))
    (hitems : Option.Rel Grows old.items? new.items?)
    (hadditional : old.additional? = new.additional?) (hothers : old.others = new.others) :
    old.Grows new := by
  refine .intro htype hfacets hrequired (fun key hkey => ?_) (fun key p q hp hq => ?_) hitems
    hadditional hothers
  · obtain ⟨p, hp⟩ := Option.isSome_iff_exists.mp hkey
    obtain ⟨q, hq, -⟩ := hproperties key p hp
    rw [hasKey, hq]
    rfl
  · obtain ⟨q', hq', hgrows⟩ := hproperties key p hp
    obtain rfl := Option.some.inj (hq.symm.trans hq')
    exact hgrows

end Grows

theorem sizeOf_lt_of_property {key : String} {p : SchemaNode}
    (h : (key, p) ∈ old.properties?.getD []) : sizeOf p < sizeOf old := by
  cases old with
  | mk type? facets properties? items? additional? anyOf? others =>
    cases properties? with
    | none => exact absurd h List.not_mem_nil
    | some properties =>
      have hmem : sizeOf (key, p) < sizeOf properties := List.sizeOf_lt_of_mem h
      simp only [Prod.mk.sizeOf_spec, mk.sizeOf_spec, Option.some.sizeOf_spec] at hmem ⊢
      omega

theorem sizeOf_lt_of_items {items : SchemaNode} (h : old.items? = some items) :
    sizeOf items < sizeOf old := by
  cases old
  cases h
  simp only [Option.some.sizeOf_spec, mk.sizeOf_spec]
  omega

namespace Grows

theorem refl (node : SchemaNode) : node.Grows node := by
  refine .of_parts rfl rfl (fun _ hkey => hkey) (fun key p hp => ⟨p, hp, ?_⟩) ?_ rfl rfl
  · have := sizeOf_lt_of_property (mem_of_findKey? hp)
    exact refl p
  · cases hitems : node.items? with
    | none => exact .none
    | some items =>
      have := sizeOf_lt_of_items hitems
      exact .some (refl items)
termination_by sizeOf node

theorem withFacets (h : old.Grows new) {f g : Facets}
    (hfacets : g = { f with required? := g.required? })
    (hrequired : ∀ key ∈ g.required?.getD [], key ∈ f.required?.getD []) :
    { old with facets := f }.Grows { new with facets := g } :=
  .of_parts h.type?_eq hfacets hrequired h.properties h.items h.additional?_eq h.others_eq

theorem withItems (h : old.Grows new) {p q : SchemaNode} (hpq : p.Grows q) :
    { old with items? := some p }.Grows { new with items? := some q } :=
  .of_parts h.type?_eq h.facets_eq h.required h.properties (.some hpq) h.additional?_eq h.others_eq

theorem withOthers (h : old.Grows new) {others later : List (String × Json)}
    (hothers : others = later) : { old with others := others }.Grows { new with others := later } :=
  .of_parts h.type?_eq h.facets_eq h.required h.properties h.items h.additional?_eq hothers

theorem describe (h : old.Grows new) (documentation : List String) :
    (old.describe documentation).Grows (new.describe documentation) := by
  unfold SchemaNode.describe
  split
  · exact h
  · refine h.withFacets ?_ h.required
    rw [h.facets_eq]

end Grows
end SchemaNode

/-! ## Markers -/

namespace Marker

variable {old new : SchemaNode}

/-- A marker does not look at what is required. -/
theorem onFacets_withRequired (f : Facets) (required? : Option (List String)) (marker : Marker) :
    onFacets { f with required? } marker = { onFacets f marker with required? } := by
  cases marker <;> rfl

/-- **A marker takes nodes that grow to nodes that grow.** What it sets does not depend on the
members, which are all that differs. -/
theorem apply_grows (h : old.Grows new) (marker : Marker) :
    (apply old marker).Grows (apply new marker) := by
  have hfacets (hkeeps : ∀ node, apply node marker =
      { node with facets := onFacets node.facets marker }) :
      (apply old marker).Grows (apply new marker) := by
    rw [hkeeps, hkeeps]
    obtain ⟨hold, -⟩ := onFacets_kept old.facets marker
    obtain ⟨hnew, -⟩ := onFacets_kept new.facets marker
    refine h.withFacets ?_ ?_
    · rw [hnew]
      exact (congrArg (onFacets · marker) h.facets_eq).trans (onFacets_withRequired _ _ marker)
    · rw [hold, hnew]
      exact h.required
  cases marker
  case intOrString =>
    have hdescription : new.facets.description? = old.facets.description? :=
      (congrArg Facets.description? h.facets_eq).trans rfl
    show (SchemaNode.intOrString _).Grows (SchemaNode.intOrString _)
    rw [hdescription]
    exact .refl _
  all_goals exact hfacets fun _ => rfl

theorem foldl_apply_grows (h : old.Grows new) (markers : List Marker) :
    (markers.foldl apply old).Grows (markers.foldl apply new) := by
  induction markers generalizing old new with
  | nil => exact h
  | cons marker rest ih => exact ih (apply_grows h marker)

theorem applyValues_grows (h : old.Grows new) (isList : Bool) (markers : List Marker) :
    (applyValues isList old markers).Grows (applyValues isList new markers) := by
  have hvalue {old new : SchemaNode} (h : old.Grows new) :
      (applyToValue old markers).Grows (applyToValue new markers) := foldl_apply_grows h _
  have hitems := h.items
  unfold applyValues
  cases isList with
  | false => exact hvalue h
  | true =>
    cases hold : old.items? with
    | none =>
      cases hnew : new.items? with
      | some q => rw [hold, hnew] at hitems; cases hitems
      | none =>
        have hbare := hvalue (h.withOthers (congrArg (eraseKey "items") h.others_eq))
        rw [hold, hnew] at hbare
        exact hbare.withOthers (congrArg₂ (· ++ ·) (by rw [h.others_eq]) hbare.others_eq)
    | some p =>
      cases hnew : new.items? with
      | none => rw [hold, hnew] at hitems; cases hitems
      | some q =>
        rw [hold, hnew] at hitems
        exact h.withItems (hvalue (of_rel_some hitems))

/-- **The markers of a field take nodes that grow to nodes that grow**, and say the same about
whether the field is required. -/
theorem applyLines_grows (h : old.Grows new) {isList : Bool} {path : String} {raw : List String}
    {own later : SchemaNode × Bool} (hown : applyLines isList path raw old = .ok own)
    (hlater : applyLines isList path raw new = .ok later) :
    own.1.Grows later.1 ∧ own.2 = later.2 := by
  rw [applyLines_eq] at hown hlater
  obtain ⟨markers, hmarkers, hown⟩ := Outcome.bind_eq_ok.mp hown
  obtain ⟨markers', hmarkers', hlater⟩ := Outcome.bind_eq_ok.mp hlater
  obtain rfl := Except.ok.inj (hmarkers.symm.trans hmarkers')
  obtain rfl := Outcome.pure_eq_ok.mp hown
  obtain rfl := Outcome.pure_eq_ok.mp hlater
  exact ⟨foldl_apply_grows (applyValues_grows h isList markers) _, rfl⟩

theorem exists_line_of_parseAll {isList : Bool} {path : String} {raw : List String}
    {markers : List Marker} (h : parseAll isList path raw = .ok markers) :
    ∀ marker ∈ markers, ∃ line ∈ raw, parse line = .ok (some marker) := by
  induction raw generalizing markers with
  | nil =>
    obtain rfl := Except.ok.inj h
    exact fun _ hmem => absurd hmem List.not_mem_nil
  | cons line rest ih =>
    have hlift {others : List Marker} (hothers : parseAll isList path rest = .ok others) :
        ∀ marker ∈ others, ∃ l ∈ line :: rest, parse l = .ok (some marker) := fun marker hm =>
      (ih hothers marker hm).imp fun l ⟨hl, hparse⟩ => ⟨List.mem_cons_of_mem _ hl, hparse⟩
    unfold parseAll at h
    cases hparse : parse line with
    | error fault => rw [hparse] at h; cases h
    | ok marker? =>
      rw [hparse] at h
      cases marker? with
      | none => exact hlift h
      | some first =>
        dsimp only [bind, Except.bind] at h
        split at h
        · cases h
        · obtain ⟨others, hothers, h⟩ := Outcome.bind_eq_ok.mp h
          obtain rfl := Outcome.pure_eq_ok.mp h
          intro marker hm
          rcases List.mem_cons.mp hm with rfl | hm
          · exact ⟨line, List.mem_cons_self, hparse⟩
          · exact hlift hothers marker hm

/-- **A field is optional if no line makes it required.** -/
theorem required_eq_false {isList : Bool} {path : String} {raw : List String}
    {markers : List Marker} (hraw : NoneRequired raw)
    (h : parseAll isList path raw = .ok markers) : required markers = false := by
  have hnone : ∀ marker ∈ markers, marker ≠ .require true := by
    rintro marker hm rfl
    obtain ⟨line, hline, hparse⟩ := exists_line_of_parseAll h _ hm
    have hfalse := hraw line hline
    rw [makesRequired, hparse] at hfalse
    exact Bool.noConfusion hfalse
  clear h
  unfold required
  induction markers with
  | nil => rfl
  | cons marker rest ih =>
    obtain ⟨hfirst, hrest⟩ := List.forall_mem_cons.mp hnone
    rw [List.foldl_cons]
    cases marker
    case require r =>
      cases r with
      | true => exact absurd rfl hfirst
      | false => exact ih hrest
    all_goals exact ih hrest

end Marker

/-! ## Structs -/

/-- The property of a field grows: the key is the same, the node grows, and whether the field is
required stays the same. -/
structure FieldNode.Grows (f g : FieldNode) : Prop where
  /-- The key is the same. -/
  key : f.key = g.key
  /-- The node grows. -/
  node : f.node.Grows g.node
  /-- It is required as before. -/
  required : f.required = g.required

/-- Properties that grow, and more properties, none of which is required. -/
def FieldNodesGrow (kept : String → Bool) : List FieldNode → List FieldNode → Prop :=
  ExtendsByKey (·.key) FieldNode.Grows (fun f => f.required = false) kept

namespace SchemaNode

/-- Among lists that are related one by one, what is found under a key is related. -/
theorem findKey?_rel {xs ys : List (String × SchemaNode)}
    (h : List.Forall₂ (fun x y => x.1 = y.1 ∧ x.2.Grows y.2) xs ys) (key : String) :
    Option.Rel Grows (findKey? key xs) (findKey? key ys) := by
  induction h with
  | nil => exact .none
  | cons hxy _ ih =>
    rw [findKey?_cons, findKey?_cons, hxy.1]
    split
    · exact .some hxy.2
    · exact ih

namespace PropertiesGrow

variable {properties more : List (String × SchemaNode)}

theorem insertKey (h : PropertiesGrow properties more) (inserted : String) (node : SchemaNode) :
    PropertiesGrow (insertKey inserted node properties) (insertKey inserted node more) := by
  intro key p hp
  rw [findKey?_insertKey] at hp ⊢
  split at hp
  · next hsame =>
    obtain rfl := Option.some.inj hp
    exact ⟨node, if_pos hsame, .refl node⟩
  · next hother =>
    rw [if_neg hother]
    exact h key p hp

theorem resource (h : PropertiesGrow properties more) :
    PropertiesGrow (resourceProperties properties) (resourceProperties more) :=
  ((h.insertKey _ _).insertKey _ _).insertKey _ _

/-- **The properties of fields grow** with the fields. Of fields with one key the last one counts,
and the keys that are kept keep their order, so it is the same field on both sides. -/
theorem of_fields {kept : String → Bool} {fields later : List FieldNode}
    (h : FieldNodesGrow kept fields later) :
    PropertiesGrow (sortKeys (fields.map fun f => (f.key, f.node)))
      (sortKeys (later.map fun f => (f.key, f.node))) := by
  have hkept : List.Forall₂ (fun x y : String × SchemaNode => x.1 = y.1 ∧ x.2.Grows y.2)
      (fields.map fun f => (f.key, f.node)).reverse
      ((later.map fun f => (f.key, f.node)).reverse.filter fun x => kept x.1) := by
    rw [List.filter_reverse, List.forall₂_reverse_iff, List.filter_map,
      List.forall₂_map_left_iff, List.forall₂_map_right_iff]
    exact h.same.imp fun _ _ hfg => ⟨hfg.key, hfg.node⟩
  intro key p hp
  rw [findKey?_sortKeys_reverse] at hp ⊢
  have hrel := findKey?_rel hkept key
  rw [hp, findKey?_filter] at hrel
  split at hrel
  · generalize findKey? key _ = found at hrel ⊢
    cases hrel with
    | some hgrows => exact ⟨_, rfl, hgrows⟩
  · cases hrel

end PropertiesGrow

theorem required_of_fields {kept : String → Bool} {fields later : List FieldNode}
    (h : FieldNodesGrow kept fields later) :
    ∀ key ∈ (nonEmpty? (requiredKeys later)).getD [],
      key ∈ (nonEmpty? (requiredKeys fields)).getD [] := by
  have hall (own : List FieldNode) : (nonEmpty? (requiredKeys own)).getD [] = requiredKeys own := by
    unfold nonEmpty?
    split
    · next hempty => exact (List.isEmpty_iff.mp hempty).symm
    · rfl
  rw [hall, hall]
  intro key hkey
  obtain ⟨g, hg, rfl⟩ := List.mem_map.mp hkey
  obtain ⟨hg, hrequired⟩ := List.mem_filter.mp hg
  have hkept : kept g.key = true := by
    refine Bool.eq_true_of_not_eq_false fun hother => ?_
    exact Bool.noConfusion (hrequired.symm.trans (h.more g hg hother))
  obtain ⟨f, hf, hfg⟩ := h.exists_of_mem hg hkept
  exact List.mem_map.mpr ⟨f, List.mem_filter.mpr ⟨hf, hfg.required.trans hrequired⟩, hfg.key⟩

/-- The node of a struct with these properties, some of which are required. -/
def structOf (properties : List (String × SchemaNode)) (fields : List FieldNode) : SchemaNode :=
  { type? := some "object", properties? := some properties
    facets := { required? := nonEmpty? (requiredKeys fields) } }

/-- A struct grows with its properties and its fields. -/
theorem structOf_grows {properties more : List (String × SchemaNode)}
    (hproperties : PropertiesGrow properties more) {kept : String → Bool}
    {fields later : List FieldNode} (h : FieldNodesGrow kept fields later) :
    (structOf properties fields).Grows (structOf more later) :=
  .of_parts rfl rfl (required_of_fields h) hproperties .none rfl rfl

/-- **The node of a struct grows** with its fields, unless it stood for free content. A struct
without fields lets everything through, and one that gets its first field does not. -/
theorem ofFields_grows {kept : String → Bool} {fields later : List FieldNode}
    (h : FieldNodesGrow kept fields later) (hempty : fields = [] → later = []) :
    (ofFields fields).Grows (ofFields later) := by
  unfold ofFields
  cases fields with
  | nil =>
    rw [hempty rfl]
    exact .refl _
  | cons first rest =>
    cases later with
    | nil => cases h.same
    | cons g others => exact structOf_grows (.of_fields h) h

/-- The node of a resource with these fields has the properties of every resource and its own. -/
theorem asResource_ofFields (fields : List FieldNode) (documentation : List String) :
    (ofFields fields).asResource documentation =
      (structOf (resourceProperties (sortKeys (fields.map fun f => (f.key, f.node))))
        fields).describe documentation := by
  cases fields <;> rfl

/-- **The node of a resource grows** with its fields, even if it had none of its own. -/
theorem asResource_grows {kept : String → Bool} {fields later : List FieldNode}
    (h : FieldNodesGrow kept fields later) (documentation : List String) :
    ((ofFields fields).asResource documentation).Grows
      ((ofFields later).asResource documentation) := by
  rw [asResource_ofFields, asResource_ofFields]
  exact (structOf_grows (PropertiesGrow.of_fields h).resource h).describe documentation

end SchemaNode

/-! ## Outlines -/

namespace Outline

theorem Grows.isList_eq {o o' : Outline} (h : o.Grows o') : o.isList = o'.isList := by
  cases h <;> rfl

/-- **The properties of fields grow** with the fields, where the nodes of their contents do. What a
field says of itself is the same, and its markers are those that it had. -/
theorem fieldNodes?_grow {kept : String → Bool} {fields later : OutlineFields}
    (h : FieldsGrow kept fields later)
    (hnode : ∀ field ∈ fields, ∀ o', field.2.Grows o' → ∀ path a b,
      field.2.node? path = some a → o'.node? path = some b → a.Grows b)
    {own more : List FieldNode} (hown : fieldNodes? fields = some own)
    (hmore : fieldNodes? later = some more) : FieldNodesGrow kept own more := by
  rw [fieldNodes?_eq] at hown hmore
  refine (ExtendsByKey.and_left h hnode).mapM (fun x f hf => ?_)
    (fun x y ⟨hnode, hhead, hcontent⟩ f g hf hg => ?_) (fun y hoptional g hg => ?_) hown hmore
  · obtain ⟨bare, -, hf⟩ := Option.bind_eq_some_iff.mp hf
    obtain ⟨node, -, rfl⟩ := Option.map_eq_some_iff.mp hf
    rfl
  · rw [← hhead, ← hcontent.isList_eq] at hg
    obtain ⟨a, ha, hf⟩ := Option.bind_eq_some_iff.mp hf
    obtain ⟨b, hb, hg⟩ := Option.bind_eq_some_iff.mp hg
    obtain ⟨node, hnode', rfl⟩ := Option.map_eq_some_iff.mp hf
    obtain ⟨later, hlater, rfl⟩ := Option.map_eq_some_iff.mp hg
    obtain ⟨hgrows, hrequired⟩ := Marker.applyLines_grows
      ((hnode _ hcontent _ a b ha hb).describe _) (Outcome.toOption_eq_some.mp hnode')
      (Outcome.toOption_eq_some.mp hlater)
    exact ⟨rfl, hgrows, hrequired⟩
  · obtain ⟨b, -, hg⟩ := Option.bind_eq_some_iff.mp hg
    obtain ⟨own, happly, rfl⟩ := Option.map_eq_some_iff.mp hg
    rw [Marker.applyLines_eq] at happly
    obtain ⟨markers, hmarkers, happly⟩ := Outcome.bind_eq_ok.mp (Outcome.toOption_eq_some.mp happly)
    obtain rfl := Outcome.pure_eq_ok.mp happly
    exact Marker.required_eq_false hoptional hmarkers

/-- **The node of an outline grows** with the outline. The induction is on the smaller one; a struct
inside of it has its fields compared key by key. -/
theorem node?_grows (o : Outline) {o' : Outline} (h : o.Grows o') (path : String)
    {a b : SchemaNode} (ha : o.node? path = some a) (hb : o'.node? path = some b) : a.Grows b := by
  induction o using Outline.induction generalizing o' path a b with
  | leaf type =>
    cases h
    obtain rfl := Option.some.inj (ha.symm.trans hb)
    exact .refl a
  | struct isList fields ih =>
    obtain ⟨later, rfl⟩ : ∃ later, o' = .struct isList later := by
      cases h
      exact ⟨_, rfl⟩
    obtain ⟨⟨kept, hfields⟩, hempty⟩ := h.fields
    rw [node?] at ha hb
    obtain ⟨own, hown, rfl⟩ := Option.map_eq_some_iff.mp ha
    obtain ⟨more, hmore, rfl⟩ := Option.map_eq_some_iff.mp hb
    have hgrow := fieldNodes?_grow hfields
      (fun field hfield o' hgrows path a b => ih field hfield hgrows path) hown hmore
    have hnode : (SchemaNode.ofFields own).Grows (.ofFields more) := by
      refine SchemaNode.ofFields_grows hgrow fun hnil => ?_
      have hnone := isEmpty_of_fieldNodes? hown
      rw [hnil, List.isEmpty_nil] at hnone
      obtain rfl := hempty (List.isEmpty_iff.mp hnone.symm)
      exact (Option.some.inj hmore).symm
    cases isList with
    | false => exact hnode
    | true =>
      exact .of_parts rfl rfl (fun _ h => h) (fun _ _ hp => nomatch hp) (.some hnode) rfl rfl

end Outline

/-! ## Definitions -/

/-- **A definition grows into another one**: what identifies the resource is the same, and so are
the versions, whose schemas grow. -/
structure Crd.Grows (old new : Crd) : Prop where
  /-- The group is the same. -/
  group : old.group = new.group
  /-- The names are the same. -/
  names : old.names = new.names
  /-- The scope is the same. -/
  scope : old.scope = new.scope
  /-- The versions are the same, and their schemas grow. -/
  versions : List.Forall₂
    (fun v w => v.name = w.name ∧ Option.Rel SchemaNode.Grows v.schema? w.schema?)
    old.versions new.versions

/-- **The definition of an outline grows** with the fields, where the group and the version that
are named for it are the same. -/
theorem Crd.ofOutline?_grows {options : CrdOptions} {apiVersion apiVersion' : GroupVersion}
    {kind : String} {documentation : List String} {kept : String → Bool}
    {fields later : OutlineFields} (h : Outline.FieldsGrow kept fields later)
    (hversion : groupVersion options { apiVersion, kind, structs := [] } =
      groupVersion options { apiVersion := apiVersion', kind, structs := [] })
    {old new : Crd} (hold : ofOutline? options apiVersion kind documentation fields = some old)
    (hnew : ofOutline? options apiVersion' kind documentation later = some new) :
    old.Grows new := by
  unfold ofOutline? at hold hnew
  rw [← hversion] at hnew
  obtain ⟨named, hnamed, hold⟩ := Option.bind_eq_some_iff.mp hold
  rw [hnamed, Option.bind_some] at hnew
  obtain ⟨own, hown, rfl⟩ := Option.map_eq_some_iff.mp hold
  obtain ⟨more, hmore, rfl⟩ := Option.map_eq_some_iff.mp hnew
  have hgrow := Outline.fieldNodes?_grow h
    (fun field _ o' hgrows path a b => Outline.node?_grows field.2 hgrows path) hown hmore
  exact ⟨rfl, rfl, rfl,
    .cons ⟨rfl, .some (SchemaNode.asResource_grows hgrow documentation)⟩ .nil⟩

end ChartSchema
