import ChartSchema.Proofs.Compatibility.Changes
import ChartSchema.Proofs.Compatibility.Evolution
import ChartSchema.Proofs.Crd.OutlineNode
import ChartSchema.Proofs.JsonSchema.Acceptance
/-!
# Reordering keys is invisible

Two documents that differ in the order of keys are made into definitions that differ in the order
of required members, which the comparison of definitions does not see. The first half is about
outlines and is proved there; here it is proved that definitions that are the same up to this order
have no changes between them (`Crd.unchanged_of_sortRequired`), and both halves are put together.

That a definition has no changes to itself is not a matter of course: a default that contains no
number would not be the same as itself. Markers never give such a default.
-/

namespace ChartSchema

open Yaml (Value)

/-! ## Rules that are the same -/

theorem textsWithout_self (texts : List String) : textsWithout texts texts = [] :=
  textsWithout_eq_nil_iff.mpr fun _ htext => htext

namespace Rules

theorem textChange_self (rule : String) (text? : Option String) :
    textChange rule text? text? = [] :=
  if_pos (beq_self_eq_true _)

/-- Nothing is further from zero than from one to the next number. -/
theorem epsilon_not_lt_zero : Binary64.epsilon.lt (Binary64.zero false).abs = false := by
  decide +kernel

/-- The same bound is no change: its distance to itself is zero, or nothing if it is infinite. -/
theorem boundChange_self (rule : String) (side : Side) (x? : Option Binary64) :
    boundChange rule side x? x? = [] := by
  cases x? with
  | none => rfl
  | some x =>
    have hclose : Binary64.epsilon.lt (x.sub x).abs = false := by
      unfold Binary64.sub Binary64.lift
      cases x.toRat? with
      | none => rfl
      | some a =>
        have hzero : Binary64.ofRat (a - a) = .zero false := by
          rw [Rat.sub_self]
          unfold Binary64.ofRat Binary64.ofQuotient
          exact if_pos rfl
        dsimp only
        rw [hzero]
        exact epsilon_not_lt_zero
    unfold boundChange
    dsimp only
    rw [hclose]
    rfl

theorem flagChange_self (rule : String) (b : Bool) : flagChange rule b b = [] :=
  if_pos (beq_self_eq_true _)

theorem multipleChange_self {x? : Option Binary64} (h : ∀ x, x? = some x → x ≠ .nan) :
    multipleChange x? x? = [] := by
  cases x? with
  | none => rfl
  | some x =>
    unfold multipleChange
    dsimp only
    rw [Binary64.eq_self (h x rfl)]
    rfl

theorem enumChanges_self (rules : Rules) : enumChanges rules rules = [] := by
  unfold enumChanges
  cases rules.enum? with
  | none => rfl
  | some values =>
    dsimp only
    rw [textsWithout_self]
    rfl

/-- The same default is no change, if it is the same as itself. -/
theorem defaultChange_self {rules : Rules}
    (h : ∀ v, rules.default? = some v → v.same v = true) : defaultChange rules rules = [] := by
  unfold defaultChange
  cases hdefault : rules.default? with
  | none => rfl
  | some v =>
    dsimp only
    rw [h v hdefault]
    rfl

theorem descriptionChange_self (rules : Rules) : descriptionChange rules rules = [] := by
  unfold descriptionChange
  cases rules.description? with
  | none => rfl
  | some text => exact if_pos (beq_self_eq_true _)

/-- The same rules about values are no change. -/
theorem validationChanges_self {rules : Rules}
    (h : ∀ x, rules.multipleOf? = some x → x ≠ .nan) :
    validationChanges rules rules = [] := by
  unfold validationChanges countChange
  simp only [textChange_self, boundChange_self, flagChange_self, multipleChange_self h,
    List.append_nil]

/-- Rules with other required members. -/
def withRequired (rules : Rules) (required : List String) : Rules := { rules with required }

/-- **The same rules are no change**, whatever members are required. Those are told member by
member, where the properties are compared. -/
theorem changes_withRequired {rules : Rules}
    (hdefault : ∀ v, rules.default? = some v → v.same v = true)
    (hmultiple : ∀ x, rules.multipleOf? = some x → x ≠ .nan) (required : List String) :
    rules.changes (rules.withRequired required) = [] := by
  show defaultChange rules rules ++ descriptionChange rules rules ++
      validationChanges rules rules ++ enumChanges rules rules ++
      (if rules.preserveUnknown && !rules.preserveUnknown then [PropertyChange.unknownPruned]
        else []) = []
  rw [defaultChange_self hdefault, descriptionChange_self, validationChanges_self hmultiple,
    enumChanges_self, Bool.and_not_self]
  rfl

end Rules

/-! ## Nodes that are the same -/

/-- Facets that are the same up to the order of required members are the same but for these. -/
theorem Facets.eq_of_sortRequired {f g : Facets} (h : f.sortRequired = g.sortRequired) :
    g = { f with required? := g.required? } := by
  calc g = { g.sortRequired with required? := g.required? } := rfl
    _ = { f.sortRequired with required? := g.required? } := by rw [h]
    _ = { f with required? := g.required? } := rfl

namespace SameNode

open SchemaNode

variable {a b : SchemaNode}

theorem type?_eq (h : SameNode a b) : a.type? = b.type? := by
  have htype := congrArg SchemaNode.type? h
  cases a
  cases b
  exact htype

/-- Nodes that are the same say the same about the value, but for the order of required members. -/
theorem sortRequired_facets_eq (h : SameNode a b) :
    a.facets.sortRequired = b.facets.sortRequired := by
  rw [← sortRequired_facets, ← sortRequired_facets]
  exact congrArg SchemaNode.facets h

theorem mem_required (h : SameNode a b) {key : String} :
    key ∈ a.facets.required?.getD [] ↔ key ∈ b.facets.required?.getD [] := by
  have hsorted (f : Facets) :
      key ∈ f.required?.getD [] ↔ key ∈ f.sortRequired.required?.getD [] := by
    unfold Facets.sortRequired
    cases f.required? with
    | none => rfl
    | some keys => exact List.mem_mergeSort.symm
  rw [hsorted a.facets, hsorted b.facets, h.sortRequired_facets_eq]

theorem findKey? (h : SameNode a b) (key : String) :
    Option.Rel SameNode (findKey? key a.declared) (ChartSchema.findKey? key b.declared) := by
  have hdeclared : sortValues a.declared = sortValues b.declared := by
    rw [declared, declared, ← sortRequired_properties, ← sortRequired_properties,
      show a.sortRequired = b.sortRequired from h]
  refine rel_of_map_eq ?_
  rw [← findKey?_map, ← findKey?_map]
  exact congrArg (ChartSchema.findKey? key) hdeclared

theorem items (h : SameNode a b) : Option.Rel SameNode a.items? b.items? := by
  refine rel_of_map_eq ?_
  rw [← sortRequired_items?, ← sortRequired_items?, show a.sortRequired = b.sortRequired from h]

/-- Nodes that are the same say the same about members without a property. -/
theorem additional {p q : SchemaNode} (h : SameNode a b) (hp : a.additional? = some (.value p))
    (hq : b.additional? = some (.value q)) : SameNode p q := by
  have hadditional := congrArg SchemaNode.additional? h
  cases a
  cases b
  subst hp hq
  exact OrBool.value.inj (Option.some.inj hadditional)

end SameNode

/-! ## Comparing nodes that are the same -/

namespace SchemaNode

/-- What is said of members without a property is viewed as it is said. -/
theorem of_viewAdditional {additional? : Option (OrBool SchemaNode)} {p : Property}
    (h : additional?.map viewAdditional = some (.value p)) :
    ∃ inner, additional? = some (.value inner) ∧ inner.view = p := by
  match additional?, h with
  | some (.value inner), h => exact ⟨inner, rfl, OrBool.value.inj (Option.some.inj h)⟩

theorem Generated.findKey?_view {node : SchemaNode} (h : node.Generated) (key : String) :
    findKey? key node.view.properties = (findKey? key node.declared).map view := by
  rw [view_eq h.others_eq]
  exact findKey?_map view key node.declared

theorem Generated.hasKey_view {node : SchemaNode} (h : node.Generated) (key : String) :
    hasKey key node.view.properties = hasKey key node.declared := by
  rw [hasKey, hasKey, h.findKey?_view, Option.isSome_map]

theorem Generated.isRequired_view {node : SchemaNode} (h : node.Generated) {key : String} :
    node.view.isRequired key = true ↔ key ∈ node.facets.required?.getD [] := by
  rw [Property.isRequired, view_eq h.others_eq]
  exact List.contains_iff_mem

section

variable {a b : SchemaNode}

/-- **Changes between two nodes** that say the same about the value, but for the members that are
required, are of a kind if those of the members and of what is inside of both are. -/
theorem Generated.allChanges_of_parts {P : PropertyChange → Prop} {membersOnly : Bool}
    {path : SchemaPath} (ha : a.Generated) (hb : b.Generated) (htype : a.type? = b.type?)
    (hfacets : b.facets = { a.facets with required? := b.facets.required? })
    (hremoved : ∀ change ∈ Property.removedFields a.view b.view, P change)
    (hadded : ∀ change ∈ Property.addedFields a.view b.view, P change)
    (hrequired : ∀ change ∈ Property.requiredFields a.view b.view, P change)
    (hmembers : ∀ key p q, (key, p) ∈ a.declared → findKey? key b.declared = some q →
      Property.AllChanges P false (path ++ [SchemaStep.property key]) p.view q.view)
    (hitems : ∀ p q, a.items? = some p → b.items? = some q →
      Property.AllChanges P false (path ++ [SchemaStep.items]) p.view q.view)
    (hadditional : ∀ p q, a.additional? = some (.value p) → b.additional? = some (.value q) →
      Property.AllChanges P false (path ++ [SchemaStep.additional]) p.view q.view) :
    Property.AllChanges P membersOnly path a.view b.view := by
  have hview := view_eq ha.others_eq
  have hview' := view_eq hb.others_eq
  have hsame : a.propertyType = b.propertyType := by
    unfold propertyType
    rw [htype, hfacets]
  have hnone {changes : List PropertyChange} (h : changes = []) : ∀ change ∈ changes, P change :=
    h ▸ fun _ hc => absurd hc List.not_mem_nil
  refine .of_parts (fun _ => hnone ?_) (fun _ => hnone ?_) hremoved hadded hrequired
    (fun key p q hp hq => ?_) (fun _ p q hp hq => ?_) fun _ p q hp hq => ?_
  · rw [hview, hview']
    exact if_pos hsame
  · rw [hview, hview', show b.facets = _ from hfacets]
    refine Rules.changes_withRequired ha.proper.default
      (fun x hx => Binary64.ne_nan_of_isFinite (ha.proper.finite x ?_)) _
    exact List.mem_cons_of_mem _ (List.mem_cons_of_mem _ (List.mem_singleton.mpr hx.symm))
  · rw [hview] at hp
    obtain ⟨⟨key, inner⟩, hinner, hpair⟩ := List.mem_map.mp hp
    obtain ⟨rfl, rfl⟩ := Prod.mk.inj hpair
    rw [hb.findKey?_view] at hq
    obtain ⟨other, hother, rfl⟩ := Option.map_eq_some_iff.mp hq
    exact hmembers key inner other hinner hother
  · rw [hview] at hp
    rw [hview'] at hq
    obtain ⟨inner, hinner, rfl⟩ := Option.map_eq_some_iff.mp hp
    obtain ⟨other, hother, rfl⟩ := Option.map_eq_some_iff.mp hq
    exact hitems inner other hinner hother
  · rw [hview] at hp
    rw [hview'] at hq
    obtain ⟨inner, hinner, rfl⟩ := of_viewAdditional hp
    obtain ⟨other, hother, rfl⟩ := of_viewAdditional hq
    exact hadditional inner other hinner hother

/-- Nodes that are the same have the same members and require the same ones. -/
theorem Generated.fieldChanges_eq_nil (ha : a.Generated) (hb : b.Generated) (h : SameNode a b) :
    Property.removedFields a.view b.view = [] ∧ Property.addedFields a.view b.view = [] ∧
      Property.requiredFields a.view b.view = [] := by
  have hkeys (key : String) : hasKey key a.view.properties = hasKey key b.view.properties := by
    rw [ha.hasKey_view, hb.hasKey_view]
    exact isSome_of_rel (h.findKey? key)
  refine ⟨Property.removedFields_eq_nil_iff.mpr fun key hkey => (hkeys key).symm.trans hkey,
    Property.addedFields_eq_nil_iff.mpr fun key hkey => (hkeys key).trans hkey,
    Property.requiredFields_eq_nil_iff.mpr fun key hkey _ => ?_⟩
  have hnow := hb.isRequired_view.mp (List.contains_iff_mem.mpr hkey)
  exact ha.isRequired_view.mpr (h.mem_required.mpr hnow)

/-- **Nodes that are the same up to the order of required members have no changes.** The induction
is on the older node, for all nodes that are the same and all places at once. -/
theorem Generated.changes_eq_nil (ha : a.Generated) (hb : b.Generated) (h : SameNode a b)
    (membersOnly : Bool) (path : SchemaPath) :
    Property.changes membersOnly path a.view b.view = [] := by
  refine Generated.induction (Q := fun a => ∀ b : SchemaNode, b.Generated → SameNode a b →
    ∀ membersOnly path, Property.changes membersOnly path a.view b.view = [])
    (fun a ha ih b hb h membersOnly path => ?_) ha b hb h membersOnly path
  obtain ⟨hremoved, hadded, hrequired⟩ := ha.fieldChanges_eq_nil hb h
  have hnone {changes : List PropertyChange} (h : changes = []) : ∀ change ∈ changes, False :=
    List.eq_nil_iff_forall_not_mem.mp h
  refine Property.allChanges_false_iff.mp (ha.allChanges_of_parts hb h.type?_eq
    (Facets.eq_of_sortRequired h.sortRequired_facets_eq) (hnone hremoved) (hnone hadded)
    (hnone hrequired) (fun key p q hp hq => ?_) (fun p q hp hq => ?_) fun p q hp hq => ?_)
  · have hsame := h.findKey? key
    rw [findKey?_of_mem ha.inKeyOrder_declared.nodup hp, hq] at hsame
    exact Property.allChanges_false_iff.mpr (ih p (Or.inl ⟨key, hp⟩) q
      (hb.holds (Or.inl ⟨key, mem_of_findKey? hq⟩)) (of_rel_some hsame) _ _)
  · have hsame := h.items
    rw [hp, hq] at hsame
    exact Property.allChanges_false_iff.mpr (ih p (Or.inr (Or.inl hp)) q
      (hb.holds (Or.inr (Or.inl hq))) (of_rel_some hsame) _ _)
  · exact Property.allChanges_false_iff.mpr (ih p (Or.inr (Or.inr hp)) q
      (hb.holds (Or.inr (Or.inr hq))) (h.additional hp hq) _ _)

end

end SchemaNode

/-! ## Definitions that are the same -/

namespace CrdView

theorem nameChanges_self (names : NamesView) : nameChanges names names = [] := by
  have hcategories : names.categories.filter (!names.categories.contains ·) = [] :=
    List.filter_eq_nil_iff.mpr fun category hcategory => by
      rw [List.contains_iff_mem.mpr hcategory]
      exact Bool.false_ne_true
  unfold nameChanges
  rw [if_pos rfl, textsWithout_self, hcategories]
  rfl

variable {old new : CrdView} {before after : VersionView} {schema later : Property}

/-- **Definitions with one version have the changes of its schema**, if what identifies them and
their versions is the same. -/
theorem changes_eq (hgroup : old.group = new.group) (hscope : old.scope = new.scope)
    (hnames : old.names = new.names) (hold : old.versions = [before])
    (hnew : new.versions = [after]) (hname : before.name = after.name)
    (hstorage : before.storage = after.storage) (hschema : before.schema? = some schema)
    (hlater : after.schema? = some later) :
    old.changes new = (Property.changes true [] schema later).map fun (path, change) =>
      .property after.name path change := by
  have hidentity : identityChanges old new = [] := by
    unfold identityChanges
    rw [if_pos hgroup, if_pos hscope]
    rfl
  have hfound : old.version? after.name = some before := by
    rw [version?, hold, List.find?_singleton, if_pos (by rw [hname, beq_self_eq_true])]
  have hkept : new.version? before.name = some after := by
    rw [version?, hnew, List.find?_singleton, if_pos (by rw [hname, beq_self_eq_true])]
  have hremoved : old.versions.filter (fun v => (new.version? v.name).isNone) = [] := by
    rw [hold, List.filter_singleton, hkept]
    rfl
  have hversions : new.versions.flatMap (versionChanges old) = schemaChanges before after := by
    rw [hnew, List.flatMap_singleton, versionChanges, hfound]
  have hstored : storageChange old new = [] := by
    have hsame : old.storageVersion?.map (·.name) = new.storageVersion?.map (·.name) := by
      rw [storageVersion?, storageVersion?, hold, hnew, List.find?_singleton,
        List.find?_singleton, hstorage]
      split
      · exact congrArg some hname
      · rfl
    unfold storageChange
    rw [hsame]
    exact if_pos (beq_self_eq_true _)
  rw [changes, hidentity, hnames, nameChanges_self, hremoved, hversions, hstored, schemaChanges,
    hschema, hlater]
  exact List.append_nil _

end CrdView

namespace Crd

/-- **A definition is made from a document**, read in a context and with options. -/
def IsMadeFrom (ctx : DocumentContext) (options : CrdOptions) (v : Value) (crd : Crd) : Prop :=
  ∃ schema, Schema.ofValue ctx v = .ok schema ∧ Crd.ofSchema options schema = .ok crd

/-- No hint in a document names one of the structs that are made from it. -/
def HintsNameNoStruct (ctx : DocumentContext) (v : Value) : Prop :=
  ∀ schema, Schema.ofValue ctx v = .ok schema → schema.HintsNameNoStruct

/-- **Two definitions are compared without a change.** -/
def Unchanged (old new : Crd) : Prop :=
  ∃ view analysis, CrdView.ofCrd old = .ok view ∧ Analysis.ofCrd (some view) new = .ok analysis ∧
    analysis.changes = []

/-- **Generated definitions with the same group, names, scope and version are compared by their
schemas only.** -/
theorem IsGenerated.analysis_eq {old new : Crd} {version : String} {node node' : SchemaNode}
    (hold : old.IsGenerated version node) (hnew : new.IsGenerated version node')
    (hgroup : old.group = new.group) (hnames : old.names = new.names)
    (hscope : old.scope = new.scope) :
    ∃ view analysis, CrdView.ofCrd old = .ok view ∧
      Analysis.ofCrd (some view) new = .ok analysis ∧
        analysis.changes = (Property.changes true [] node.view node'.view).map
          fun (path, change) => .property version path change := by
  obtain ⟨name, scope, hlives, hview⟩ := hold.view_eq
  obtain ⟨name', scope', hlives', hview'⟩ := hnew.view_eq
  have hsame : scope = scope' := by
    have hnames : scope.name = scope'.name := (hlives.symm.trans hscope).trans hlives'
    cases scope <;> cases scope' <;> first | rfl | exact absurd hnames (by decide)
  refine ⟨_, _, hview, Outcome.bind_eq_ok.mpr ⟨_, hview', rfl⟩, ?_⟩
  exact @CrdView.changes_eq
    ⟨name, old.group, scope, CrdView.viewNames old.names, [⟨version, true, true, some node.view⟩]⟩
    ⟨name', new.group, scope', CrdView.viewNames new.names,
      [⟨version, true, true, some node'.view⟩]⟩ _ _ _ _ hgroup hsame
    (congrArg CrdView.viewNames hnames) rfl rfl rfl rfl rfl rfl

/-- **Definitions that are the same up to the order of required members are compared without a
change.** -/
theorem unchanged_of_sortRequired {old new : Crd} {version version' : String}
    {node node' : SchemaNode} (hold : old.IsGenerated version node)
    (hnew : new.IsGenerated version' node') (h : old.sortRequired = new.sortRequired) :
    old.Unchanged new := by
  have hversions : old.sortRequired.versions = new.sortRequired.versions := congrArg _ h
  rw [sortRequired, sortRequired, hold.versions, hnew.versions] at hversions
  obtain ⟨hversion, -, -, hschema⟩ := CrdVersion.mk.inj (List.cons.inj hversions).1
  obtain rfl : version = version' := hversion
  have hnodes : SameNode node node' := Option.some.inj hschema
  have hgroup : old.sortRequired.group = new.sortRequired.group := congrArg Crd.group h
  have hnames : old.sortRequired.names = new.sortRequired.names := congrArg Crd.names h
  have hscope : old.sortRequired.scope = new.sortRequired.scope := congrArg Crd.scope h
  obtain ⟨view, analysis, hview, hanalysis, hchanges⟩ := hold.analysis_eq hnew hgroup hnames hscope
  refine ⟨view, analysis, hview, hanalysis, ?_⟩
  rw [hchanges, hold.generated.changes_eq_nil hnew.generated hnodes true []]
  rfl

/-- **The definition of a document, by its outline**: made without any names of structs. -/
def ofDocument? (ctx : DocumentContext) (options : CrdOptions) (v : Value) : Option Crd :=
  match v.untagged with
  | .mapping root =>
    (Schema.kindOf root).toOption.bind fun kind =>
      (Schema.apiVersionOf root).toOption.bind fun apiVersion =>
        (Outline.ofRoot? ctx kind root).bind
          (ofOutline? options apiVersion kind
            (ctx.comments ((Place.root kind).key "kind")).documentation)
  | _ => none

variable {ctx ctx' : DocumentContext} {options : CrdOptions} {v w : Value} {crd : Crd}

/-- A document that says its kind and its version, and has fields, has the definition of these. -/
theorem ofDocument?_eq {root : List (Value × Value)} {kind : String} {apiVersion : GroupVersion}
    {fields : OutlineFields} (hroot : v.untagged = .mapping root)
    (hkind : Schema.kindOf root = .ok kind) (hversion : Schema.apiVersionOf root = .ok apiVersion)
    (hfields : Outline.ofRoot? ctx kind root = some fields) :
    ofDocument? ctx options v = ofOutline? options apiVersion kind
      (ctx.comments ((Place.root kind).key "kind")).documentation fields := by
  unfold ofDocument?
  rw [hroot]
  dsimp only
  rw [hkind, hversion]
  show (Outline.ofRoot? ctx kind root).bind _ = _
  rw [hfields, Option.bind_some]

/-- **A definition is made from a document exactly if it is that of its outline.** The outline knows
no names of structs, so it is the same for documents that are read in another order. -/
theorem isMadeFrom_iff (hhints : HintsNameNoStruct ctx v) :
    IsMadeFrom ctx options v crd ↔ ofDocument? ctx options v = some crd := by
  have hschema {schema : Schema} (h : Schema.ofValue ctx v = .ok schema) :
      (ofSchema options schema).toOption = ofDocument? ctx options v := by
    obtain ⟨root, kind, apiVersion, fields, own, nested, hroot, hkind, hversion, hfields,
      hrealises, heq⟩ := Schema.ofValue_realises h
    rw [ofDocument?_eq hroot hkind hversion hfields]
    exact ofSchema_toOption heq hrealises (Schema.ofValue_structs h).1 (hhints _ h)
  constructor
  · rintro ⟨schema, h, hcrd⟩
    rw [← hschema h, hcrd]
    rfl
  · intro hcrd
    obtain ⟨schema, h⟩ : ∃ schema, Schema.ofValue ctx v = .ok schema := by
      unfold ofDocument? at hcrd
      split at hcrd
      · next root hroot =>
        obtain ⟨kind, hkind, hcrd⟩ := Option.bind_eq_some_iff.mp hcrd
        obtain ⟨apiVersion, hversion, hcrd⟩ := Option.bind_eq_some_iff.mp hcrd
        obtain ⟨fields, hfields, -⟩ := Option.bind_eq_some_iff.mp hcrd
        exact Schema.exists_ofValue hroot (Outcome.toOption_eq_some.mp hkind)
          (Outcome.toOption_eq_some.mp hversion) hfields
      · exact nomatch hcrd
    exact ⟨schema, h, Outcome.toOption_eq_some.mp ((hschema h).trans hcrd)⟩

/-- **The outlines of reordered documents give the same definition**, up to the order of required
members. -/
theorem ofDocument?_reordered (hcomments : ∀ place, ctx.comments place = ctx'.comments place)
    (h : v.Reordered w) (hkeys : v.hasDistinctTexts = true) :
    Option.Rel (fun crd crd' => crd.sortRequired = crd'.sortRequired)
      (ofDocument? ctx options v) (ofDocument? ctx' options w) := by
  have huntagged := h.untagged
  have hkeys := (Value.hasDistinctTexts_untagged v).trans hkeys
  unfold ofDocument?
  generalize v.untagged = v', w.untagged = w' at huntagged hkeys ⊢
  cases huntagged with
  | scalar hscalar =>
    cases v' with
    | null | bool _ | number _ | string _ => exact .none
    | sequence _ | mapping _ | tagged _ _ => cases hscalar
  | tagged _ | sequence _ => exact .none
  | mapping hentries hperm =>
    have hnodup :=
      (of_decide_eq_true (Bool.and_eq_true_iff.mp hkeys).1).sublist (textEntries_keys_sublist _)
    dsimp only
    rw [← Schema.kindOf_reordered hentries hperm hnodup,
      ← Schema.apiVersionOf_reordered hentries hperm hnodup]
    cases (Schema.kindOf _).toOption with
    | none => exact .none
    | some kind =>
      cases (Schema.apiVersionOf _).toOption with
      | none => exact .none
      | some apiVersion =>
        rw [Option.bind_some, Option.bind_some, Option.bind_some, Option.bind_some,
          ← hcomments ((Place.root kind).key "kind")]
        exact rel_bind (Outline.ofRoot?_alike hcomments hentries hperm hkeys kind)
          fun _ _ => ofOutline?_alike options apiVersion kind _

/-- **Reordering the keys of a document is invisible.** Let two documents differ in the order of
keys only, at any depth, where no mapping has two keys with one text, the same comments stand at
the same places and no hint names a struct. Then a definition is made from one of them exactly if
one is made from the other. The two definitions are the same up to the order of required members,
and comparing either of them with the other reports no change. -/
theorem isMadeFrom_reordered (hcomments : ∀ place, ctx.comments place = ctx'.comments place)
    (h : v.Reordered w) (hkeys : v.hasDistinctTexts = true) (hhints : HintsNameNoStruct ctx v)
    (hhints' : HintsNameNoStruct ctx' w) :
    ((∃ crd, IsMadeFrom ctx options v crd) ↔ ∃ crd, IsMadeFrom ctx' options w crd) ∧
      ∀ crd crd', IsMadeFrom ctx options v crd → IsMadeFrom ctx' options w crd' →
        crd.sortRequired = crd'.sortRequired ∧ crd.Unchanged crd' ∧ crd'.Unchanged crd := by
  have hrel := @ofDocument?_reordered ctx ctx' options v w hcomments h hkeys
  refine ⟨?_, fun crd crd' hcrd hcrd' => ?_⟩
  · simp only [isMadeFrom_iff hhints, isMadeFrom_iff hhints', ← Option.isSome_iff_exists]
    rw [isSome_of_rel hrel]
  · have hsame : crd.sortRequired = crd'.sortRequired := by
      rw [isMadeFrom_iff hhints] at hcrd
      rw [isMadeFrom_iff hhints'] at hcrd'
      rw [hcrd, hcrd'] at hrel
      exact of_rel_some (R := fun a b => sortRequired a = sortRequired b) hrel
    obtain ⟨schema, -, hmade⟩ := hcrd
    obtain ⟨schema', -, hmade'⟩ := hcrd'
    obtain ⟨version, node, hgenerated⟩ := isGenerated_of_ofSchema hmade
    obtain ⟨version', node', hgenerated'⟩ := isGenerated_of_ofSchema hmade'
    exact ⟨hsame, unchanged_of_sortRequired hgenerated hgenerated' hsame,
      unchanged_of_sortRequired hgenerated' hgenerated hsame.symm⟩

/-- A pool whose two sizes are required. -/
def poolContext : DocumentContext :=
  ⟨{}, SourceMap.scan "pool:\n  # +required\n  max: 9\n  # +required\n  min: 1\n"⟩

/-- A pool with its largest size first. -/
def pool : Value :=
  .mapping [(.string "kind", .string "Cache"),
    (.string "pool", .mapping [(.string "max", .number (.int 9)),
      (.string "min", .number (.int 1))])]

/-- The pool with its smallest size first, in front of the kind. -/
def movedPool : Value :=
  .mapping [(.string "pool", .mapping [(.string "min", .number (.int 1)),
      (.string "max", .number (.int 9))]),
    (.string "kind", .string "Cache")]

/-- Options that say the group and the version. -/
def poolOptions : CrdOptions := { group? := some "a.io", version? := some "v1" }

/-- The definitions of the pool and of the moved pool are compared without a change. -/
theorem isMadeFrom_reordered_pool :
    ∃ crd crd', IsMadeFrom poolContext poolOptions pool crd ∧
      IsMadeFrom poolContext poolOptions movedPool crd' ∧
      crd.sortRequired = crd'.sortRequired ∧ crd.Unchanged crd' ∧ crd'.Unchanged crd := by
  have hreordered : pool.Reordered movedPool := by
    refine .mapping (.cons (.scalar rfl) (.scalar rfl) (.cons (.scalar rfl) ?_ .nil)) (.swap _ _ _)
    exact .mapping (.cons (.scalar rfl) (.scalar rfl) (.cons (.scalar rfl) (.scalar rfl) .nil))
      (.swap _ _ _)
  have hhints {v : Value} (h : ((Schema.ofValue poolContext v).toOption.all fun schema =>
      decide schema.HintsNameNoStruct) = true) : HintsNameNoStruct poolContext v := by
    intro schema hschema
    rw [hschema] at h
    exact of_decide_eq_true h
  have hmade : ((Schema.ofValue poolContext pool).toOption.bind fun schema =>
      (ofSchema poolOptions schema).toOption).isSome = true := by decide +kernel
  obtain ⟨crd, hcrd⟩ := Option.isSome_iff_exists.mp hmade
  obtain ⟨schema, hschema, hcrd⟩ := Option.bind_eq_some_iff.mp hcrd
  have hfirst : IsMadeFrom poolContext poolOptions pool crd :=
    ⟨schema, Outcome.toOption_eq_some.mp hschema, Outcome.toOption_eq_some.mp hcrd⟩
  obtain ⟨hboth, hsame⟩ := isMadeFrom_reordered (fun _ => rfl) hreordered (by decide +kernel)
    (hhints (by decide +kernel)) (hhints (by decide +kernel))
  obtain ⟨crd', hcrd'⟩ := hboth.mp ⟨crd, hfirst⟩
  exact ⟨crd, crd', hfirst, hcrd', hsame crd crd' hfirst hcrd'⟩

end Crd
end ChartSchema
