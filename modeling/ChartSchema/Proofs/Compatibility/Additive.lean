import ChartSchema.Proofs.Compatibility.Reordering
import ChartSchema.Proofs.Crd.Growth
/-!
# Purely additive edits

A values document that only gets new entries is made into a definition that only gets new optional
fields. `Crd.OnlyAdds` says this of two definitions as they are compared, and that the policy
`strict` lets the later one through. Outlines and definitions that grow are dealt with elsewhere;
here it is proved that a comparison finds nothing else between nodes that grow
(`SchemaNode.Generated.onlyAdds`), and everything is put together.

One entry is not like the others. The `apiVersion` of a document is no field, and where it is new
it takes the place of what the options say. What has to be assumed of it is that the group and the
version come out the same.
-/

namespace ChartSchema

open Yaml (Value)

/-! ## Nodes that grow -/

namespace SchemaNode

variable {a b : SchemaNode}

theorem Generated.required_declared (ha : a.Generated) :
    ∀ key ∈ a.facets.required?.getD [], hasKey key a.declared = true := by
  cases ha with
  | struct _ _ hkeys => exact hkeys
  | scalar _ _ hplain | anything _ _ hplain | object _ hplain | list _ _ hplain
  | map _ _ hplain =>
    rw [hplain.required]
    exact fun _ hkey => absurd hkey List.not_mem_nil
  | intOrString _ hnone _ =>
    rw [hnone]
    exact fun _ hkey => absurd hkey List.not_mem_nil

theorem Grows.hasKey_declared (h : a.Grows b) {key : String}
    (hkey : hasKey key a.declared = true) : hasKey key b.declared = true := by
  obtain ⟨p, hp⟩ := Option.isSome_iff_exists.mp hkey
  obtain ⟨q, hq, -⟩ := h.properties key p hp
  exact Option.isSome_iff_exists.mpr ⟨q, hq⟩

/-- **Where a node grows, members are added and need not be given.** None is gone, and none that
was there has come to be required. -/
theorem Generated.fieldChanges_of_grows (ha : a.Generated) (hb : b.Generated) (h : a.Grows b) :
    Property.removedFields a.view b.view = [] ∧
      (∀ change ∈ Property.addedFields a.view b.view, change.kind = .addOptionalField) ∧
      Property.requiredFields a.view b.view = [] := by
  have hbefore {key : String} (hkey : b.view.isRequired key = true) :
      key ∈ a.facets.required?.getD [] :=
    h.required key (hb.isRequired_view.mp hkey)
  refine ⟨Property.removedFields_eq_nil_iff.mpr fun key hkey => ?_, fun change hc => ?_,
    Property.requiredFields_eq_nil_iff.mpr fun key hkey _ =>
      ha.isRequired_view.mpr (hbefore (List.contains_iff_mem.mpr hkey))⟩
  · rw [ha.hasKey_view] at hkey
    rw [hb.hasKey_view]
    exact h.hasKey_declared hkey
  · -- What is required was required before, and was declared then, so that it is not new.
    obtain ⟨⟨key, p⟩, hmem, rfl⟩ := List.mem_map.mp hc
    obtain ⟨-, hnew⟩ := List.mem_filter.mp hmem
    have hoptional : b.view.isRequired key = false := by
      refine Bool.eq_false_iff.mpr fun hkey => ?_
      rw [ha.hasKey_view, ha.required_declared key (hbefore hkey)] at hnew
      exact Bool.false_ne_true hnew
    rw [PropertyChange.kind, hoptional]
    rfl

/-- **Nodes that grow get optional fields**, and nothing else is found between them. The induction
is on the older node: the members that both have grow, and the rest is the same. -/
theorem Generated.onlyAdds (ha : a.Generated) (hb : b.Generated) (h : a.Grows b)
    (membersOnly : Bool) (path : SchemaPath) :
    Property.AllChanges (·.kind = .addOptionalField) membersOnly path a.view b.view := by
  refine Generated.induction (Q := fun a => ∀ b : SchemaNode, b.Generated → a.Grows b →
    ∀ membersOnly path,
      Property.AllChanges (·.kind = .addOptionalField) membersOnly path a.view b.view)
    (fun a ha ih b hb h membersOnly path => ?_) ha b hb h membersOnly path
  obtain ⟨hremoved, hadded, hrequired⟩ := ha.fieldChanges_of_grows hb h
  have hnone {changes : List PropertyChange} (h : changes = []) :
      ∀ change ∈ changes, change.kind = .addOptionalField :=
    h ▸ fun _ hc => absurd hc List.not_mem_nil
  refine ha.allChanges_of_parts hb h.type?_eq h.facets_eq (hnone hremoved) hadded (hnone hrequired)
    (fun key p q hp hq => ?_) (fun p q hp hq => ?_) fun p q hp hq => ?_
  · obtain ⟨q', hq', hgrows⟩ := h.properties key p (findKey?_of_mem ha.inKeyOrder_declared.nodup hp)
    obtain rfl := Option.some.inj (hq.symm.trans hq')
    exact ih p (Or.inl ⟨key, hp⟩) q (hb.holds (Or.inl ⟨key, mem_of_findKey? hq⟩)) hgrows _ _
  · have hgrows := h.items
    rw [hp, hq] at hgrows
    exact ih p (Or.inr (Or.inl hp)) q (hb.holds (Or.inr (Or.inl hq))) (of_rel_some hgrows) _ _
  · have hsame := h.additional?_eq
    rw [hp, hq] at hsame
    obtain rfl := OrBool.value.inj (Option.some.inj hsame)
    exact ih p (Or.inr (Or.inr hp)) p (hb.holds (Or.inr (Or.inr hq))) (.refl p) _ _

end SchemaNode

/-! ## Definitions that grow -/

namespace Crd

/-- **A definition only adds optional fields to another one**, as the two are compared, and the
strictest policy lets it take the other one's place. -/
def OnlyAdds (old new : Crd) : Prop :=
  ∃ view analysis, CrdView.ofCrd old = .ok view ∧ Analysis.ofCrd (some view) new = .ok analysis ∧
    (∀ change ∈ analysis.changes, change.kind = .addOptionalField) ∧
      Policy.strict.decide analysis = .accept

variable {old new : Crd} {version version' : String} {node node' : SchemaNode}

/-- **Generated definitions that grow only add optional fields.** -/
theorem Grows.onlyAdds (h : old.Grows new) (hold : old.IsGenerated version node)
    (hnew : new.IsGenerated version' node') : old.OnlyAdds new := by
  have hversions := h.versions
  rw [hold.versions, hnew.versions] at hversions
  obtain ⟨hname, hschema⟩ : version = version' ∧
      Option.Rel SchemaNode.Grows (some node) (some node') := by
    cases hversions
    assumption
  subst hname
  obtain ⟨view, analysis, hview, hanalysis, hchanges⟩ :=
    hold.analysis_eq hnew h.group h.names h.scope
  have hkind : ∀ change ∈ analysis.changes, change.kind = .addOptionalField := by
    intro change hc
    rw [hchanges] at hc
    obtain ⟨own, hown, rfl⟩ := List.mem_map.mp hc
    exact hold.generated.onlyAdds hnew.generated (of_rel_some hschema) true [] own hown
  refine ⟨view, analysis, hview, hanalysis, hkind, Policy.accept_of_safe _ fun change hc => ?_⟩
  rw [Change.severity, hkind change hc]
  rfl

/-- A definition that only adds optional fields is one of the same group. -/
theorem OnlyAdds.group_eq (h : old.OnlyAdds new) (hold : old.IsGenerated version node)
    (hnew : new.IsGenerated version' node') : old.group = new.group := by
  obtain ⟨name, scope, -, hview⟩ := hold.view_eq
  obtain ⟨name', scope', -, hview'⟩ := hnew.view_eq
  obtain ⟨view, analysis, h, hanalysis, hkind, -⟩ := h
  have hsafe : ∀ change ∈ analysis.changes, change.severity ≠ .dangerous := fun change hc => by
    rw [Change.severity, hkind change hc]
    exact Severity.noConfusion
  obtain rfl := Except.ok.inj (hview.symm.trans h)
  obtain ⟨later, hlater, hcompared⟩ := Outcome.bind_eq_ok.mp hanalysis
  obtain rfl := Except.ok.inj (hview'.symm.trans hlater)
  obtain rfl := Outcome.pure_eq_ok.mp hcompared
  exact (CrdView.same_of_not_dangerous rfl rfl rfl rfl hsafe).1

/-! ## Documents -/

variable {ctx : DocumentContext} {options : CrdOptions} {v w : Value} {schema schema' : Schema}
  {crd crd' : Crd} {gone : List Place}

/-- **Purely additive edits pass the strictest policy.** Let a document arise from another one by
deleting entries of mappings in such a way that no mapping loses all of its entries, that no entry
is left whose keys are those of a deleted one, indices aside, and that no deleted entry is marked
as required. Let both be read with the same comments and made into definitions with the same
options, where no hint names a struct. If the group and the version come out the same, which needs
to be asked only where `apiVersion` is deleted, then the definition of the larger document only adds
optional fields to that of the smaller one. -/
theorem onlyAdds_of_thinned (hschema : Schema.ofValue ctx w = .ok schema)
    (hcrd : ofSchema options schema = .ok crd) (hschema' : Schema.ofValue ctx v = .ok schema')
    (hcrd' : ofSchema options schema' = .ok crd') (hhints : schema.HintsNameNoStruct)
    (hhints' : schema'.HintsNameNoStruct) (hthinned : v.Thinned (Place.root schema.kind) gone w)
    (hleft : ∀ q ∈ w.entryPlaces (Place.root schema.kind), ∀ p ∈ gone, p.keys ≠ q.keys)
    (hoptional : ∀ p ∈ gone, Marker.NoneRequired (ctx.comments p).markers)
    (hversion : (Place.root schema.kind).key "apiVersion" ∈ gone →
      groupVersion options schema = groupVersion options schema') : crd.OnlyAdds crd' := by
  obtain ⟨root, kind, apiVersion, fields, own, nested, hroot, hkind, hapi, hfields, hrealises,
    rfl⟩ := Schema.ofValue_realises hschema
  obtain ⟨root', kind', apiVersion', fields', own', nested', hroot', hkind', hapi', hfields',
    hrealises', rfl⟩ := Schema.ofValue_realises hschema'
  have hentries : Value.ThinnedEntries (Place.root kind) gone root' root := by
    have huntagged := hthinned.untagged
    rw [hroot, hroot'] at huntagged
    cases huntagged with
    | scalar h => cases h
    | mapping h _ => exact h
  rw [← Value.entryPlaces_untagged, hroot] at hleft
  have hkept : (Place.root kind).key "kind" ∉ gone := by
    intro hgone
    cases hvalue : valueOfKey? "kind" root with
    | none => rw [Schema.kindOf, hvalue] at hkind; cases hkind
    | some value => exact hleft _ (Value.mem_placesOfEntries hvalue) _ hgone rfl
  rw [Schema.kindOf_thinned hentries hkept, hkind] at hkind'
  obtain rfl := Except.ok.inj hkind'
  have hsame : groupVersion options { apiVersion, kind, structs := [] } =
      groupVersion options { apiVersion := apiVersion', kind, structs := [] } := by
    by_cases hgone : (Place.root kind).key "apiVersion" ∈ gone
    · exact hversion hgone
    · rw [Schema.apiVersionOf_thinned hentries hgone, hapi] at hapi'
      rw [Except.ok.inj hapi']
  have hgrow := Outline.ofRoot?_grow hoptional hentries hleft hfields hfields'
  have hold := @ofSchema_toOption options _ _ _ _ _ _ _ rfl hrealises
    (Schema.ofValue_structs hschema).1 hhints
  have hnew := @ofSchema_toOption options _ _ _ _ _ _ _ rfl hrealises'
    (Schema.ofValue_structs hschema').1 hhints'
  rw [hcrd] at hold
  rw [hcrd'] at hnew
  obtain ⟨version, node, hgenerated⟩ := isGenerated_of_ofSchema hcrd
  obtain ⟨version', node', hgenerated'⟩ := isGenerated_of_ofSchema hcrd'
  exact (ofOutline?_grows hgrow hsame hold.symm hnew.symm).onlyAdds hgenerated hgenerated'

/-- What a document is made into, where no hint names a struct: its kind, the group of its
definition, and the group and the version that are named for it. -/
theorem exists_made {kind group : String} {named : String × String}
    (h : ((Schema.ofValue ctx v).toOption.bind fun schema =>
      (ofSchema options schema).toOption.map fun crd =>
        (schema.kind, crd.group, (groupVersion options schema).toOption,
          decide schema.HintsNameNoStruct)) = some (kind, group, some named, true)) :
    ∃ schema crd, Schema.ofValue ctx v = .ok schema ∧ ofSchema options schema = .ok crd ∧
      schema.kind = kind ∧ crd.group = group ∧ groupVersion options schema = .ok named ∧
        schema.HintsNameNoStruct := by
  obtain ⟨schema, hschema, h⟩ := Option.bind_eq_some_iff.mp h
  obtain ⟨crd, hcrd, h⟩ := Option.map_eq_some_iff.mp h
  obtain ⟨hkind, h⟩ := Prod.mk.inj h
  obtain ⟨hgroup, h⟩ := Prod.mk.inj h
  obtain ⟨hnamed, hhints⟩ := Prod.mk.inj h
  exact ⟨schema, crd, Outcome.toOption_eq_some.mp hschema, Outcome.toOption_eq_some.mp hcrd, hkind,
    hgroup, Outcome.toOption_eq_some.mp hnamed, of_decide_eq_true hhints⟩

/-- Options that say the group and the version. -/
def farmOptions : CrdOptions := { group? := some "b.io", version? := some "v1" }

/-- A farm with two barns and a silo, which says the same as the options. -/
def farm : Value :=
  .mapping [(.string "apiVersion", .string "b.io/v1"), (.string "kind", .string "Farm"),
    (.string "barns", .sequence
      [.mapping [(.string "name", .string "north"), (.string "cows", .number (.int 3))],
        .mapping [(.string "cows", .number (.int 5)), (.string "name", .string "south")]]),
    (.string "silo", .mapping [(.string "deep", .number (.int 2))])]

/-- The farm without a version, without cows and without a silo. -/
def bareFarm : Value :=
  .mapping [(.string "kind", .string "Farm"),
    (.string "barns", .sequence
      [.mapping [(.string "name", .string "north")], .mapping [(.string "name", .string "south")]])]

/-- The markers above the keys of the farm. -/
def farmSources : SourceMap :=
  ⟨[([.key "barns"], ⟨2, ["# +required"]⟩),
    ([.key "barns", .index 0, .key "cows"], ⟨4, ["# +Minimum=1", "# +optional"]⟩),
    ([.key "silo", .key "deep"], ⟨8, ["# +required"]⟩)]⟩

/-- The places of the version, of the cows and of the silo. -/
def farmGone : List Place :=
  [(Place.root "Farm").key "apiVersion", (((Place.root "Farm").key "barns").index 0).key "cows",
    (((Place.root "Farm").key "barns").index 1).key "cows", (Place.root "Farm").key "silo"]

/-- The bare farm is the farm without these. -/
theorem farm_thinned : farm.Thinned (Place.root "Farm") farmGone bareFarm := by
  have hnorth : (Value.mapping [(.string "name", .string "north"),
      (.string "cows", .number (.int 3))]).Thinned (((Place.root "Farm").key "barns").index 0)
      [(((Place.root "Farm").key "barns").index 0).key "cows"]
      (.mapping [(.string "name", .string "north")]) :=
    .mapping (@Value.ThinnedEntries.keep _ [] _ _ _ _ _ _ _ rfl (.scalar rfl) (.drop rfl .nil))
      fun h => absurd h (List.cons_ne_nil _ _)
  have hsouth : (Value.mapping [(.string "cows", .number (.int 5)),
      (.string "name", .string "south")]).Thinned (((Place.root "Farm").key "barns").index 1)
      [(((Place.root "Farm").key "barns").index 1).key "cows"]
      (.mapping [(.string "name", .string "south")]) :=
    .mapping (.drop rfl (@Value.ThinnedEntries.keep _ [] [] _ _ _ _ _ _ rfl (.scalar rfl) .nil))
      fun h => absurd h (List.cons_ne_nil _ _)
  refine .mapping (.drop rfl (@Value.ThinnedEntries.keep _ [] [_, _, _] _ _ _ _ _ _ rfl
    (.scalar rfl) ?_)) fun h => absurd h (List.cons_ne_nil _ _)
  exact @Value.ThinnedEntries.keep _ [_, _] [_] _ _ _ _ _ _ rfl
    (.sequence (.cons hnorth (.cons hsouth .nil))) (.drop rfl .nil)

/-- The definition of the farm only adds the cows and the silo. -/
theorem onlyAdds_of_thinned_farm :
    ∃ schema schema' crd crd', Schema.ofValue ⟨{}, farmSources⟩ bareFarm = .ok schema ∧
      ofSchema farmOptions schema = .ok crd ∧ Schema.ofValue ⟨{}, farmSources⟩ farm = .ok schema' ∧
      ofSchema farmOptions schema' = .ok crd' ∧ crd.OnlyAdds crd' := by
  obtain ⟨schema, crd, hschema, hcrd, hkind, -, hnamed, hhints⟩ := @exists_made ⟨{}, farmSources⟩
    farmOptions bareFarm "Farm" "b.io" ("b.io", "v1") (by decide +kernel)
  obtain ⟨schema', crd', hschema', hcrd', -, -, hnamed', hhints'⟩ := @exists_made ⟨{}, farmSources⟩
    farmOptions farm "Farm" "b.io" ("b.io", "v1") (by decide +kernel)
  refine ⟨schema, schema', crd, crd', hschema, hcrd, hschema', hcrd', ?_⟩
  refine onlyAdds_of_thinned hschema hcrd hschema' hcrd' hhints hhints' (hkind ▸ farm_thinned) ?_
    (by decide) fun _ => hnamed.trans hnamed'.symm
  rw [hkind]
  decide

/-- A document without a version. -/
def unversioned : Value :=
  .mapping [(.string "kind", .string "Demo"), (.string "a", .number (.int 1))]

/-- The same document with a version. -/
def versioned : Value :=
  .mapping [(.string "kind", .string "Demo"), (.string "a", .number (.int 1)),
    (.string "apiVersion", .string "a.io/v1")]

/-- **A version that is new may change the group**, since it takes the place of what the options
say: all that is asked elsewhere of a deleted entry holds of the `apiVersion` here. -/
theorem not_onlyAdds_versioned :
    ∃ schema schema' crd crd', Schema.ofValue ⟨{}, {}⟩ unversioned = .ok schema ∧
      ofSchema farmOptions schema = .ok crd ∧ Schema.ofValue ⟨{}, {}⟩ versioned = .ok schema' ∧
      ofSchema farmOptions schema' = .ok crd' ∧ schema.HintsNameNoStruct ∧
      schema'.HintsNameNoStruct ∧ versioned.hasDistinctTexts = true ∧
      versioned.Thinned (Place.root schema.kind) [(Place.root schema.kind).key "apiVersion"]
        unversioned ∧
      (∀ q ∈ unversioned.entryPlaces (Place.root schema.kind),
        ((Place.root schema.kind).key "apiVersion").keys ≠ q.keys) ∧
      Marker.NoneRequired (DocumentContext.comments ⟨{}, {}⟩
        ((Place.root schema.kind).key "apiVersion")).markers ∧ ¬crd.OnlyAdds crd' := by
  obtain ⟨schema, crd, hschema, hcrd, hkind, hgroup, -, hhints⟩ := @exists_made ⟨{}, {}⟩
    farmOptions unversioned "Demo" "b.io" ("b.io", "v1") (by decide +kernel)
  obtain ⟨schema', crd', hschema', hcrd', -, hgroup', -, hhints'⟩ := @exists_made ⟨{}, {}⟩
    farmOptions versioned "Demo" "a.io" ("a.io", "v1") (by decide +kernel)
  refine ⟨schema, schema', crd, crd', hschema, hcrd, hschema', hcrd', hhints, hhints',
    by decide, ?_, ?_, fun _ hline => absurd hline List.not_mem_nil, fun honly => ?_⟩
  · refine .mapping (@Value.ThinnedEntries.keep _ [] [_] _ _ _ _ _ _ rfl (.scalar rfl) ?_)
      fun h => absurd h (List.cons_ne_nil _ _)
    exact @Value.ThinnedEntries.keep _ [] [_] _ _ _ _ _ _ rfl (.scalar rfl) (.drop rfl .nil)
  · rw [hkind]
    decide
  · obtain ⟨version, node, hgenerated⟩ := isGenerated_of_ofSchema hcrd
    obtain ⟨version', node', hgenerated'⟩ := isGenerated_of_ofSchema hcrd'
    have hsame := honly.group_eq hgenerated hgenerated'
    rw [hgroup, hgroup'] at hsame
    exact absurd hsame (by decide)

end Crd
end ChartSchema
