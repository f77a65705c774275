import ChartSchema.Proofs.Compatibility.DefinitionView
import ChartSchema.Proofs.Compatibility.Locations
import ChartSchema.Schema.Infer
/-!
# Released fields survive

A chart is released again and again, each time with other values and options. A release makes a
definition from its values and compares it with the one that was stored last, and it is stored in
its place only if the policy accepts. `Release.run` is what is stored after some releases.

Whatever is stored at some time survives in what is stored later: the group, the kind, the scope
and the version are the same, and the locations of the schema are kept. One release gives this for
two definitions that are stored one after the other, since no change that the policies `safe` and
`strict` let through is dangerous, and the rest is that surviving is transitive.
-/

namespace ChartSchema

/-! ## Surviving -/

/-- **A definition survives in a later one**: what identifies its resources is the same, and every
location of the schema of a version is kept. -/
structure Crd.SurvivesIn (old new : Crd) : Prop where
  /-- The group is the same. -/
  group : old.group = new.group
  /-- The kind is the same. -/
  kind : old.names.kind = new.names.kind
  /-- The scope is the same. -/
  scope : old.scope = new.scope
  /-- The versions have the same names. -/
  versions : old.versions.map (·.name) = new.versions.map (·.name)
  /-- The locations of the schema of a version are kept. -/
  keeps : ∀ before ∈ old.versions, ∀ schema, before.schema? = some schema →
    ∃ after ∈ new.versions, after.name = before.name ∧
      ∃ later, after.schema? = some later ∧ schema.view.Keeps later.view

/-- **A definition with the form of those that are generated**: it is named, and its only version
has the node of a resource as its schema. -/
structure Crd.IsGenerated (crd : Crd) (version : String) (node : SchemaNode) : Prop where
  /-- The definition is named. -/
  named : ∃ name, crd.name? = some name
  /-- The scope is one of the two. -/
  inScope : ∃ scope : Scope, crd.scope = scope.name
  /-- There is one version, which is served and stored. -/
  versions : crd.versions = [{ name := version, served := true, storage := true
                               schema? := some node }]
  /-- The schema is the node of a resource. -/
  resource : ∃ own, node.IsResource own

/-- A definition that is generated has the form of those that are. -/
theorem Crd.isGenerated_of_ofSchema {options : CrdOptions} {schema : Schema} {crd : Crd}
    (h : Crd.ofSchema options schema = .ok crd) : ∃ version node, crd.IsGenerated version node := by
  obtain ⟨group, version, root, node, own, resource, -, -, -, -, hresource, rfl⟩ :=
    Crd.ofSchema_eq_ok h
  exact ⟨version, resource, ⟨_, rfl⟩, ⟨options.scope, rfl⟩, rfl, own, hresource⟩

namespace Crd.IsGenerated

variable {old mid new : Crd} {version version' version'' : String}
  {node node' node'' : SchemaNode}

theorem generated (h : old.IsGenerated version node) : node.Generated := by
  obtain ⟨own, hresource⟩ := h.resource
  exact hresource.generated

theorem type_eq (h : old.IsGenerated version node) : node.view.type = .object := by
  rw [SchemaNode.view_eq h.generated.others_eq]
  obtain ⟨own, hresource⟩ := h.resource
  obtain ⟨description?, required?, -, rfl⟩ := hresource.eq
  rfl

/-- The view of a generated definition has its only version. -/
theorem view_eq (h : old.IsGenerated version node) : ∃ name scope, old.scope = scope.name ∧
    CrdView.ofCrd old = .ok {
      name, group := old.group, scope, names := CrdView.viewNames old.names
      versions := [{ name := version, served := true, storage := true
                     schema? := some node.view }] } := by
  obtain ⟨name, hname⟩ := h.named
  obtain ⟨scope, hscope⟩ := h.inScope
  refine ⟨name, scope, hscope, ?_⟩
  rw [CrdView.ofCrd_eq hname, h.versions, hscope]
  cases scope <;> rfl

/-- For generated definitions it is enough to look at the only version. -/
theorem survivesIn (hold : old.IsGenerated version node) (hnew : new.IsGenerated version node')
    (hgroup : old.group = new.group) (hkind : old.names.kind = new.names.kind)
    (hscope : old.scope = new.scope) (hkeeps : node.view.Keeps node'.view) :
    old.SurvivesIn new := by
  refine ⟨hgroup, hkind, hscope, by rw [hold.versions, hnew.versions]; rfl, ?_⟩
  rw [hold.versions, hnew.versions]
  intro before hbefore schema hschema
  obtain rfl := List.mem_singleton.mp hbefore
  obtain rfl := Option.some.inj hschema
  exact ⟨_, List.mem_singleton_self _, rfl, node', rfl, hkeeps⟩

/-- The only version of a definition in which a generated one survives. -/
theorem keeps_of_survivesIn (hold : old.IsGenerated version node)
    (hnew : new.IsGenerated version' node') (h : old.SurvivesIn new) :
    version = version' ∧ node.view.Keeps node'.view := by
  have hversions := h.versions
  rw [hold.versions, hnew.versions] at hversions
  have hkeeps := h.keeps
  rw [hold.versions, hnew.versions] at hkeeps
  obtain ⟨after, hafter, -, later, hlater, hkept⟩ :=
    hkeeps _ (List.mem_singleton_self _) node rfl
  obtain rfl := List.mem_singleton.mp hafter
  obtain rfl := Option.some.inj hlater
  exact ⟨(List.cons.inj hversions).1, hkept⟩

/-- **Surviving is transitive** for generated definitions. Each location that the first one
describes the second one describes with a type at least as wide, and the third one likewise. -/
theorem survivesIn_trans (hold : old.IsGenerated version node)
    (hmid : mid.IsGenerated version' node') (hnew : new.IsGenerated version'' node'')
    (h : old.SurvivesIn mid) (h' : mid.SurvivesIn new) : old.SurvivesIn new := by
  obtain ⟨rfl, hkeeps⟩ := hold.keeps_of_survivesIn hmid h
  obtain ⟨rfl, hkeeps'⟩ := hmid.keeps_of_survivesIn hnew h'
  exact hold.survivesIn hnew (h.group.trans h'.group) (h.kind.trans h'.kind)
    (h.scope.trans h'.scope) (hkeeps.trans hmid.generated.anyIsLeaf hkeeps')

theorem survivesIn_refl (h : old.IsGenerated version node) : old.SurvivesIn old :=
  h.survivesIn h rfl rfl rfl (.refl _)

end Crd.IsGenerated

/-! ## One comparison -/

namespace CrdView

/-- **The changes of the schema of the only version** are among those of the definition. -/
theorem mem_changes_of_schema {old new : CrdView} {before after : VersionView}
    {schema later : Property} (hold : old.versions = [before]) (hnew : new.versions = [after])
    (hname : before.name = after.name) (hschema : before.schema? = some schema)
    (hlater : after.schema? = some later) :
    ∀ change ∈ Property.changes true [] schema later,
      .property after.name change.1 change.2 ∈ old.changes new := by
  intro change hc
  have hfound : old.version? after.name = some before := by
    rw [version?, hold, List.find?_singleton, if_pos (by simpa using hname)]
  have hmem : .property after.name change.1 change.2
      ∈ new.versions.flatMap (versionChanges old) := by
    rw [hnew, List.flatMap_singleton, versionChanges, hfound]
    dsimp only
    rw [schemaChanges, hschema, hlater]
    exact List.mem_map.mpr ⟨change, hc, rfl⟩
  simp only [changes, List.mem_append]
  exact .inl (.inr hmem)

/-- **A comparison of definitions without dangerous changes**, where each has one version: what
identifies the resources is the same, and no change of the schema is dangerous. -/
theorem same_of_not_dangerous {old new : CrdView} {before after : VersionView}
    {schema later : Property} (hold : old.versions = [before]) (hnew : new.versions = [after])
    (hschema : before.schema? = some schema) (hlater : after.schema? = some later)
    (h : ∀ change ∈ old.changes new, change.severity ≠ .dangerous) :
    old.group = new.group ∧ old.scope = new.scope ∧ old.names.kind = new.names.kind ∧
      before.name = after.name ∧
      Property.AllChanges Property.NotDangerous true [] schema later := by
  have hidentity : ∀ change ∈ identityChanges old new, change.severity ≠ .dangerous :=
    fun change hc => h change (by simp only [changes, List.mem_append]; tauto)
  have hnames : ∀ change ∈ nameChanges old.names new.names, change.severity ≠ .dangerous :=
    fun change hc => h change (by simp only [changes, List.mem_append]; tauto)
  have hremoved : ∀ change ∈ (old.versions.filter fun v => (new.version? v.name).isNone).map
      (Change.versionRemoved ·.name), change.severity ≠ .dangerous :=
    fun change hc => h change (by simp only [changes, List.mem_append]; tauto)
  have hgroup : old.group = new.group := by
    by_contra hne
    exact hidentity (.group old.group new.group)
      (List.mem_append_left _ (by rw [if_neg hne]; exact List.mem_singleton_self _)) rfl
  have hscope : old.scope = new.scope := by
    by_contra hne
    exact hidentity (.scope old.scope new.scope)
      (List.mem_append_right _ (by rw [if_neg hne]; exact List.mem_singleton_self _)) rfl
  have hkind : old.names.kind = new.names.kind := by
    by_contra hne
    refine hnames (.kindName old.names.kind new.names.kind) ?_ rfl
    simp only [nameChanges, if_neg hne, List.mem_append, List.mem_singleton, true_or]
  have hname : before.name = after.name := by
    by_contra hne
    refine hremoved (.versionRemoved before.name) ?_ rfl
    refine List.mem_map.mpr ⟨before, List.mem_filter.mpr ⟨?_, ?_⟩, rfl⟩
    · rw [hold]
      exact List.mem_singleton_self _
    · rw [version?, hnew, List.find?_singleton, if_neg (by simpa using Ne.symm hne)]
      rfl
  exact ⟨hgroup, hscope, hkind, hname, fun change hc =>
    h _ (mem_changes_of_schema hold hnew hname hschema hlater change hc)⟩

end CrdView

/-! ## Releases -/

/-- A release of a chart: what its definition is made from, and the policy that decides whether
it is stored. The policy is not `force`, which accepts everything. -/
structure Release where
  /-- The text of the values document. -/
  values : String
  /-- How it is read. -/
  build : BuildOptions
  /-- How its definition is made. -/
  options : CrdOptions
  /-- Who decides. -/
  policy : Policy
  /-- Somebody decides. -/
  guarded : policy ≠ .force

namespace Release

/-- The definition of a release, if one can be made and the policy accepts it in place of the
one that is stored. -/
def accepted? (release : Release) (stored? : Option Crd) : Option Crd := do
  let schema ← (Schema.infer release.build release.values).toOption
  let crd ← (Crd.ofSchema release.options schema).toOption
  let previous? ← stored?.mapM fun stored => (CrdView.ofCrd stored).toOption
  let analysis ← (Analysis.ofCrd previous? crd).toOption
  match release.policy.decide analysis with
  | .accept => some crd
  | .reject .. => none

/-- What is stored after a release. A release that fails or is rejected changes nothing. -/
def store (stored? : Option Crd) (release : Release) : Option Crd :=
  (release.accepted? stored?).or stored?

/-- **What is stored after some releases**, the first one first. -/
def run (stored? : Option Crd) (releases : List Release) : Option Crd :=
  releases.foldl store stored?

theorem run_singleton (stored? : Option Crd) (release : Release) :
    run stored? [release] = store stored? release := by
  rw [run, List.foldl_cons, List.foldl_nil]

/-- Releases behind releases go on with what was stored. -/
theorem run_append (stored? : Option Crd) (earlier later : List Release) :
    run stored? (earlier ++ later) = run (run stored? earlier) later := List.foldl_append

/-- A definition that is accepted was made by the release, and the policy was asked. -/
theorem accepted?_eq_some {release : Release} {stored? : Option Crd} {crd : Crd}
    (h : release.accepted? stored? = some crd) :
    ∃ schema previous? analysis, Crd.ofSchema release.options schema = .ok crd ∧
      (stored?.mapM fun stored => (CrdView.ofCrd stored).toOption) = some previous? ∧
      Analysis.ofCrd previous? crd = .ok analysis ∧ release.policy.decide analysis = .accept := by
  obtain ⟨schema, -, h⟩ := Option.bind_eq_some_iff.mp h
  obtain ⟨made, hmade, h⟩ := Option.bind_eq_some_iff.mp h
  obtain ⟨previous?, hprevious, h⟩ := Option.bind_eq_some_iff.mp h
  obtain ⟨analysis, hanalysis, h⟩ := Option.bind_eq_some_iff.mp h
  split at h
  · next haccept =>
    obtain rfl := Option.some.inj h
    exact ⟨schema, previous?, analysis, Outcome.toOption_eq_some.mp hmade, hprevious,
      Outcome.toOption_eq_some.mp hanalysis, haccept⟩
  · exact nomatch h

variable {old new : Crd} {version : String} {node : SchemaNode}

theorem accepted?_isGenerated {release : Release} {stored? : Option Crd}
    (h : release.accepted? stored? = some new) :
    ∃ version node, new.IsGenerated version node := by
  obtain ⟨schema, previous?, analysis, hnew, -⟩ := accepted?_eq_some h
  exact Crd.isGenerated_of_ofSchema hnew

/-- **A definition survives in one that is accepted in its place.** A guarded policy lets no
dangerous change through, and each way not to survive is a dangerous change. -/
theorem accepted?_survives {release : Release} (hold : old.IsGenerated version node)
    (h : release.accepted? (some old) = some new) : old.SurvivesIn new := by
  obtain ⟨version', node', hnew⟩ := accepted?_isGenerated h
  obtain ⟨schema, previous?, analysis, -, hprevious, hanalysis, haccept⟩ := accepted?_eq_some h
  obtain ⟨name, scope, hscope, hview⟩ := hold.view_eq
  obtain ⟨name', scope', hscope', hview'⟩ := hnew.view_eq
  have hviewed : (CrdView.ofCrd old).toOption.map some = some previous? := hprevious
  rw [hview] at hviewed
  obtain rfl := Option.some.inj hviewed
  obtain ⟨view, hview'', hanalysis⟩ := Outcome.bind_eq_ok.mp hanalysis
  rw [hview'] at hview''
  obtain rfl := Except.ok.inj hview''
  obtain rfl := Outcome.pure_eq_ok.mp hanalysis
  obtain ⟨hgroup, hsame, hkind, hversion, hchanges⟩ := CrdView.same_of_not_dangerous rfl rfl rfl rfl
    (Policy.not_dangerous_of_accept release.guarded rfl haccept)
  obtain rfl : version = version' := hversion
  refine hold.survivesIn hnew hgroup hkind
    (hscope.trans ((congrArg Scope.name hsame).trans hscope'.symm)) ?_
  exact Property.keeps_of_changes hold.generated hnew.generated
    (fun _ => ⟨hold.type_eq.trans hnew.type_eq.symm, by rw [hold.type_eq]; exact (nomatch ·)⟩)
    hchanges

/-- **A stored definition survives one release**: something is stored behind it, in which it
survives. -/
theorem store_survives (release : Release) (hold : old.IsGenerated version node) :
    ∃ new version node, store (some old) release = some new ∧ new.IsGenerated version node ∧
      old.SurvivesIn new := by
  unfold store
  cases haccepted : release.accepted? (some old) with
  | none => exact ⟨old, version, node, rfl, hold, hold.survivesIn_refl⟩
  | some new =>
    obtain ⟨version', node', hnew⟩ := accepted?_isGenerated haccepted
    exact ⟨new, version', node', rfl, hnew, accepted?_survives hold haccepted⟩

/-- A stored definition survives any releases. -/
theorem run_survives (releases : List Release) (hold : old.IsGenerated version node) :
    ∃ new version node, run (some old) releases = some new ∧ new.IsGenerated version node ∧
      old.SurvivesIn new := by
  induction releases generalizing old version node with
  | nil => exact ⟨old, version, node, rfl, hold, hold.survivesIn_refl⟩
  | cons release rest ih =>
    obtain ⟨mid, version', node', hmid, hgenerated, hsurvives⟩ := store_survives release hold
    obtain ⟨new, version'', node'', hnew, hgenerated', hsurvives'⟩ := ih hgenerated
    refine ⟨new, version'', node'', ?_, hgenerated',
      hold.survivesIn_trans hgenerated hgenerated' hsurvives hsurvives'⟩
    rw [run, List.foldl_cons, hmid]
    exact hnew

/-- What is stored was generated, if what was stored at first was. -/
theorem run_isGenerated {stored? : Option Crd} (releases : List Release)
    (hstored : ∀ crd, stored? = some crd → ∃ version node, crd.IsGenerated version node)
    (h : run stored? releases = some new) : ∃ version node, new.IsGenerated version node := by
  induction releases generalizing stored? with
  | nil => exact hstored new h
  | cons release rest ih =>
    refine ih (fun crd hcrd => ?_) h
    rcases Option.or_eq_some_iff.mp hcrd with haccepted | ⟨-, hkept⟩
    · exact accepted?_isGenerated haccepted
    · exact hstored crd hkept

/-- **Released fields survive.** Whatever is stored after some releases survives in what is
stored after some more: its group, kind, scope and version are the same, and its locations are
kept. -/
theorem run_append_survives (earlier later : List Release)
    (h : run none earlier = some old) :
    ∃ new, run none (earlier ++ later) = some new ∧ old.SurvivesIn new := by
  obtain ⟨version, node, hold⟩ := run_isGenerated earlier (by exact fun _ => nofun) h
  obtain ⟨new, version', node', hnew, -, hsurvives⟩ := run_survives later hold
  exact ⟨new, by rw [run_append, h, hnew], hsurvives⟩

/-- A release with an integer. -/
def cacheRelease : Release :=
  ⟨"apiVersion: a.io/v1\nkind: Cache\nsize: 1\n", {}, {}, .safe, by decide⟩

/-- A later release in which the integer has become a number, beside a new field. -/
def widerCacheRelease : Release :=
  ⟨"apiVersion: a.io/v1\nkind: Cache\nsize: 1.5\nttl: 9\n", {}, {}, .strict,
    by decide⟩

theorem accepted_caches : ((cacheRelease.accepted? none).bind fun old =>
    widerCacheRelease.accepted? (some old)).isSome = true := by
  decide +kernel

/-- The definition with the number takes the place of that with the integer, which survives. -/
theorem run_append_survives_cache :
    ∃ old new, run none [cacheRelease] = some old ∧
      run none ([cacheRelease] ++ [widerCacheRelease]) = some new ∧
      cacheRelease.accepted? none = some old ∧
      widerCacheRelease.accepted? (some old) = some new ∧ old.SurvivesIn new := by
  obtain ⟨new, hnew⟩ := Option.isSome_iff_exists.mp accepted_caches
  obtain ⟨old, hold, hnew⟩ := Option.bind_eq_some_iff.mp hnew
  have hstored : run none [cacheRelease] = some old := by
    rw [run_singleton, store, hold, Option.some_or]
  obtain ⟨later, hrun, hsurvives⟩ := run_append_survives [cacheRelease] [widerCacheRelease] hstored
  have hlast : run none ([cacheRelease] ++ [widerCacheRelease]) = some new := by
    rw [run_append, hstored, run_singleton, store, hnew, Option.some_or]
  obtain rfl := Option.some.inj (hrun.symm.trans hlast)
  exact ⟨old, later, hstored, hrun, hold, hnew, hsurvives⟩

end Release

end ChartSchema
