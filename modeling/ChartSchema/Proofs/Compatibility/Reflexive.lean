import ChartSchema.Proofs.Compatibility.Unnoticed
/-!
# A definition compared with itself

Whatever definition is read, a comparison with itself finds nothing (`CrdView.changes_self`), and so
every policy accepts it. The definition need not be one that was generated: it may have several
versions, and properties with keywords in any combination.

This is not a matter of course for the records that are compared, but for what is read from a value
of JSON. A property is looked up by its key, so no object may have a key twice; a default and a
divisor are compared as numbers, and what is no number is not equal to itself. Both are excluded by
`Json.Proper`, and `Property.IsRead` hands this on from a property to those inside it. That versions
have different names has to be assumed: they are looked up by name, and the second of two versions
would be compared with the first.
-/

namespace ChartSchema

namespace Rules

variable {members : List (String × Json)} {key : String}

theorem ne_nan_of_number? (h : (Json.object members).Proper) {x : Binary64}
    (hx : number? members key = some x) : x ≠ .nan := by
  rw [number?] at hx
  split at hx
  · next n hn =>
    obtain rfl := Option.some.inj hx
    cases h.member (mem_of_findKey? hn) with
    | int n => exact Binary64.ofInt_ne_nan n
    | float hfinite => exact Binary64.ne_nan_of_isFinite hfinite
  · cases hx

/-- **Rules that are read have no change to themselves.** A default or a divisor that is not a
number would differ from itself, but none of these is read. -/
theorem unnoticed_self (h : (Json.object members).Proper) :
    (ofMembers members).Unnoticed (ofMembers members) := by
  have hdefault (v : Json) (hv : (ofMembers members).default? = some v) : v.same v = true :=
    (h.member (mem_of_findKey? hv)).same_self
  have hmultiple (x : Binary64) (hx : (ofMembers members).multipleOf? = some x) : x ≠ .nan :=
    ne_nan_of_number? h hx
  exact changes_eq_nil_iff.mp (changes_withRequired hdefault hmultiple _)

end Rules

/-! ## Properties -/

namespace Property

/-- **A property is read** from a value of JSON. -/
def IsRead (p : Property) : Prop := ∃ v : Json, v.Proper ∧ p = .ofJson v

variable {p q : Property}

/-- What the members of an object say is read from them, and no other value says anything. -/
theorem IsRead.cases (h : p.IsRead) : p = {} ∨ ∃ members, (Json.object members).Proper ∧ p =
    { type := .ofMembers members, rules := .ofMembers members, properties := propertiesOf members
      items? := itemsOf? members, additional? := additionalOf? members } := by
  obtain ⟨v, hv, rfl⟩ := h
  cases v with
  | object members => exact .inr ⟨members, hv, by rw [ofJson]⟩
  | null | bool | number | string | array => exact .inl rfl

/-- The properties of an object are those that its member for them describes. -/
theorem mem_propertiesOf {members : List (String × Json)} {key : String}
    (h : (key, q) ∈ propertiesOf members) : ∃ inner v, ("properties", Json.object inner) ∈ members ∧
      (key, v) ∈ inner ∧ q = .ofJson v := by
  rw [propertiesOf_eq] at h
  cases hfound : findKey? "properties" members with
  | none =>
    rw [hfound] at h
    exact absurd h List.not_mem_nil
  | some described =>
    rw [hfound] at h
    cases described with
    | object inner =>
      have hmem : (key, q) ∈ ofEach inner := h
      rw [ofEach_eq] at hmem
      obtain ⟨⟨k, v⟩, hv, hpair⟩ := List.mem_map.mp hmem
      obtain ⟨rfl, rfl⟩ := Prod.mk.inj hpair
      exact ⟨inner, v, mem_of_findKey? hfound, hv, rfl⟩
    | null | bool | number | string | array => exact absurd h List.not_mem_nil

theorem IsRead.member (h : p.IsRead) {key : String} (hq : (key, q) ∈ p.properties) :
    q.IsRead := by
  obtain rfl | ⟨members, hproper, rfl⟩ := h.cases
  · exact absurd hq List.not_mem_nil
  · obtain ⟨inner, v, hinner, hv, rfl⟩ := mem_propertiesOf hq
    exact ⟨v, (hproper.member hinner).member hv, rfl⟩

theorem IsRead.keys_nodup (h : p.IsRead) : (p.properties.map (·.1)).Nodup := by
  obtain rfl | ⟨members, hproper, rfl⟩ := h.cases
  · exact List.nodup_nil
  · show ((propertiesOf members).map (·.1)).Nodup
    rw [propertiesOf_eq]
    cases hfound : findKey? "properties" members with
    | none => exact List.nodup_nil
    | some described =>
      cases described with
      | object inner =>
        show ((ofEach inner).map (·.1)).Nodup
        rw [ofEach_eq, List.map_map]
        exact (hproper.member (mem_of_findKey? hfound)).keys_nodup
      | null | bool | number | string | array => exact List.nodup_nil

theorem IsRead.items (h : p.IsRead) (hq : p.items? = some q) : q.IsRead := by
  obtain rfl | ⟨members, hproper, rfl⟩ := h.cases
  · exact nomatch hq
  · have hitems : itemsOf? members = some q := hq
    rw [itemsOf?_eq] at hitems
    obtain ⟨v, hv, rfl⟩ := Option.map_eq_some_iff.mp hitems
    exact ⟨v, hproper.member (mem_of_findKey? hv), rfl⟩

/-- What a property that is read says about other members is read. -/
theorem IsRead.additional (h : p.IsRead) (hq : p.additional? = some (.value q)) : q.IsRead := by
  obtain rfl | ⟨members, hproper, rfl⟩ := h.cases
  · exact nomatch hq
  · have hadditional : additionalOf? members = some (.value q) := hq
    rw [additionalOf?_eq] at hadditional
    obtain ⟨v, hv, hsaid⟩ := Option.map_eq_some_iff.mp hadditional
    refine ⟨v, hproper.member (mem_of_findKey? hv), ?_⟩
    cases v with
    | bool => exact nomatch hsaid
    | null | number | string | array | object => exact (OrBool.value.inj hsaid).symm

/-- What a property that is read says about its own value has no change to itself. -/
theorem IsRead.rules (h : p.IsRead) : p.rules.Unnoticed p.rules := by
  obtain rfl | ⟨members, hproper, rfl⟩ := h.cases
  · exact @Rules.unnoticed_self [] (.object List.nodup_nil fun _ => nofun)
  · exact Rules.unnoticed_self hproper

/-- **A property that is read has no difference to itself.** What is inside of it is looked up by
its key and found again, and is smaller. -/
theorem IsRead.unnoticed_self {membersOnly : Bool} {p : Property} (h : p.IsRead) :
    Unnoticed membersOnly p p := by
  refine .intro (fun _ => rfl) (fun _ => h.rules) (fun _ => rfl)
    (fun key hkey _ => List.contains_iff_mem.mpr hkey) (fun key q q' hq hq' => ?_)
    (fun _ q q' hq hq' => ?_) fun _ q q' hq hq' => ?_
  · have := sizeOf_lt_of_mem hq
    obtain rfl : q = q' := Option.some.inj ((findKey?_of_mem h.keys_nodup hq).symm.trans hq')
    exact (h.member hq).unnoticed_self
  · have := sizeOf_lt_of_items hq
    obtain rfl : q = q' := Option.some.inj (hq.symm.trans hq')
    exact (h.items hq).unnoticed_self
  · have := sizeOf_lt_of_additional hq
    obtain rfl : q = q' := OrBool.value.inj (Option.some.inj (hq.symm.trans hq'))
    exact (h.additional hq).unnoticed_self
termination_by sizeOf p

end Property

/-! ## Definitions -/

namespace CrdView

variable {crd : CrdView}

/-- A version is found under its name, if versions have different names. -/
theorem version?_of_mem (hnames : (crd.versions.map (·.name)).Nodup) {version : VersionView}
    (h : version ∈ crd.versions) : crd.version? version.name = some version := by
  have hsome : (crd.version? version.name).isSome = true :=
    List.find?_isSome.mpr ⟨version, h, beq_self_eq_true _⟩
  obtain ⟨found, hfound⟩ := Option.isSome_iff_exists.mp hsome
  have hname : found.name = version.name := by simpa using List.find?_some hfound
  rw [hfound, List.inj_on_of_nodup_map hnames (List.mem_of_find?_eq_some hfound) h hname]

/-- **A definition has no changes to itself**, if its versions have different names and their
schemas have no differences to themselves. -/
theorem changes_self_of_schemas (hnames : (crd.versions.map (·.name)).Nodup)
    (hschemas : ∀ version ∈ crd.versions, ∀ schema, version.schema? = some schema →
      Property.Unnoticed true schema schema) : crd.changes crd = [] := by
  have hidentity : identityChanges crd crd = [] := identityChanges_eq_nil_iff.mpr ⟨rfl, rfl⟩
  have hremoved : (crd.versions.filter fun v => (crd.version? v.name).isNone) = [] := by
    refine List.filter_eq_nil_iff.mpr fun version hversion => ?_
    rw [version?_of_mem hnames hversion]
    exact Bool.false_ne_true
  have hversions : crd.versions.flatMap (versionChanges crd) = [] := by
    refine List.flatMap_eq_nil_iff.mpr fun version hversion => ?_
    rw [versionChanges, version?_of_mem hnames hversion]
    dsimp only
    unfold schemaChanges
    cases hschema : version.schema? with
    | none => rfl
    | some schema =>
      dsimp only
      rw [Property.changes_of_unnoticed (hschemas version hversion schema hschema), List.map_nil]
  have hstorage : storageChange crd crd = [] := if_pos (beq_self_eq_true _)
  rw [changes, hidentity, nameChanges_self, hremoved, hversions, hstorage]
  rfl

/-- The versions of a definition are read one by one from a list behind two keys. -/
theorem versions_of_ofJson {v : Json} (h : ofJson v = .ok crd) :
    ∃ spec versions, v.get? "spec" = some spec ∧
      spec.get? "versions" = some (.array versions) ∧
        versions.mapM versionOf = .ok crd.versions := by
  unfold ofJson at h
  obtain ⟨kind, -, h⟩ := Outcome.bind_eq_ok.mp h
  split at h
  · exact nomatch h
  obtain ⟨name, -, h⟩ := Outcome.bind_eq_ok.mp h
  obtain ⟨spec, hspec, h⟩ := Outcome.bind_eq_ok.mp h
  obtain ⟨group, -, h⟩ := Outcome.bind_eq_ok.mp h
  obtain ⟨names, -, h⟩ := Outcome.bind_eq_ok.mp h
  obtain ⟨view, -, h⟩ := Outcome.bind_eq_ok.mp h
  split at h
  · next versions hversions =>
    obtain ⟨views, hviews, h⟩ := Outcome.bind_eq_ok.mp h
    obtain rfl := Outcome.pure_eq_ok.mp h
    refine ⟨spec, versions, ?_, hversions, hviews⟩
    unfold member at hspec
    split at hspec
    · next inner hinner => rw [hinner, Except.ok.inj hspec]
    · exact nomatch hspec
  · exact nomatch h

/-- **The schemas of a definition are read**, those of all its versions. -/
theorem isRead_of_ofJson {v : Json} (hv : v.Proper) (h : ofJson v = .ok crd) :
    ∀ version ∈ crd.versions, ∀ schema, version.schema? = some schema → schema.IsRead := by
  intro version hversion schema hschema
  obtain ⟨spec, versions, hspec, hversions, hviews⟩ := versions_of_ofJson h
  obtain ⟨described, hdescribed, hread⟩ := Outcome.exists_of_mem_mapM hviews hversion
  obtain ⟨name, -, hread⟩ := Outcome.bind_eq_ok.mp hread
  obtain rfl := Outcome.pure_eq_ok.mp hread
  obtain ⟨node, hnode, rfl⟩ := Option.map_eq_some_iff.mp hschema
  -- The schema is behind two more keys.
  obtain ⟨outer, houter, hnode⟩ := Option.bind_eq_some_iff.mp hnode
  obtain ⟨inner, hinner, hnode⟩ := Option.bind_eq_some_iff.mp hnode
  obtain rfl := Option.some.inj hnode
  exact ⟨inner, ((((hv.get? hspec).get? hversions).item _ hdescribed).get? houter).get? hinner, rfl⟩

/-- **A definition that is read has no changes to itself**, whatever keywords its schemas have and
however many versions it has, as long as these have different names: so every policy accepts it. -/
theorem changes_self {v : Json} (hv : v.Proper) (h : ofJson v = .ok crd)
    (hnames : (crd.versions.map (·.name)).Nodup) :
    (Analysis.compare (some crd) crd).changes = [] ∧
      ∀ policy : Policy, policy.decide (Analysis.compare (some crd) crd) = .accept := by
  have hread := isRead_of_ofJson hv h
  have hnone : (Analysis.compare (some crd) crd).changes = [] :=
    changes_self_of_schemas hnames fun version hversion schema hschema =>
      (hread version hversion schema hschema).unnoticed_self
  refine ⟨hnone, fun policy => policy.accept_of_safe fun change hchange => ?_⟩
  rw [hnone] at hchange
  exact absurd hchange List.not_mem_nil

/-- A definition with two versions, a required member without a property, and a value that is said
twice. -/
def pumpDefinition : String :=
  "kind: CustomResourceDefinition\nmetadata: \x7bname: p.a\x7d\nspec:\n group: a\n names: \x7bkind: P, plural: p\x7d\n versions:\n - name: v1\n   schema: \x7bopenAPIV3Schema: \x7brequired: [x], enum: [1, 1.0]\x7d\x7d\n - name: v2\n"

set_option maxRecDepth 1000 in
/-- This definition has no changes to itself. -/
theorem changes_self_pump : ∃ v crd, v.Proper ∧ ofJson v = .ok crd ∧
    (crd.versions.map (·.name)).Nodup ∧ (Analysis.compare (some crd) crd).changes = [] ∧
      ∀ policy : Policy, policy.decide (Analysis.compare (some crd) crd) = .accept := by
  have hchars := Text.toList_of_eq (s := pumpDefinition) (by unfold pumpDefinition; rfl)
  have hsome : ((Yaml.parseJson? pumpDefinition).bind fun v => (ofJson v).toOption).any
      (fun crd => Decidable.decide (crd.versions.map (·.name)).Nodup) = true := by
    rw [Yaml.parseJson?, Yaml.Document.parse?, hchars]
    decide +kernel
  obtain ⟨crd, hbind, hnames⟩ := (Option.any_eq_true ..).mp hsome
  obtain ⟨v, hparse, hread⟩ := Option.bind_eq_some_iff.mp hbind
  have hv := Yaml.proper_of_parseJson? hparse
  have h := Outcome.toOption_eq_some.mp hread
  have hdifferent := of_decide_eq_true hnames
  exact ⟨v, crd, hv, h, hdifferent, changes_self hv h hdifferent⟩

end CrdView
end ChartSchema
