import ChartSchema.Proofs.JsonSchema.Acceptance
/-!
# Schemas that can be used

A document is used as a schema only if its keywords have the right forms, the names in it can be
read, and its expressions are expressions and its references lead somewhere. `Sound` says which
documents among those without references and names are schemas, keyword by keyword, and the three
walks over such a document succeed: that over forms, that over the schemas with names, and that
over references. So every such document that names draft 7 has a validator
(`Sound.exists_validator`).
-/

namespace ChartSchema

namespace JsonSchema

/-- Whether the value of a keyword about the value itself has the right form. -/
def ownFits (key : String) (argument : Json) : Bool :=
  match Dialect.draft7.form key with
  | .anything => true
  | .value fits => fits argument
  | _ => false

/-- The keywords that lead to other schemas. -/
def innerKeywords : List String := ["properties", "items", "additionalProperties", "anyOf"]

/-- **A schema of draft 7 without references and names**, all of whose keywords have values of
the right form. -/
inductive Sound : Json → Prop
  /-- A truth value. -/
  | bool (allowed : Bool) : Sound (.bool allowed)
  /-- An object of keywords. -/
  | object {members : List (String × Json)} :
    (∀ key argument, (key, argument) ∈ members → key ∉ innerKeywords →
      key ∈ ownKeywords ∧ ownFits key argument = true) →
    (findKey? "$schema" members = none ∨
      findKey? "$schema" members = some (.string JsonSchema.dialect)) →
    (∀ argument, ("properties", argument) ∈ members → ∃ ps, argument = .object ps) →
    (∀ ps, ("properties", .object ps) ∈ members → ∀ p ∈ ps, Sound p.2) →
    (∀ argument, ("items", argument) ∈ members → ∃ inner, argument = .object inner) →
    (∀ argument, ("items", argument) ∈ members → Sound argument) →
    (∀ argument, ("additionalProperties", argument) ∈ members → Sound argument) →
    (∀ argument, ("anyOf", argument) ∈ members → ∃ schema rest, argument = .array (schema :: rest)) →
    (∀ schemas, ("anyOf", .array schemas) ∈ members → ∀ schema ∈ schemas, Sound schema) →
      Sound (.object members)

namespace Sound

variable {members : List (String × Json)} {schema : Json}

/-- A keyword of such a schema is not a name or a reference. -/
theorem not_mem (h : Sound (.object members)) {key : String} (hown : key ∉ ownKeywords)
    (hinner : key ∉ innerKeywords) : findKey? key members = none := by
  cases hfind : findKey? key members with
  | none => rfl
  | some argument =>
    cases h with
    | object howns => exact absurd (howns key argument (mem_of_findKey? hfind) hinner).1 hown

theorem ref (h : Sound (.object members)) : findKey? "$ref" members = none :=
  h.not_mem (by decide +kernel) (by decide +kernel)

theorem name (h : Sound (.object members)) : Dialect.draft7.name? members = none := by
  have hid : findKey? (Dialect.nameKey .draft7) members = none :=
    h.not_mem (by decide +kernel) (by decide +kernel)
  rw [Dialect.name?, hid]

theorem detect (h : Sound (.object members)) :
    Dialect.draft7.detect? members = some .draft7 := by
  cases h with
  | object _ hschema =>
    rw [Dialect.detect?]
    rcases hschema with hnone | hsome
    · rw [hnone]
    · rw [hsome]
      decide +kernel

end Sound

/-! ## Forms -/

theorem keywordsFit_of_forall {members : List (String × Json)}
    (h : ∀ key argument, (key, argument) ∈ members →
      (match Dialect.draft7.form key with
        | .anything => true
        | .value fits => fits argument
        | .schema => Dialect.draft7.isSchema argument
        | .list => Dialect.draft7.isSchemaList argument
        | .schemaOrList =>
          Dialect.draft7.isSchema argument || Dialect.draft7.isSchemaList argument
        | .named => Dialect.draft7.isSchemaMap (fun _ => false) argument
        | .patterns =>
          Dialect.draft7.isSchemaMap (fun _ => false) argument && Dialect.keysAreExpressions argument
        | .dependencies => Dialect.draft7.isSchemaMap Dialect.draft7.isDependency argument
        | .schemaOrFlag => Form.isFlag argument || Dialect.draft7.isSchema argument) = true) :
    Dialect.draft7.keywordsFit members = true := by
  induction members with
  | nil => rfl
  | cons m rest ih =>
    obtain ⟨key, argument⟩ := m
    rw [Dialect.keywordsFit, Bool.and_eq_true]
    exact ⟨h key argument List.mem_cons_self,
      ih fun key argument hmem => h key argument (List.mem_cons_of_mem _ hmem)⟩

theorem allSchemas_of_forall {schemas : List Json}
    (h : ∀ schema ∈ schemas, Dialect.draft7.isSchema schema = true) :
    Dialect.draft7.allSchemas schemas = true := by
  induction schemas with
  | nil => rfl
  | cons schema rest ih =>
    rw [Dialect.allSchemas, Bool.and_eq_true]
    exact ⟨h schema List.mem_cons_self,
      ih fun schema hmem => h schema (List.mem_cons_of_mem _ hmem)⟩

theorem allNamedSchemas_of_forall {schemas : List (String × Json)}
    (h : ∀ p ∈ schemas, Dialect.draft7.isSchema p.2 = true) (other : Json → Bool) :
    Dialect.draft7.allNamedSchemas other schemas = true := by
  induction schemas with
  | nil => rfl
  | cons p rest ih =>
    obtain ⟨key, schema⟩ := p
    rw [Dialect.allNamedSchemas, Bool.and_eq_true, Bool.or_eq_true]
    exact ⟨Or.inr (h _ List.mem_cons_self), ih fun p hmem => h p (List.mem_cons_of_mem _ hmem)⟩

/-- **A sound schema is a schema of draft 7**: each of its keywords has the form that is asked for, and
so have those of the schemas under them. -/
theorem Sound.isSchema {schema : Json} (h : Sound schema) :
    Dialect.draft7.isSchema schema = true := by
  induction h with
  | bool allowed => rfl
  | @object members hown _ hpropertiesForm _ hitemsForm _ _ hanyOfForm _ ihProperties ihItems
      ihAdditional ihAnyOf =>
    rw [Dialect.isSchema, Bool.and_eq_true]
    refine ⟨rfl, keywordsFit_of_forall fun key argument hmem => ?_⟩
    by_cases hinner : key ∈ innerKeywords
    · simp only [innerKeywords, List.mem_cons, List.not_mem_nil, or_false] at hinner
      rcases hinner with rfl | rfl | rfl | rfl
      · obtain ⟨ps, rfl⟩ := hpropertiesForm argument hmem
        exact allNamedSchemas_of_forall (ihProperties ps hmem) _
      · have hitems : (Dialect.draft7.isSchema argument || Dialect.draft7.isSchemaList argument)
            = true := by rw [ihItems argument hmem, Bool.true_or]
        exact hitems
      · exact ihAdditional argument hmem
      · obtain ⟨schema, rest, rfl⟩ := hanyOfForm argument hmem
        exact allSchemas_of_forall (ihAnyOf _ hmem)
    · obtain ⟨-, hfits⟩ := hown key argument hmem hinner
      unfold ownFits at hfits
      cases hform : Dialect.draft7.form key <;> rw [hform] at hfits <;>
        first | exact hfits | exact nomatch hfits

/-! ## Schemas with names -/

/-- The schemas in a part of a document are found, and none refers to another one. -/
def FindsPlain (found : Option (List Subschema)) : Prop :=
  ∃ schemas, found = some schemas ∧ ∀ s ∈ schemas, findKey? "$ref" s.members = none

namespace FindsPlain

theorem nil : FindsPlain (some []) := ⟨[], rfl, fun _ h => absurd h List.not_mem_nil⟩

theorem both {a b : Option (List Subschema)} (ha : FindsPlain a) (hb : FindsPlain b) :
    FindsPlain (bothFound a b) := by
  obtain ⟨xs, rfl, hxs⟩ := ha
  obtain ⟨ys, rfl, hys⟩ := hb
  exact ⟨xs ++ ys, rfl, fun s hs => (List.mem_append.mp hs).elim (hxs s) (hys s)⟩

variable {base : String} {level : Nat}

theorem items {values : List Json}
    (h : ∀ v ∈ values, FindsPlain (subschemas? .draft7 base level v)) :
    FindsPlain (inItems? .draft7 base level values) := by
  induction values with
  | nil => exact nil
  | cons v rest ih =>
    rw [inItems?]
    exact both (h v List.mem_cons_self) (ih fun v hv => h v (List.mem_cons_of_mem _ hv))

theorem members {ms : List (String × Json)}
    (h : ∀ m ∈ ms, FindsPlain (subschemas? .draft7 base level m.2)) :
    FindsPlain (inMembers? .draft7 base level ms) := by
  induction ms with
  | nil => exact nil
  | cons m rest ih =>
    obtain ⟨key, v⟩ := m
    rw [inMembers?]
    exact both (h _ List.mem_cons_self) (ih fun m hm => h m (List.mem_cons_of_mem _ hm))

theorem keywords {ms : List (String × Json)}
    (h : ∀ key v, (key, v) ∈ ms → FindsPlain
      (match Dialect.draft7.holds key with
        | .nothing => some []
        | .schema => subschemas? .draft7 base level v
        | .list => inValues? .draft7 base level v
        | .schemaOrList =>
          bothFound (subschemas? .draft7 base level v) (inList? .draft7 base level v)
        | .named => inValues? .draft7 base level v)) :
    FindsPlain (inKeywords? .draft7 base level ms) := by
  induction ms with
  | nil => exact nil
  | cons m rest ih =>
    obtain ⟨key, v⟩ := m
    rw [inKeywords?]
    exact both (h key v List.mem_cons_self)
      (ih fun key v hmem => h key v (List.mem_cons_of_mem _ hmem))

end FindsPlain

/-- The keywords about the value itself hold no schemas. -/
theorem holds_own {key : String} (h : key ∈ ownKeywords) :
    Dialect.draft7.holds key = .nothing ∧ Dialect.draft7.lead key = .nothing := by
  have hkeys : ∀ key ∈ ownKeywords,
      Dialect.draft7.holds key = .nothing ∧ Dialect.draft7.lead key = .nothing := by
    decide +kernel
  exact hkeys key h

/-- **The schemas with names in a sound document are found**, and all of them are plain. The
induction is on the document. -/
theorem Sound.findsPlain {schema : Json} (h : Sound schema) (base : String) (level : Nat) :
    FindsPlain (subschemas? .draft7 base level schema) := by
  induction h generalizing level with
  | bool allowed => exact .nil
  | @object members hown hschema hpropertiesForm hproperties hitemsForm hitems hadditional hanyOfForm
      hanyOf ihProperties ihItems ihAdditional ihAnyOf =>
    have hsound : Sound (.object members) := .object hown hschema hpropertiesForm hproperties
      hitemsForm hitems hadditional hanyOfForm hanyOf
    have hinside : FindsPlain (inKeywords? .draft7 base (level + 1) members) := by
      refine FindsPlain.keywords fun key v hmem => ?_
      by_cases hinner : key ∈ innerKeywords
      · simp only [innerKeywords, List.mem_cons, List.not_mem_nil, or_false] at hinner
        rcases hinner with rfl | rfl | rfl | rfl
        · obtain ⟨ps, rfl⟩ := hpropertiesForm v hmem
          exact FindsPlain.members fun p hp => ihProperties ps hmem p hp _
        · obtain ⟨inner, rfl⟩ := hitemsForm v hmem
          exact (ihItems _ hmem _).both .nil
        · exact ihAdditional v hmem _
        · obtain ⟨first, rest, rfl⟩ := hanyOfForm v hmem
          exact FindsPlain.items fun v hv => ihAnyOf _ hmem v hv _
      · rw [(holds_own (hown key v hmem hinner).1).1]
        exact .nil
    obtain ⟨schemas, hfound, hplain⟩ := hinside
    refine ⟨⟨level, .draft7, base, members⟩ :: schemas, ?_, ?_⟩
    · rw [subschemas?, hsound.detect, Option.bind_some, hsound.name]
      show (inKeywords? .draft7 base (level + 1) members).map _ = _
      rw [hfound]
      rfl
    · intro s hs
      rcases List.mem_cons.mp hs with rfl | hs
      · exact hsound.ref
      · exact hplain s hs

/-- A registry knows what a schema refers to that refers to nothing. -/
theorem Registry.knows_of_ref {registry : Registry} {s : Subschema}
    (h : findKey? "$ref" s.members = none) : registry.knows s = true := by
  rw [Registry.knows, h]

/-- **A sound document has a registry.** It knows all schemas that the document refers to, since
there are none. -/
theorem Sound.registry {schema : Json} (h : Sound schema) :
    ∃ registry, Registry.ofDocument? .draft7 schema = some registry := by
  obtain ⟨schemas, hfound, hplain⟩ := h.findsPlain unnamed 0
  have hknown : schemas.all (Registry.ofSubschemas schemas).knows = true :=
    List.all_eq_true.mpr fun s hs => Registry.knows_of_ref (hplain s hs)
  refine ⟨Registry.standard.append (Registry.ofSubschemas schemas), ?_⟩
  unfold Registry.ofDocument?
  rw [hfound]
  show (if schemas.all (Registry.ofSubschemas schemas).knows = true then _ else _) = _
  rw [if_pos hknown]

/-! ## References -/

namespace Context

variable {ctx : Context}

/-- There are no references in two parts if there are none in each. -/
theorem bothUsable_eq {a b : Option (List Target)} (ha : a = some []) (hb : b = some []) :
    bothUsable a b = some [] := by
  subst ha hb
  rfl

/-- There are no references in schemas if there are none in each. -/
theorem eachTargets?_eq {schemas : List Json}
    (h : ∀ schema ∈ schemas, ctx.targets? schema = some []) :
    ctx.eachTargets? schemas = some [] := by
  induction schemas with
  | nil => rfl
  | cons schema rest ih =>
    rw [eachTargets?]
    exact bothUsable_eq (h schema List.mem_cons_self)
      (ih fun schema hmem => h schema (List.mem_cons_of_mem _ hmem))

/-- There are no references in schemas with names if there are none in each. -/
theorem memberTargets?_eq {schemas : List (String × Json)}
    (h : ∀ p ∈ schemas, ctx.targets? p.2 = some []) :
    ctx.memberTargets? schemas = some [] := by
  induction schemas with
  | nil => rfl
  | cons p rest ih =>
    obtain ⟨key, schema⟩ := p
    rw [memberTargets?]
    exact bothUsable_eq (h _ List.mem_cons_self)
      (ih fun p hmem => h p (List.mem_cons_of_mem _ hmem))

/-- There are no references under keywords if there are none under each. -/
theorem keywordTargets?_eq {all members : List (String × Json)}
    (hhidden : ∀ key, ctx.dialect.isHidden all key = false)
    (h : ∀ key argument, (key, argument) ∈ members →
      ctx.ownTargets? all key argument = some [] ∧
        (match ctx.usedLead all key with
          | .nothing => some []
          | .schema => targets? ctx argument
          | .list | .named => innerTargets? ctx argument
          | .schemaOrList => bothUsable (targets? ctx argument) (listTargets? ctx argument))
            = some []) :
    ctx.keywordTargets? all members = some [] := by
  induction members with
  | nil => rfl
  | cons m rest ih =>
    obtain ⟨key, argument⟩ := m
    obtain ⟨hown, hinner⟩ := h key argument List.mem_cons_self
    rw [keywordTargets?, hhidden key]
    exact bothUsable_eq (bothUsable_eq hown hinner)
      (ih fun key argument hmem => h key argument (List.mem_cons_of_mem _ hmem))

end Context

/-- A keyword about the value itself refers to nothing, if its value has the right form. -/
theorem ownTargets?_own {ctx : Context} {all : List (String × Json)} {key : String}
    {argument : Json} (hown : key ∈ ownKeywords) (hfits : ownFits key argument = true) :
    ctx.ownTargets? all key argument = some [] ∧ ctx.usedLead all key = ctx.dialect.lead key := by
  simp only [ownKeywords, List.mem_cons, List.not_mem_nil, or_false] at hown
  rcases hown with rfl | rfl | rfl | rfl | rfl | rfl | rfl | rfl | rfl | rfl | rfl | rfl | rfl |
    rfl | rfl | rfl | rfl | rfl | rfl | rfl | rfl
  all_goals first
    | exact ⟨rfl, rfl⟩
    | refine ⟨?_, rfl⟩
      have hpattern : Form.isTextOf Form.isExpression argument = true := hfits
      show (if Form.isTextOf Form.isExpression argument = true then some [] else none) = some []
      rw [if_pos hpattern]

/-- **There are no references in a sound document.** The induction is on the document, keyword by
keyword. -/
theorem Sound.targets?_eq {schema : Json} (h : Sound schema) {ctx : Context}
    (hdialect : ctx.dialect = .draft7) : ctx.targets? schema = some [] := by
  induction h generalizing ctx with
  | bool allowed => rfl
  | @object members hown hschema hpropertiesForm hproperties hitemsForm hitems hadditional hanyOfForm
      hanyOf ihProperties ihItems ihAdditional ihAnyOf =>
    have hsound : Sound (.object members) := .object hown hschema hpropertiesForm hproperties
      hitemsForm hitems hadditional hanyOfForm hanyOf
    have henter : (ctx.enter members).dialect = .draft7 := by
      show (ctx.dialect.detect? members).getD .draft2020 = .draft7
      rw [hdialect, hsound.detect]
      rfl
    rw [Context.targets?]
    refine Context.keywordTargets?_eq (fun key => ?_) fun key argument hmem => ?_
    · rw [Dialect.isHidden, hasKey, hsound.ref]
      exact Bool.and_false _
    · by_cases hinner : key ∈ innerKeywords
      · simp only [innerKeywords, List.mem_cons, List.not_mem_nil, or_false] at hinner
        rcases hinner with rfl | rfl | rfl | rfl
        · obtain ⟨ps, rfl⟩ := hpropertiesForm argument hmem
          exact ⟨rfl, Context.memberTargets?_eq fun p hp => ihProperties ps hmem p hp henter⟩
        · obtain ⟨inner, rfl⟩ := hitemsForm argument hmem
          have hlead : (ctx.enter members).usedLead members "items" = .schemaOrList := by
            show (ctx.enter members).dialect.lead "items" = .schemaOrList
            rw [henter]
            rfl
          rw [hlead]
          exact ⟨rfl, Context.bothUsable_eq (ihItems _ hmem henter) rfl⟩
        · exact ⟨rfl, ihAdditional argument hmem henter⟩
        · obtain ⟨first, rest, rfl⟩ := hanyOfForm argument hmem
          exact ⟨rfl, Context.eachTargets?_eq fun v hv => ihAnyOf _ hmem v hv henter⟩
      · obtain ⟨hkey, hfits⟩ := hown key argument hmem hinner
        obtain ⟨htargets, hlead⟩ :=
          @ownTargets?_own (ctx.enter members) members key argument hkey hfits
        rw [hlead, henter, (holds_own hkey).2]
        exact ⟨htargets, rfl⟩

/-! ## Validators -/

theorem Dialect.ofSchema?_of_find {members : List (String × Json)}
    (h : findKey? "$schema" members = some (.string JsonSchema.dialect)) :
    Dialect.ofSchema? (.object members) = some .draft7 := by
  show Dialect.draft2020.detect? members = some .draft7
  rw [Dialect.detect?, h]
  decide +kernel

/-- The validator of a document is one of the dialect that the document names. -/
theorem Validator.of_ofSchema {schema : Json} {validator : Validator}
    (h : ofSchema schema = .ok validator) :
    Dialect.ofSchema? schema = some validator.dialect ∧ validator.schema = schema := by
  unfold ofSchema at h
  split at h
  · exact nomatch h
  · next dialect hdialect =>
    split at h
    · split at h
      · dsimp only at h
        split at h
        · cases h
          exact ⟨hdialect, rfl⟩
        · exact nomatch h
      · exact nomatch h
    · exact nomatch h

/-- The validator of a document that names draft 7 is one of draft 7. -/
theorem Validator.draft7_of_ofSchema {members : List (String × Json)} {validator : Validator}
    (hdialect : findKey? "$schema" members = some (.string JsonSchema.dialect))
    (h : ofSchema (.object members) = .ok validator) :
    validator.dialect = .draft7 ∧ validator.schema = .object members := by
  obtain ⟨hsome, hdocument⟩ := of_ofSchema h
  exact ⟨Option.some.inj (hsome.symm.trans (Dialect.ofSchema?_of_find hdialect)), hdocument⟩

/-- There is one answer to a document that has no validator. -/
theorem Validator.ofSchema_eq_error {schema : Json} {error : CrdError}
    (h : ofSchema schema = .error error) : error = .invalidJsonSchema := by
  unfold ofSchema at h
  split at h
  · exact (Except.error.inj h).symm
  · split at h
    · split at h
      · dsimp only at h
        split at h
        · cases h
        · exact (Except.error.inj h).symm
      · exact (Except.error.inj h).symm
    · exact (Except.error.inj h).symm

/-- A registry has no use for steps if there is nowhere to go. -/
theorem Registry.areUsable_nil {registry : Registry} (steps : Nat) :
    registry.areUsable steps [] [] = true := by
  cases steps <;> simp only [Registry.areUsable]

/-- **A document that names draft 7 and is sound has a validator.** What could stand in its way is a
schema with a name that is not known, or a reference that leads nowhere. -/
theorem Sound.exists_validator {members : List (String × Json)} (h : Sound (.object members))
    (hschema : findKey? "$schema" members = some (.string JsonSchema.dialect)) :
    ∃ validator, Validator.ofSchema (.object members) = .ok validator := by
  obtain ⟨registry, hregistry⟩ := h.registry
  have hname : Registry.rootName? .draft7 (.object members) = some unnamed := by
    rw [Registry.rootName?, h.name]
  have husable : Validator.isUsable ⟨.draft7, .object members, registry, unnamed, h.isSchema⟩
      = true := by
    unfold Validator.isUsable
    rw [@Sound.targets?_eq _ h (Validator.context _ _) rfl]
    exact Registry.areUsable_nil _
  refine ⟨⟨.draft7, .object members, registry, unnamed, h.isSchema⟩, ?_⟩
  unfold Validator.ofSchema
  rw [Dialect.ofSchema?_of_find hschema]
  dsimp only
  rw [hname, hregistry]
  dsimp only
  rw [dif_pos h.isSchema, if_pos husable]

end JsonSchema

/-! ## Schemas of nodes -/

open JsonSchema (Sound ofOpenApi ownFits)

/-- **The keywords of facets have values of the right form.** -/
def Facets.Fit (f : Facets) : Prop :=
  ∀ key argument, (findKey? key f.translated).join = some argument → ownFits key argument = true

namespace SchemaNode

variable {strict : Bool} {node : SchemaNode} {members : List (String × Json)}

theorem sound_typed {type : String} (htype : type ∈ JsonSchema.Form.typeNames) :
    Sound (JsonSchema.typed type) := by
  refine .object (fun key argument hmem _ => ?_) (Or.inl rfl) ?_ ?_ ?_ ?_ ?_ ?_ ?_
  · obtain ⟨rfl, rfl⟩ := Prod.mk.inj (List.mem_singleton.mp hmem)
    refine ⟨by decide +kernel, ?_⟩
    show JsonSchema.Form.typeNames.contains type = true
    exact List.contains_iff_mem.mpr htype
  all_goals
    intro argument hmem
    simp at hmem

/-- The alternatives for an integer or text are sound schemas. -/
theorem sound_alternatives {nullable : Bool} {schemas : List Json}
    (h : alternatives nullable = .array schemas) : ∀ schema ∈ schemas, Sound schema := by
  obtain rfl := Json.array.inj h
  intro schema hmem
  rcases List.mem_append.mp hmem with hmem | hmem
  · rcases List.mem_cons.mp hmem with rfl | hmem
    · exact sound_typed (by decide +kernel)
    · obtain rfl := List.mem_singleton.mp hmem
      exact sound_typed (by decide +kernel)
  · split at hmem
    · obtain rfl := List.mem_singleton.mp hmem
      exact sound_typed (by decide +kernel)
    · exact absurd hmem List.not_mem_nil

theorem ownFits_type {type : String} (htype : type ∈ JsonSchema.Form.typeNames)
    (hne : type ≠ "null") (nullable : Bool) :
    ownFits "type" (typeWords nullable type) = true := by
  have hall : ∀ type ∈ JsonSchema.Form.typeNames, type ≠ "null" → ∀ nullable : Bool,
      ownFits "type" (typeWords nullable type) = true := by decide +kernel
  exact hall type htype hne nullable

/-- **A schema of a node is sound** if the facets fit and the schemas of the nodes inside are
sound. -/
theorem IsSchemaOf.sound (hgenerated : node.Generated) (h : node.IsSchemaOf strict members)
    (hfits : node.facets.Fit)
    (hinner : ∀ inner, node.Holds inner → Sound (ofOpenApi strict inner.toJson)) :
    Sound (.object members) := by
  have hfound {key : String} {argument : Json} (hmem : (key, argument) ∈ members) :
      findKey? key members = some argument := findKey?_of_mem h.inKeyOrder.nodup hmem
  have hproperties {argument : Json} (hmem : ("properties", argument) ∈ members) :
      ∃ ps, node.properties? = some ps ∧
        .object (ps.map fun p => (p.1, ofOpenApi strict p.2.toJson)) = argument := by
    have hfind := hfound hmem
    rw [h.properties] at hfind
    exact Option.map_eq_some_iff.mp hfind
  have hitems {argument : Json} (hmem : ("items", argument) ∈ members) :
      ∃ inner, node.Holds inner ∧ ofOpenApi strict inner.toJson = argument := by
    have hfind := hfound hmem
    rw [h.items] at hfind
    obtain ⟨inner, hitems, heq⟩ := Option.map_eq_some_iff.mp hfind
    exact ⟨inner, Or.inr (Or.inl hitems), heq⟩
  have hanyOf {argument : Json} (hmem : ("anyOf", argument) ∈ members) :
      alternatives node.facets.isNullable = argument := by
    have hfind := hfound hmem
    rw [h.anyOf] at hfind
    obtain ⟨-, -, heq⟩ := Option.map_eq_some_iff.mp hfind
    exact heq
  refine .object ?_ h.schema ?_ ?_ ?_ ?_ ?_ ?_ ?_
  · intro key argument hmem hnot
    have hfind := hfound hmem
    by_cases hkey : key ∈ ["type", "enum", "properties", "items", "additionalProperties", "anyOf",
      "$schema", "title"]
    · simp only [List.mem_cons, List.not_mem_nil, or_false] at hkey
      rcases hkey with rfl | rfl | rfl | rfl | rfl | rfl | rfl | rfl
      · rw [h.type] at hfind
        obtain ⟨type, htype, rfl⟩ := Option.map_eq_some_iff.mp hfind
        obtain ⟨hmem, hne⟩ := hgenerated.type_mem htype
        exact ⟨by decide +kernel, ownFits_type hmem hne _⟩
      · rw [h.enum] at hfind
        obtain ⟨values, -, rfl⟩ := Option.map_eq_some_iff.mp hfind
        exact ⟨by decide +kernel, rfl⟩
      · exact absurd (by decide +kernel) hnot
      · exact absurd (by decide +kernel) hnot
      · exact absurd (by decide +kernel) hnot
      · exact absurd (by decide +kernel) hnot
      · refine ⟨by decide +kernel, ?_⟩
        rcases h.schema with hnone | hsome
        · rw [hnone] at hfind
          cases hfind
        · rw [hsome] at hfind
          obtain rfl := Option.some.inj hfind
          decide +kernel
      · obtain ⟨text, rfl⟩ := h.title argument hfind
        exact ⟨by decide +kernel, rfl⟩
    · rw [h.facets hkey] at hfind
      exact ⟨(mem_ownKeywords_of_facets hfind).1, hfits key argument hfind⟩
  · intro argument hmem
    obtain ⟨ps, -, rfl⟩ := hproperties hmem
    exact ⟨_, rfl⟩
  · intro schemas hmem p hp
    obtain ⟨ps, hps, heq⟩ := hproperties hmem
    obtain rfl := Json.object.inj heq
    obtain ⟨⟨key, inner⟩, hmem, rfl⟩ := List.mem_map.mp hp
    refine hinner inner (Or.inl ⟨key, ?_⟩)
    rw [declared, hps]
    exact hmem
  · intro argument hmem
    obtain ⟨inner, hholds, rfl⟩ := hitems hmem
    obtain ⟨members, heq, -⟩ := (hgenerated.holds hholds).isSchemaOf strict
    exact ⟨members, heq⟩
  · intro argument hmem
    obtain ⟨inner, hholds, rfl⟩ := hitems hmem
    exact hinner inner hholds
  · intro argument hmem
    have hfind := hfound hmem
    rw [h.additional, hgenerated.additionalWords_eq] at hfind
    split at hfind
    · next value hother =>
      obtain rfl := Option.some.inj hfind
      exact hinner value (hgenerated.holds_other hother)
    · split at hfind
      · obtain rfl := Option.some.inj hfind
        exact .bool false
      · cases hfind
  · intro argument hmem
    obtain rfl := hanyOf hmem
    exact ⟨_, _, rfl⟩
  · intro schemas hmem
    exact sound_alternatives (hanyOf hmem)

end SchemaNode

/-! ## Schemas of definitions -/

/-- A keyword that is put in is one of the schema of a node, if it is a remark about the schema. -/
theorem SchemaNode.IsSchemaOf.insertKey {strict : Bool} {node : SchemaNode}
    {members : List (String × Json)} (h : node.IsSchemaOf strict members) {key text : String}
    (hkey : key = "title" ∨ (key = "$schema" ∧ text = JsonSchema.dialect)) :
    node.IsSchemaOf strict (insertKey key (.string text) members) := by
  refine ⟨h.inKeyOrder.insertKey _ _, fun other hschema htitle => ?_, ?_, fun argument hfind => ?_⟩
  · have hne : key ≠ other := by
      rcases hkey with rfl | ⟨rfl, -⟩
      · exact htitle.symm
      · exact hschema.symm
    rw [findKey?_insertKey, if_neg hne]
    exact h.find other hschema htitle
  · rw [findKey?_insertKey]
    rcases hkey with rfl | ⟨rfl, rfl⟩
    · exact h.schema
    · exact Or.inr rfl
  · rw [findKey?_insertKey] at hfind
    split at hfind
    · exact ⟨text, (Option.some.inj hfind).symm⟩
    · exact h.title argument hfind

/-- **The JSON Schema of a definition with one version** is that of its resource, and names its
dialect. -/
theorem Crd.exists_jsonSchema {crd : Crd} {version : CrdVersion} {resource : SchemaNode}
    (hversions : crd.versions = [version]) (hschema : version.schema? = some resource)
    (hgenerated : resource.Generated) (strict : Bool) :
    ∃ members, crd.jsonSchema strict none = .ok (.object members) ∧
      resource.IsSchemaOf strict members ∧
      findKey? "$schema" members = some (.string JsonSchema.dialect) := by
  obtain ⟨members, heq, hmembers⟩ := hgenerated.isSchemaOf strict
  obtain ⟨_, heq', -, hfind⟩ := hgenerated.translation strict
  obtain rfl := Json.object.inj (heq.symm.trans heq')
  have hversion : crd.version? none = some version := by
    rw [Crd.version?, hversions, List.head?_cons, List.find?_cons]
    cases version.storage <;> rfl
  have hnoTitle : hasKey "title" members = false := by
    rw [hasKey, hfind]
    rfl
  have hnoDialect : hasKey "$schema"
      (ChartSchema.insertKey "title" (.string crd.names.kind) members) = false := by
    rw [hasKey, findKey?_insertKey, if_neg (by decide), hfind]
    rfl
  have htitled : resource.IsSchemaOf strict
      (ChartSchema.insertKey "title" (.string crd.names.kind) members) :=
    hmembers.insertKey (.inl rfl)
  refine ⟨_, ?_, htitled.insertKey (.inr ⟨rfl, rfl⟩), ?_⟩
  · unfold Crd.jsonSchema
    rw [hversion]
    dsimp only
    rw [hschema]
    dsimp only
    rw [heq]
    dsimp only
    rw [hnoTitle, if_neg Bool.false_ne_true, hnoDialect, if_neg Bool.false_ne_true]
  · rw [findKey?_insertKey, if_pos rfl]

namespace JsonSchema.Validator

/-- **A validator of a node's schema accepts what the node admits.** The dialect is draft 7, for
which `IsSchemaOf` says what the keywords ask of a value. -/
theorem accepts_iff_admits {strict : Bool} {node : SchemaNode} {members : List (String × Json)}
    {validator : Validator} {v : Json} (hgenerated : node.Generated)
    (hschema : node.IsSchemaOf strict members)
    (hdialect : findKey? "$schema" members = some (.string JsonSchema.dialect))
    (h : ofSchema (.object members) = .ok validator) :
    validator.accepts v = true ↔ node.Admits strict v := by
  obtain ⟨hdraft, hdocument⟩ := draft7_of_ofSchema hdialect h
  rw [accepts, List.isEmpty_iff, violations, checker, hdocument, hgenerated.admits_iff]
  exact hschema.admits_iff hgenerated hdraft

end JsonSchema.Validator
end ChartSchema
