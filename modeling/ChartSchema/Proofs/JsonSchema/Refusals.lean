import ChartSchema.Proofs.Crd.Structural
import ChartSchema.Proofs.JsonSchema.Conformance
/-!
# Which schemas are refused

The schema of a definition is refused by validators for three reasons, and for no other one: a pattern
is no expression, a divisor is not above zero, or a member has to be there twice
(`Crd.exists_validator_iff`). The arguments of all other markers are checked where they are read, so
what they say has the right form; whether a pattern is an expression and on which side of zero a
divisor is are not among the things that are checked there. No marker makes a member required twice by
itself: two keys of a mapping do, if they are one in the text.

`Facets.IsUsable` says that none of these is the case in a node. That it is enough was seen before: then
the schema is sound, node by node. That it is needed is seen by going down from the schema of a node to
those of the nodes inside it, since a schema is one only if the schemas inside it are.
-/

namespace ChartSchema

open JsonSchema (Dialect Form Validator Sound ofOpenApi ownFits ownKeywords)

/-! ## What facets have to say -/

/-- **Facets that a schema may have.** -/
structure Facets.IsUsable (f : Facets) : Prop where
  /-- The pattern is an expression. -/
  pattern : ∀ regex, f.pattern? = some regex → (Regex.parse? regex).isSome = true
  /-- The divisor is above zero. -/
  multipleOf : ∀ divisor, f.multipleOf? = some divisor → ∃ r, divisor.toRat? = some r ∧ 0 < r
  /-- No member has to be there twice. -/
  required : (f.required?.getD []).Nodup

/-- Texts are different values if they are different texts. -/
theorem Json.noneEqual_strings {eq : Json → Json → Bool}
    (heq : ∀ a b, eq (.string a) (.string b) = (a == b)) (names : List String) :
    allDistinct.noneEqual eq (names.map .string) = true ↔ names.Nodup := by
  induction names with
  | nil => exact ⟨fun _ => .nil, fun _ => rfl⟩
  | cons name rest ih =>
    have hany : (rest.map Json.string).any (eq (.string name)) = rest.contains name := by
      rw [List.any_map, List.contains_eq_any_beq]
      exact congrArg rest.any (funext fun other => heq name other)
    rw [List.map_cons, allDistinct.noneEqual, Bool.and_eq_true, ih, hany, Bool.not_eq_true',
      List.contains_eq_mem, decide_eq_false_iff_not, List.nodup_cons]

theorem Json.allDistinct_strings (names : List String) :
    allDistinct (names.map .string) = true ↔ names.Nodup := by
  refine noneEqual_strings (fun a b => ?_) names
  split <;> rfl

/-- A list of names has the right form if no name is in it twice. -/
theorem JsonSchema.ownFits_required (names : List String) :
    ownFits "required" (Json.strings names) = true ↔ names.Nodup := by
  have hform : ownFits "required" (Json.strings names) =
      ((names.map Json.string).all Form.isText && Json.allDistinct (names.map .string)) := rfl
  have htexts : (names.map Json.string).all Form.isText = true := by
    rw [List.all_map]
    exact List.all_eq_true.mpr fun _ _ => rfl
  rw [hform, htexts, Bool.true_and]
  exact Json.allDistinct_strings names

theorem JsonSchema.ownFits_multipleOf (divisor : Binary64) :
    ownFits "multipleOf" (.float divisor) = true ↔ ∃ r, divisor.toRat? = some r ∧ 0 < r := by
  have hform : ownFits "multipleOf" (.float divisor) = divisor.toRat?.any (0 < ·) := rfl
  rw [hform]
  cases divisor.toRat? with
  | none => exact ⟨nofun, fun ⟨_, h, _⟩ => nomatch h⟩
  | some r => simp

/-- A pattern has the right form if it is an expression. -/
theorem JsonSchema.ownFits_pattern (regex : String) :
    ownFits "pattern" (.string regex) = (Regex.parse? regex).isSome := by
  show (Regex.parse? (String.ofList regex.toList)).isSome = _
  rw [String.ofList_toList]

theorem JsonSchema.ownFits_count {key : String} {n : Int} (hn : IsCount n)
    (hkey : key ∈ ["minLength", "maxLength", "minItems", "maxItems", "minProperties",
      "maxProperties"]) : ownFits key (.int n) = true := by
  have hform : ownFits key (.int n) = (Form.count? (.int n)).isSome := by
    simp only [List.mem_cons, List.not_mem_nil, or_false] at hkey
    rcases hkey with rfl | rfl | rfl | rfl | rfl | rfl <;> rfl
  rw [hform, count?_int hn]
  rfl

namespace Facets

variable {f : Facets}

theorem exists_float_of_bound {exclusive? : Option Bool} {bound? : Option Binary64} {argument : Json}
    (h : some argument = included exclusive? bound? ∨ some argument = excluded exclusive? bound?) :
    ∃ x, argument = .float x := by
  have hbound : bound?.map .float = some argument := by
    unfold included excluded at h
    split at h
    · exact (h.resolve_left nofun).symm
    · exact (h.resolve_right nofun).symm
  obtain ⟨x, -, rfl⟩ := Option.map_eq_some_iff.mp hbound
  exact ⟨x, rfl⟩

/-- **What is well formed has the right form** but for three keywords. -/
theorem Proper.fit_iff (h : f.Proper) : f.Fit ↔ f.IsUsable := by
  constructor
  · intro hfit
    refine ⟨fun regex hregex => ?_, fun divisor hdivisor => ?_, ?_⟩
    · rw [← JsonSchema.ownFits_pattern]
      exact hfit "pattern" _ (show f.pattern?.map Json.string = _ by rw [hregex]; rfl)
    · rw [← JsonSchema.ownFits_multipleOf]
      exact hfit "multipleOf" _ (show f.multipleOf?.map Json.float = _ by rw [hdivisor]; rfl)
    · cases hrequired : f.required? with
      | none => exact .nil
      | some names =>
        exact (JsonSchema.ownFits_required names).mp
          (hfit "required" _ (show f.required?.map Json.strings = _ by rw [hrequired]; rfl))
  · intro husable key argument hfind
    have hcount {n? : Option Int} (hn : n? ∈ f.counts) (hargument : some argument = n?.map .int)
        (hkey : key ∈ ["minLength", "maxLength", "minItems", "maxItems", "minProperties",
          "maxProperties"]) : ownFits key argument = true := by
      obtain ⟨n, rfl, rfl⟩ := Option.map_eq_some_iff.mp hargument.symm
      exact JsonSchema.ownFits_count (h.natural n hn) hkey
    have hmem := mem_of_findKey? (Option.join_eq_some_iff.mp hfind)
    simp only [translated, List.mem_cons, Prod.mk.injEq, List.not_mem_nil, or_false] at hmem
    rcases hmem with ⟨rfl, h⟩ | ⟨rfl, -⟩ | ⟨rfl, h⟩ | ⟨rfl, h⟩ | ⟨rfl, h⟩ | ⟨rfl, h⟩ | ⟨rfl, h⟩ |
      ⟨rfl, h⟩ | ⟨rfl, h⟩ | ⟨rfl, h⟩ | ⟨rfl, h⟩ | ⟨rfl, h⟩ | ⟨rfl, h⟩ | ⟨rfl, h⟩ | ⟨rfl, h⟩ |
      ⟨rfl, h⟩ | ⟨rfl, h⟩
    -- The description, the default and the format.
    · obtain ⟨text, -, rfl⟩ := Option.map_eq_some_iff.mp h.symm
      rfl
    · rfl
    · obtain ⟨name, -, rfl⟩ := Option.map_eq_some_iff.mp h.symm
      rfl
    -- The pattern.
    · obtain ⟨regex, hregex, rfl⟩ := Option.map_eq_some_iff.mp h.symm
      exact (JsonSchema.ownFits_pattern regex).trans (husable.pattern regex hregex)
    -- The bounds, which may be excluded.
    · obtain ⟨x, rfl⟩ := exists_float_of_bound (.inl h)
      rfl
    · obtain ⟨x, rfl⟩ := exists_float_of_bound (.inl h)
      rfl
    · obtain ⟨x, rfl⟩ := exists_float_of_bound (.inr h)
      rfl
    · obtain ⟨x, rfl⟩ := exists_float_of_bound (.inr h)
      rfl
    -- The divisor.
    · obtain ⟨divisor, hdivisor, rfl⟩ := Option.map_eq_some_iff.mp h.symm
      exact (JsonSchema.ownFits_multipleOf divisor).mpr (husable.multipleOf divisor hdivisor)
    -- The counts, with the mark of different items between them.
    · exact hcount (by simp [counts]) h (by decide)
    · exact hcount (by simp [counts]) h (by decide)
    · exact hcount (by simp [counts]) h (by decide)
    · exact hcount (by simp [counts]) h (by decide)
    · obtain ⟨unique, -, rfl⟩ := Option.map_eq_some_iff.mp h.symm
      rfl
    · exact hcount (by simp [counts]) h (by decide)
    · exact hcount (by simp [counts]) h (by decide)
    -- The members that have to be there.
    · obtain ⟨names, hnames, rfl⟩ := Option.map_eq_some_iff.mp h.symm
      have hrequired := husable.required
      rw [hnames] at hrequired
      exact (JsonSchema.ownFits_required names).mpr hrequired

end Facets

/-- A bracket that is not closed is no expression. -/
example : ¬Facets.IsUsable { pattern? := some "[" } := fun h =>
  absurd (h.pattern "[" rfl) (by decide +kernel)

/-! ## From a schema to those inside it -/

namespace JsonSchema

/-- A keyword of a schema stands first in a part of its keywords that fits. -/
theorem exists_keywordsFit_cons {members : List (String × Json)}
    (h : Dialect.draft7.keywordsFit members = true) {key : String} {argument : Json}
    (hmem : (key, argument) ∈ members) :
    ∃ rest, Dialect.draft7.keywordsFit ((key, argument) :: rest) = true := by
  induction members with
  | nil => exact absurd hmem List.not_mem_nil
  | cons m rest ih =>
    rcases List.mem_cons.mp hmem with rfl | hmem
    · exact ⟨rest, h⟩
    · rw [Dialect.keywordsFit, Bool.and_eq_true] at h
      exact ih h.2 hmem

/-- A keyword about the value itself has the right form in a schema. -/
theorem ownFits_of_keywordsFit {members : List (String × Json)}
    (h : Dialect.draft7.keywordsFit members = true) {key : String} {argument : Json}
    (hmem : (key, argument) ∈ members) (hkey : key ∈ ownKeywords) :
    ownFits key argument = true := by
  obtain ⟨rest, hfits⟩ := exists_keywordsFit_cons h hmem
  rw [Dialect.keywordsFit, Bool.and_eq_true] at hfits
  have hfirst := hfits.1
  simp only [ownKeywords, List.mem_cons, List.not_mem_nil, or_false] at hkey
  rcases hkey with rfl | rfl | rfl | rfl | rfl | rfl | rfl | rfl | rfl | rfl | rfl | rfl | rfl |
    rfl | rfl | rfl | rfl | rfl | rfl | rfl | rfl
  all_goals exact hfirst

theorem isSchema_of_allNamed {schemas : List (String × Json)}
    (h : Dialect.draft7.allNamedSchemas (fun _ => false) schemas = true) :
    ∀ p ∈ schemas, Dialect.draft7.isSchema p.2 = true := by
  induction schemas with
  | nil => exact fun _ hp => absurd hp List.not_mem_nil
  | cons p rest ih =>
    rw [Dialect.allNamedSchemas, Bool.false_or, Bool.and_eq_true] at h
    exact List.forall_mem_cons.mpr ⟨h.1, ih h.2⟩

end JsonSchema

namespace SchemaNode

variable {strict : Bool} {node : SchemaNode} {members : List (String × Json)}

/-- **A schema of a node is one only if** the facets fit and the schemas of the nodes inside are
schemas. -/
theorem IsSchemaOf.of_isSchema (hgenerated : node.Generated) (h : node.IsSchemaOf strict members)
    (hschema : Dialect.draft7.isSchema (.object members) = true) :
    node.facets.Fit ∧
      ∀ inner, node.Holds inner → Dialect.draft7.isSchema (ofOpenApi strict inner.toJson) = true := by
  rw [Dialect.isSchema, Bool.and_eq_true] at hschema
  have hfirst {key : String} {argument : Json} (hfind : findKey? key members = some argument) :
      ∃ rest, Dialect.draft7.keywordsFit ((key, argument) :: rest) = true :=
    JsonSchema.exists_keywordsFit_cons hschema.2 (mem_of_findKey? hfind)
  refine ⟨fun key argument hfind => ?_, fun inner hinner => ?_⟩
  · obtain ⟨hown, hkey⟩ := mem_ownKeywords_of_facets hfind
    rw [← h.facets hkey] at hfind
    exact JsonSchema.ownFits_of_keywordsFit hschema.2 (mem_of_findKey? hfind) hown
  · rcases hinner with ⟨key, hmem⟩ | hitems | hadditional
    · cases hproperties : node.properties? with
      | none =>
        rw [declared, hproperties] at hmem
        exact absurd hmem List.not_mem_nil
      | some ps =>
        rw [declared, hproperties] at hmem
        have hfind := h.properties
        rw [hproperties] at hfind
        obtain ⟨rest, hfits⟩ := hfirst hfind
        rw [Dialect.keywordsFit, Bool.and_eq_true] at hfits
        exact JsonSchema.isSchema_of_allNamed hfits.1 (key, ofOpenApi strict inner.toJson)
          (List.mem_map.mpr ⟨(key, inner), hmem, rfl⟩)
    · have hfind := h.items
      rw [hitems] at hfind
      obtain ⟨rest, hfits⟩ := hfirst hfind
      rw [Dialect.keywordsFit, Bool.and_eq_true] at hfits
      -- The schema of a node is no list of schemas.
      obtain ⟨inside, heq, -⟩ := (hgenerated.holds (.inr (.inl hitems))).isSchemaOf strict
      have hitem : (Dialect.draft7.isSchema (ofOpenApi strict inner.toJson) ||
          Dialect.draft7.isSchemaList (ofOpenApi strict inner.toJson)) = true := hfits.1
      have hlist : Dialect.draft7.isSchemaList (ofOpenApi strict inner.toJson) = false := by
        rw [heq]
        rfl
      rwa [hlist, Bool.or_false] at hitem
    · have hfind := h.additional
      rw [additionalWords, hadditional] at hfind
      obtain ⟨rest, hfits⟩ := hfirst hfind
      rw [Dialect.keywordsFit, Bool.and_eq_true] at hfits
      exact hfits.1

/-- **Schemas are schemas all the way down**: the facets of every node that a schema leads to fit. A
schema that is well formed has well formed schemas inside, and these are those of the nodes inside.
-/
theorem IsSchemaOf.fit_of_reaches (h : node.IsSchemaOf strict members) (hgenerated : node.Generated)
    (hschema : Dialect.draft7.isSchema (.object members) = true) {inner : SchemaNode}
    (hreaches : Relation.ReflTransGen Holds node inner) : inner.facets.Fit := by
  have hinner : inner.Generated ∧ ∃ members, inner.IsSchemaOf strict members ∧
      Dialect.draft7.isSchema (.object members) = true := by
    induction hreaches with
    | refl => exact ⟨hgenerated, members, h, hschema⟩
    | tail _ hholds ih =>
      obtain ⟨houter, members, houterSchema, hisSchema⟩ := ih
      have hgenerated := houter.holds hholds
      obtain ⟨inside, heq, hinside⟩ := hgenerated.isSchemaOf strict
      have hbelow := (houterSchema.of_isSchema houter hisSchema).2 _ hholds
      exact ⟨hgenerated, inside, hinside, heq ▸ hbelow⟩
  obtain ⟨hgenerated, members, h, hschema⟩ := hinner
  exact (h.of_isSchema hgenerated hschema).1

/-- **The schema of a node is sound** if the facets of all nodes that it leads to fit. This is the
other direction of `IsSchemaOf.fit_of_reaches`, by induction on the node. -/
theorem Generated.sound_of_reaches (hgenerated : node.Generated)
    (hfits : ∀ inner, Relation.ReflTransGen Holds node inner → inner.facets.Fit) :
    Sound (ofOpenApi strict node.toJson) := by
  refine hgenerated.induction
    (Q := fun node => (∀ inner, Relation.ReflTransGen Holds node inner → inner.facets.Fit) →
      Sound (ofOpenApi strict node.toJson))
    (fun node hgenerated ih hfits => ?_) hfits
  obtain ⟨members, heq, hschema⟩ := hgenerated.isSchemaOf strict
  rw [heq]
  exact hschema.sound hgenerated (hfits node .refl) fun inner hinner =>
    ih inner hinner fun below hbelow => hfits below (.head hinner hbelow)

end SchemaNode

/-! ## Definitions -/

/-- **Which definitions can be used to validate.** Whatever the options, the schema of a definition is
either accepted by validators or refused, and it is accepted exactly if at every node that it leads to
the pattern is an expression, the divisor is above zero, and no member has to be there twice. -/
theorem Crd.exists_validator_iff {options : CrdOptions} {schema : Schema} {crd : Crd}
    (h : ofSchema options schema = .ok crd) (strict : Bool) :
    ∃ version resource document, crd.versions = [version] ∧ version.schema? = some resource ∧
      crd.jsonSchema strict none = .ok document ∧
      ((∃ validator, Validator.ofSchema document = .ok validator) ↔
        ∀ inner, Relation.ReflTransGen SchemaNode.Holds resource inner → inner.facets.IsUsable) ∧
      ((¬∃ validator, Validator.ofSchema document = .ok validator) →
        Validator.ofSchema document = .error .invalidJsonSchema) := by
  obtain ⟨group, version, root, node, own, resource, -, -, rfl, -, hresource, heq⟩ :=
    ofSchema_eq_ok h
  have hversions : crd.versions = [⟨version, true, true, some resource⟩] := by rw [heq]
  have hgenerated := hresource.generated
  obtain ⟨members, hdocument, hschema, hdialect⟩ :=
    exists_jsonSchema hversions rfl hgenerated strict
  have hfits {inner : SchemaNode}
      (hinner : Relation.ReflTransGen SchemaNode.Holds resource inner) :
      inner.facets.Fit ↔ inner.facets.IsUsable :=
    (hgenerated.of_reaches hinner).proper.fit_iff
  refine ⟨_, resource, _, hversions, rfl, hdocument, ⟨fun ⟨validator, hvalidator⟩ inner hinner => ?_,
    fun husable => ?_⟩, fun hnone => ?_⟩
  · obtain ⟨hdraft, hmembers⟩ := Validator.draft7_of_ofSchema hdialect hvalidator
    have hisSchema := validator.isSchema
    rw [hdraft, hmembers] at hisSchema
    exact (hfits hinner).mp (hschema.fit_of_reaches hgenerated hisSchema hinner)
  · have hbelow (inner : SchemaNode) (hinner : resource.Holds inner) :
        Sound (ofOpenApi strict inner.toJson) :=
      (hgenerated.holds hinner).sound_of_reaches fun below hbelow =>
        (hfits (.head hinner hbelow)).mpr (husable below (.head hinner hbelow))
    have hsound := hschema.sound hgenerated ((hfits .refl).mpr (husable resource .refl)) hbelow
    exact hsound.exists_validator hdialect
  · cases hresult : Validator.ofSchema (.object members) with
    | ok validator => exact absurd ⟨validator, hresult⟩ hnone
    | error error => rw [Validator.ofSchema_eq_error hresult]

end ChartSchema
