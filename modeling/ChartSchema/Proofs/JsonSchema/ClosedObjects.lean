import ChartSchema.Proofs.Json.Same
import ChartSchema.Proofs.JsonSchema.Conformance
/-!
# What the strict schema asks besides

A definition is translated to JSON Schema in two ways: open, as resources are checked, and strict,
as values documents are. `Crd.jsonSchema_strict_iff` says what lies between the two. A value is
admitted by the strict schema exactly if the open one admits it and it `KeepsToDeclared` members:
wherever the value has an object at which the node `Closes`, every key of the object is that of a
property.

Which places these are is said by `SchemaNode.Meets`, which walks through the value and the node
together, and not by the translation, where an object is closed by a keyword that is written behind
the passes over everything else. The strict schema looks at the members of a closed object one by
one, the open one looks up each property; that this is the same needs that no object has a key
twice, so values are those of JSON (`Json.Proper`).
-/

namespace ChartSchema

open JsonSchema (Validator)

namespace SchemaNode

/-! ## Places in a value -/

/-- **A place in a value and the node there**: `node.Meets v place w` says that the node `place`
speaks about the part `w` of a value `v` of `node`. -/
inductive Meets : SchemaNode → Json → SchemaNode → Json → Prop
  /-- A node speaks about its value. -/
  | here (node : SchemaNode) (v : Json) : Meets node v node v
  /-- A property speaks about the member of its key. -/
  | property {node inner place : SchemaNode} {members : List (String × Json)} {key : String}
    {v w : Json} : (key, inner) ∈ node.declared → (key, v) ∈ members →
      Meets inner v place w → Meets node (.object members) place w
  /-- The items of a node speak about the items of a list. -/
  | item {node inner place : SchemaNode} {items : List Json} {v w : Json} :
    node.items? = some inner → v ∈ items → Meets inner v place w →
      Meets node (.array items) place w
  /-- What is said about other members speaks about those without a property. -/
  | other {node inner place : SchemaNode} {members : List (String × Json)} {key : String}
    {v w : Json} : node.additional? = some (.value inner) → (key, v) ∈ members →
      hasKey key node.declared = false → Meets inner v place w →
        Meets node (.object members) place w

/-- **Objects of the node have declared members only** in the strict schema: the node has
properties, it does not keep unknown members, and it says nothing about others. -/
def Closes (node : SchemaNode) : Prop :=
  node.declared ≠ [] ∧ node.facets.preserveUnknown? ≠ some true ∧ node.additional? = none

/-- The object has no members but those with a property, if the node closes. -/
def OwnDeclared (node : SchemaNode) (members : List (String × Json)) : Prop :=
  node.Closes → ∀ m ∈ members, hasKey m.1 node.declared = true

/-- **Every object where a node closes has declared members only**, at whatever place. -/
def KeepsToDeclared (node : SchemaNode) (v : Json) : Prop :=
  ∀ place members, node.Meets v place (.object members) → place.OwnDeclared members

section

variable {node : SchemaNode} {v : Json}

/-- What keeps to declared members keeps to them at its own place and in each of its parts. -/
theorem keepsToDeclared_iff : node.KeepsToDeclared v ↔
    (∀ members, v = .object members → node.OwnDeclared members ∧
      (∀ key inner, (key, inner) ∈ node.declared → ∀ w, (key, w) ∈ members →
        inner.KeepsToDeclared w) ∧
      ∀ inner, node.additional? = some (.value inner) → ∀ key w, (key, w) ∈ members →
        hasKey key node.declared = false → inner.KeepsToDeclared w) ∧
    ∀ inner, node.items? = some inner → ∀ items, v = .array items → ∀ item ∈ items,
      inner.KeepsToDeclared item := by
  constructor
  · intro h
    refine ⟨?_, ?_⟩
    · rintro members rfl
      exact ⟨h node members (.here ..),
        fun key inner hdeclared w hw place ms hmeets => h place ms (.property hdeclared hw hmeets),
        fun inner hother key w hw hkey place ms hmeets =>
          h place ms (.other hother hw hkey hmeets)⟩
    · rintro inner hitems items rfl item hitem place ms hmeets
      exact h place ms (.item hitems hitem hmeets)
  · rintro ⟨hobject, hitems⟩ place members hmeets
    cases hmeets with
    | here => exact (hobject members rfl).1
    | property hdeclared hw hmeets =>
      exact (hobject _ rfl).2.1 _ _ hdeclared _ hw place members hmeets
    | item hinner hitem hmeets => exact hitems _ hinner _ rfl _ hitem place members hmeets
    | other hother hw hkey hmeets =>
      exact (hobject _ rfl).2.2 _ hother _ _ hw hkey place members hmeets

/-! ## Objects of one node -/

/-- A generated node closes exactly where the strict schema is written with the keyword for it. -/
theorem Generated.isClosed_iff (h : node.Generated) : node.isClosed true = true ↔ node.Closes := by
  have hpreserve : (!node.facets.preserveUnknown?.getD false) = true ↔
      node.facets.preserveUnknown? ≠ some true := by
    rw [Bool.not_eq_true', ← Bool.not_eq_true, Ne, getD_false_eq_true]
  have hdeclared : (!node.declared.isEmpty) = true ↔ node.declared ≠ [] := by
    rw [Bool.not_eq_true', ← Bool.not_eq_true, List.isEmpty_iff]
  rw [isClosed, Bool.true_and, Bool.and_eq_true, hpreserve, hdeclared, Closes]
  constructor
  · rintro ⟨hpreserved, hsome⟩
    refine ⟨hsome, hpreserved, ?_⟩
    cases hother : node.otherNode? with
    | none => rw [h.additional_eq, hother]; rfl
    | some inner => exact absurd (h.declared_of_other hother) hsome
  · intro hcloses
    exact ⟨hcloses.2.1, hcloses.1⟩

/-- **A strict schema says about members what the open one says**, and that there are none but
declared ones where the node closes. -/
theorem Generated.membersFit_strict_iff (h : node.Generated) {P : SchemaNode → Json → Prop}
    {members : List (String × Json)} (hkeys : (members.map (·.1)).Nodup) :
    node.MembersFit true P members ↔
      node.MembersFit false P members ∧ node.OwnDeclared members := by
  have hopen : node.isClosed false = false := rfl
  cases hclosed : node.isClosed true with
  | false =>
    -- Where the node does not close, both schemas say the same.
    have hnot : ¬ node.Closes := fun hcloses =>
      Bool.false_ne_true (hclosed.symm.trans (h.isClosed_iff.mpr hcloses))
    refine ⟨fun hfit => ⟨⟨?_, ?_⟩, fun hcloses => absurd hcloses hnot⟩,
      fun ⟨hfit, _⟩ => ⟨?_, ?_⟩⟩
    · exact fun key inner hmem w hw hother _ => hfit.declared key inner hmem w hw hother hclosed
    · rw [hopen, ← hclosed]
      exact hfit.checked
    · exact fun key inner hmem w hw hother _ => hfit.declared key inner hmem w hw hother hopen
    · rw [hclosed, ← hopen]
      exact hfit.checked
  | true =>
    have hcloses := h.isClosed_iff.mp hclosed
    have hnone : node.otherNode? = none := by
      cases hother : node.otherNode? with
      | none => rfl
      | some inner => exact absurd (h.declared_of_other hother) hcloses.1
    constructor
    · intro hfit
      have hchecked := hfit.checked (by rw [hclosed, Bool.or_true])
      rw [hnone] at hchecked
      refine ⟨⟨fun key inner hmem w hw _ _ => ?_, fun hothers => ?_⟩, fun _ m hm => ?_⟩
      · -- The member that is looked up is one of those that are looked at.
        obtain ⟨found, hfound, hok⟩ := hchecked (key, w) (mem_of_findKey? hw)
        rw [Option.or_none, findKey?_of_mem h.inKeyOrder_declared.nodup hmem] at hfound
        exact Option.some.inj hfound ▸ hok
      · rw [hnone, hopen] at hothers
        exact nomatch hothers
      · obtain ⟨found, hfound, -⟩ := hchecked m hm
        rw [Option.or_none] at hfound
        rw [hasKey, hfound, Option.isSome_some]
    · rintro ⟨hfit, hdeclared⟩
      refine ⟨fun key inner _ w _ _ hnot => absurd hclosed (by rw [hnot]; exact Bool.false_ne_true),
        fun _ m hm => ?_⟩
      obtain ⟨inner, hfound⟩ := Option.isSome_iff_exists.mp (hdeclared hcloses m hm)
      refine ⟨inner, by rw [hfound]; rfl, ?_⟩
      exact hfit.declared m.1 inner (mem_of_findKey? hfound) m.2 (findKey?_of_mem hkeys hm) hnone
        hopen

/-! ## Values -/

/-- **The strict schema of a node admits a value exactly if the open one does and the value keeps to
declared members.** The induction is on the nodes inside; for one node it is `membersFit_strict_iff`
that splits what the strict schema says. -/
theorem Generated.admits_strict_iff (h : node.Generated) (hv : v.Proper) :
    node.Admits true v ↔ node.Admits false v ∧ node.KeepsToDeclared v := by
  refine h.induction
    (Q := fun node => ∀ v : Json, v.Proper →
      (node.Admits true v ↔ node.Admits false v ∧ node.KeepsToDeclared v))
    (fun node hgenerated ih v hv => ?_) v hv
  -- What is known of the nodes inside, and where the members of an object are looked at.
  have hinner {inner : SchemaNode} (hholds : node.Holds inner) {w : Json} (hw : w.Proper) :
      inner.Admits true w ↔ inner.Admits false w ∧ inner.KeepsToDeclared w := ih inner hholds w hw
  have hmembers {members : List (String × Json)} (hobject : v = .object members) :
      node.MembersFit true (Admits true) members ↔
        ((∀ key inner, (key, inner) ∈ node.declared → ∀ w, findKey? key members = some w →
            inner.Admits true w) ∧
          ∀ inner, node.additional? = some (.value inner) → ∀ m ∈ members,
            hasKey m.1 node.declared = false → inner.Admits true m.2) ∧
        node.OwnDeclared members := by
    rw [hgenerated.membersFit_strict_iff (hobject ▸ hv).keys_nodup, hgenerated.membersFit_iff]
  rw [hgenerated.admits_iff, hgenerated.admits_iff, keepsToDeclared_iff]
  constructor
  · intro hfits
    refine ⟨⟨hfits.type, hfits.listed, hfits.alternatives, hfits.facets, ?_, ?_⟩, ?_, ?_⟩
    · intro inner hitems items hlist item hitem
      have hadmits := hfits.items inner hitems items hlist item hitem
      exact ((hinner (.inr (.inl hitems)) ((hlist ▸ hv).item item hitem)).mp hadmits).1
    · intro members hobject
      obtain ⟨⟨hdeclared, hothers⟩, -⟩ := (hmembers hobject).mp (hfits.members members hobject)
      have hproper : (Json.object members).Proper := hobject ▸ hv
      refine hgenerated.membersFit_iff.mpr ⟨fun key inner hmem w hw => ?_,
        fun inner hother m hm hkey => ?_⟩
      · exact ((hinner (.inl ⟨key, hmem⟩) (hproper.member (mem_of_findKey? hw))).mp
          (hdeclared key inner hmem w hw)).1
      · exact ((hinner (.inr (.inr hother)) (hproper.member hm)).mp
          (hothers inner hother m hm hkey)).1
    · intro members hobject
      obtain ⟨⟨hdeclared, hothers⟩, hown⟩ := (hmembers hobject).mp (hfits.members members hobject)
      have hproper : (Json.object members).Proper := hobject ▸ hv
      refine ⟨hown, fun key inner hmem w hw => ?_, fun inner hother key w hw hkey => ?_⟩
      · exact ((hinner (.inl ⟨key, hmem⟩) (hproper.member hw)).mp
          (hdeclared key inner hmem w (findKey?_of_mem hproper.keys_nodup hw))).2
      · exact ((hinner (.inr (.inr hother)) (hproper.member hw)).mp
          (hothers inner hother (key, w) hw hkey)).2
    · intro inner hitems items hlist item hitem
      have hadmits := hfits.items inner hitems items hlist item hitem
      exact ((hinner (.inr (.inl hitems)) ((hlist ▸ hv).item item hitem)).mp hadmits).2
  · rintro ⟨hfits, hobjects, hlists⟩
    refine ⟨hfits.type, hfits.listed, hfits.alternatives, hfits.facets, ?_, ?_⟩
    · intro inner hitems items hlist item hitem
      exact (hinner (.inr (.inl hitems)) ((hlist ▸ hv).item item hitem)).mpr
        ⟨hfits.items inner hitems items hlist item hitem,
          hlists inner hitems items hlist item hitem⟩
    · intro members hobject
      obtain ⟨hown, hdeclared, hothers⟩ := hobjects members hobject
      obtain ⟨hdeclaredFit, hothersFit⟩ :=
        hgenerated.membersFit_iff.mp (hfits.members members hobject)
      have hproper : (Json.object members).Proper := hobject ▸ hv
      refine (hmembers hobject).mpr ⟨⟨fun key inner hmem w hw => ?_,
        fun inner hother m hm hkey => ?_⟩, hown⟩
      · have hw' := mem_of_findKey? hw
        exact (hinner (.inl ⟨key, hmem⟩) (hproper.member hw')).mpr
          ⟨hdeclaredFit key inner hmem w hw, hdeclared key inner hmem w hw'⟩
      · exact (hinner (.inr (.inr hother)) (hproper.member hm)).mpr
          ⟨hothersFit inner hother m hm hkey, hothers inner hother m.1 m.2 hm hkey⟩

end

end SchemaNode

/-! ## Definitions -/

/-- **The strict JSON Schema differs from the open one by closed objects only.** Both come from the
one version of a generated definition. A value is valid under the strict one exactly if it is under
the open one and keeps to declared members wherever the schema of the definition closes; and so it
is for any validators of the two. -/
theorem Crd.jsonSchema_strict_iff {options : CrdOptions} {schema : Schema} {crd : Crd}
    (h : Crd.ofSchema options schema = .ok crd) :
    ∃ version node, crd.versions = [version] ∧ version.schema? = some node ∧
      ∀ name? : Option String, (∀ name, name? = some name → name = version.name) →
        ∃ strict opened, crd.jsonSchema true name? = .ok strict ∧
          crd.jsonSchema false name? = .ok opened ∧
          (∀ v : Json, v.Proper → (JsonSchema.Draft7Admits strict v ↔
            JsonSchema.Draft7Admits opened v ∧ node.KeepsToDeclared v)) ∧
          ∀ strictly openly, Validator.ofSchema strict = .ok strictly →
            Validator.ofSchema opened = .ok openly → ∀ v : Json, v.Proper →
              (strictly.accepts v = true ↔
                openly.accepts v = true ∧ node.KeepsToDeclared v) := by
  obtain ⟨name, node, hgenerated⟩ := Crd.isGenerated_of_ofSchema h
  have hnode := hgenerated.generated
  refine ⟨_, node, hgenerated.versions, rfl, fun name? hname => ?_⟩
  obtain ⟨strictMembers, hstrict, hstrictSchema, hstrictDialect⟩ :=
    Crd.exists_jsonSchema hgenerated.versions rfl hnode true
  obtain ⟨openMembers, hopen, hopenSchema, hopenDialect⟩ :=
    Crd.exists_jsonSchema hgenerated.versions rfl hnode false
  refine ⟨_, _, (Crd.jsonSchema_of_name hgenerated.versions true hname).trans hstrict,
    (Crd.jsonSchema_of_name hgenerated.versions false hname).trans hopen, fun v hv => ?_,
    fun strictly openly hstrictly hopenly v hv => ?_⟩
  · have hstrictIff : JsonSchema.Draft7Admits (.object strictMembers) v ↔ node.Admits true v := by
      rw [hnode.admits_iff]
      exact hstrictSchema.admits_iff hnode rfl
    have hopenIff : JsonSchema.Draft7Admits (.object openMembers) v ↔ node.Admits false v := by
      rw [hnode.admits_iff]
      exact hopenSchema.admits_iff hnode rfl
    rw [hstrictIff, hopenIff]
    exact hnode.admits_strict_iff hv
  · rw [Validator.accepts_iff_admits hnode hstrictSchema hstrictDialect hstrictly,
      Validator.accepts_iff_admits hnode hopenSchema hopenDialect hopenly]
    exact hnode.admits_strict_iff hv

/-- A text with objects that close, in a list and below a property, one that keeps unknown members
and one that may have any. -/
def depotText : String :=
  "apiVersion: a.io/v1\nkind: Depot\ntank:\n  size: 1\ngates:\n  - open: true\n# +PreserveUnknownFields\nextra:\n  note: x\nlabels: \x7b\x7d\n"

/-- The two JSON Schemas of the definition of this text differ by closed objects only. -/
theorem Crd.jsonSchema_strict_iff_depot :
    ∃ schema crd, Schema.infer {} depotText = .ok schema ∧ Crd.ofSchema {} schema = .ok crd ∧
      ∃ version node, crd.versions = [version] ∧ version.schema? = some node ∧
        ∀ name? : Option String, (∀ name, name? = some name → name = version.name) →
          ∃ strict opened, crd.jsonSchema true name? = .ok strict ∧
            crd.jsonSchema false name? = .ok opened ∧
            (∀ v : Json, v.Proper → (JsonSchema.Draft7Admits strict v ↔
              JsonSchema.Draft7Admits opened v ∧ node.KeepsToDeclared v)) ∧
            ∀ strictly openly, Validator.ofSchema strict = .ok strictly →
              Validator.ofSchema opened = .ok openly → ∀ v : Json, v.Proper →
                (strictly.accepts v = true ↔
                  openly.accepts v = true ∧ node.KeepsToDeclared v) := by
  have hchars := Text.toList_of_eq (s := depotText) (by unfold depotText; rfl)
  have hsome : ((Schema.infer {} depotText).toOption.bind fun schema =>
      (Crd.ofSchema {} schema).toOption).isSome = true := by
    rw [Schema.infer, Schema.ofText, Yaml.Value.parse?, Yaml.Document.parse?, SourceMap.scan, hchars]
    decide +kernel
  obtain ⟨crd, hbind⟩ := Option.isSome_iff_exists.mp hsome
  obtain ⟨schema, hschema, hcrd⟩ := Option.bind_eq_some_iff.mp hbind
  exact ⟨schema, crd, Outcome.toOption_eq_some.mp hschema, Outcome.toOption_eq_some.mp hcrd,
    Crd.jsonSchema_strict_iff (Outcome.toOption_eq_some.mp hcrd)⟩

end ChartSchema
