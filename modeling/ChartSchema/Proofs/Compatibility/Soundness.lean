import ChartSchema.Proofs.Compatibility.FullComparison
import ChartSchema.Proofs.Crd.Structural
import ChartSchema.Proofs.JsonSchema.Usable
/-!
# Resources stay valid where all changes are safe

A change is called safe if resources that were valid stay valid. For a definition and a later one
this should mean: if all changes between the two are safe, a resource that the JSON Schema of the
first admits is admitted by the JSON Schema of the second, as long as the first one speaks of all
its members (`SchemaNode.CoversResource`). `Crd.accepts_of_safe` says that this is so, unless the
comparison overlooks something: `SchemaNode.ComparesFully` has to hold of the two nodes at every
location of both schemas.

`SchemaNode.MayReplace` is what a comparison with safe changes says of two nodes. It is handed on to
the nodes inside that stand at one place; and every node of the later schema that a member or an
item comes to stands at a place where the earlier schema has one. So the proof is an induction on
nodes, with nothing but what a node says about the value itself left to be shown.
-/

namespace ChartSchema

open JsonSchema (Validator)

namespace SchemaNode

variable {node old new : SchemaNode} {v : Json}

/-! ## What is inside -/

/-- **One node may take the place of another**: all changes are safe, and nothing that matters is
overlooked at any location of both. Of the node itself only the members are compared if
`membersOnly`. -/
structure MayReplace (membersOnly : Bool) (old new : SchemaNode) : Prop where
  /-- All changes are safe. -/
  safe : ∃ path,
    Property.AllChanges PropertyChange.IsSafe membersOnly path old.view new.view
  /-- Nothing is overlooked. -/
  fully : ∀ path p q, old.at? path = some p → new.at? path = some q → p.ComparesFully q

namespace MayReplace

variable {membersOnly : Bool} {key : String} {p q : SchemaNode}

theorem here (h : MayReplace membersOnly old new) : old.ComparesFully new := h.fully [] _ _ rfl rfl

theorem notDangerous (h : MayReplace membersOnly old new) :
    ∃ path, Property.AllChanges Property.NotDangerous membersOnly path old.view new.view := by
  obtain ⟨path, hsafe⟩ := h.safe
  refine ⟨path, fun change hc hdangerous => ?_⟩
  have hboth := (hsafe change hc).symm.trans hdangerous
  cases hboth

/-- **Every member of before is still there.** -/
theorem hasKey_declared (h : MayReplace membersOnly old new) (hold : old.Generated)
    (hnew : new.Generated) (hkey : hasKey key old.declared = true) :
    hasKey key new.declared = true := by
  obtain ⟨path, hchanges⟩ := h.notDangerous
  obtain ⟨p, hp⟩ := Option.isSome_iff_exists.mp hkey
  have hview : findKey? key old.view.properties = some p.view := by
    rw [hold.findKey?_view, hp]
    rfl
  obtain ⟨q, hq⟩ := hchanges.member_kept hview
  rw [← hnew.hasKey_view, hasKey, hq]
  rfl

/-- **A member that both have** may be replaced. -/
theorem member (h : MayReplace membersOnly old new) (hold : old.Generated) (hnew : new.Generated)
    (hp : findKey? key old.declared = some p) (hq : findKey? key new.declared = some q) :
    MayReplace false p q := by
  have hview : findKey? key old.view.properties = some p.view := by
    rw [hold.findKey?_view, hp]
    rfl
  have hview' : findKey? key new.view.properties = some q.view := by
    rw [hnew.findKey?_view, hq]
    rfl
  obtain ⟨path, hsafe⟩ := h.safe
  refine ⟨⟨_, hsafe.member (mem_of_findKey? hview) hview'⟩,
    fun rest a b ha hb => h.fully (.property key :: rest) a b ?_ ?_⟩
  · rw [at?, show findKey? key (old.properties?.getD []) = some p from hp, Option.bind_some, ha]
  · rw [at?, show findKey? key (new.properties?.getD []) = some q from hq, Option.bind_some, hb]

/-- **Items of both** may be replaced. -/
theorem items (h : MayReplace false old new) (hold : old.Generated) (hnew : new.Generated)
    (hp : old.items? = some p) (hq : new.items? = some q) : MayReplace false p q := by
  have hview {node inner : SchemaNode} (hnode : node.Generated)
      (hinner : node.items? = some inner) : node.view.items? = some inner.view := by
    rw [view_eq hnode.others_eq, hinner]
    rfl
  obtain ⟨path, hsafe⟩ := h.safe
  refine ⟨⟨_, hsafe.items (hview hold hp) (hview hnew hq)⟩,
    fun rest a b ha hb => h.fully (.items :: rest) a b ?_ ?_⟩
  · rw [at?, hp, Option.bind_some, ha]
  · rw [at?, hq, Option.bind_some, hb]

/-- **What both say about other members** may be replaced. -/
theorem other (h : MayReplace false old new) (hold : old.Generated) (hnew : new.Generated)
    (hp : old.otherNode? = some p) (hq : new.otherNode? = some q) : MayReplace false p q := by
  have hvalue {node inner : SchemaNode} (hnode : node.Generated)
      (hinner : node.otherNode? = some inner) : node.additional? = some (.value inner) := by
    rw [hnode.additional_eq, hinner]
    rfl
  have hview {node inner : SchemaNode} (hnode : node.Generated)
      (hinner : node.otherNode? = some inner) :
      node.view.additional? = some (.value inner.view) := by
    rw [view_eq hnode.others_eq, hvalue hnode hinner]
    rfl
  obtain ⟨path, hsafe⟩ := h.safe
  refine ⟨⟨_, hsafe.additional (hview hold hp) (hview hnew hq)⟩,
    fun rest a b ha hb => h.fully (.additional :: rest) a b ?_ ?_⟩
  · rw [at?, hvalue hold hp]
    exact ha
  · rw [at?, hvalue hnew hq]
    exact hb

/-- **No member is required that was not.** What is required is declared, so it would be a member
that is new or one that both have. -/
theorem required (h : MayReplace membersOnly old new) (hold : old.Generated) (hnew : new.Generated)
    (hkey : key ∈ new.facets.rules.required) : key ∈ old.facets.rules.required := by
  obtain ⟨path, hsafe⟩ := h.safe
  have hdeclared := hasKey_iff.mpr (hnew.isStructural.required key hkey)
  have hnow : new.view.isRequired key = true := hnew.isRequired_view.mpr hkey
  rw [← hnew.hasKey_view] at hdeclared
  refine hold.isRequired_view.mp (Bool.not_eq_false _ |>.mp fun hunrequired => ?_)
  by_cases hboth : hasKey key old.view.properties = true
  · have hmem : .nowRequired key ∈ Property.requiredFields old.view new.view := by
      refine List.mem_map.mpr ⟨key, List.mem_filter.mpr ⟨?_, ?_⟩, rfl⟩
      · exact List.contains_iff_mem.mp hnow
      · rw [hboth, hunrequired]
        rfl
    cases hsafe.required _ hmem
  · obtain ⟨q, hq⟩ := Option.isSome_iff_exists.mp hdeclared
    have hmem : .fieldAdded key q.type (new.view.isRequired key)
        ∈ Property.addedFields old.view new.view := by
      refine List.mem_map.mpr ⟨(key, q), List.mem_filter.mpr ⟨mem_of_findKey? hq, ?_⟩, rfl⟩
      rw [Bool.eq_false_iff.mpr hboth]
      rfl
    rw [hnow] at hmem
    cases hsafe.added _ hmem

end MayReplace

/-! ## Members that a node speaks of -/

/-- What a node says of the member of a key: its property or, if it has none, what is said of other
members. -/
def nodeOf? (node : SchemaNode) (key : String) : Option SchemaNode :=
  (findKey? key node.declared).or node.otherNode?

/-- What a node says of a member is a node inside it. -/
theorem Generated.holds_nodeOf? (h : node.Generated) {key : String} {inner : SchemaNode}
    (hinner : node.nodeOf? key = some inner) : node.Holds inner := by
  rcases Option.or_eq_some_iff.mp hinner with hproperty | ⟨-, hother⟩
  · exact .inl ⟨key, mem_of_findKey? hproperty⟩
  · exact h.holds_other hother

/-- **A node speaks of a member**: it says what the member is, or it keeps members that it does not
know. -/
def SpeaksOf (node : SchemaNode) (key : String) : Prop :=
  (node.nodeOf? key).isSome = true ∨ node.facets.preserveUnknown? = some true

/-- **A node speaks of all of a value**: of every member at every depth, as far as nodes say what is
there. -/
inductive Covers : SchemaNode → Json → Prop
  /-- The node speaks of the members of the value, and covers what is inside. -/
  | intro {node : SchemaNode} {v : Json}
    (speaks : ∀ members, v = .object members → ∀ m ∈ members, node.SpeaksOf m.1)
    (members : ∀ members, v = .object members → ∀ m ∈ members, ∀ inner,
      node.nodeOf? m.1 = some inner → Covers inner m.2)
    (items : ∀ inner, node.items? = some inner → ∀ items, v = .array items → ∀ item ∈ items,
      Covers inner item) : Covers node v

namespace MayReplace

variable {membersOnly : Bool} {key : String} {q : SchemaNode} {members : List (String × Json)}

/-- **What is said of a member now takes the place of what was said of it**, if something was. A
member that had a property has one still, and one that had none has none now, so the words about
other members are compared. -/
theorem nodeOf? (h : MayReplace membersOnly old new) (hold : old.Generated) (hnew : new.Generated)
    (hother : membersOnly = true → new.otherNode? = none) (hspeaks : old.SpeaksOf key)
    (hq : new.nodeOf? key = some q) : ∃ p, old.nodeOf? key = some p ∧ MayReplace false p q := by
  cases hp : findKey? key old.declared with
  | some p =>
    have hdeclared : hasKey key old.declared = true := by
      rw [hasKey, hp]
      rfl
    obtain ⟨r, hr⟩ := Option.isSome_iff_exists.mp (h.hasKey_declared hold hnew hdeclared)
    rw [SchemaNode.nodeOf?, hr, Option.some_or] at hq
    obtain rfl := Option.some.inj hq
    exact ⟨p, by rw [SchemaNode.nodeOf?, hp, Option.some_or], h.member hold hnew hp hr⟩
  | none =>
    -- The member has no property now either, so what is said of it is said of other members.
    have hothers : old.SpeaksOfOthers → new.otherNode? = some q := fun hspeaksOf => by
      have hnone : findKey? key new.declared = none := by
        by_contra hsome
        have hkept := h.here.declared hspeaksOf key (Option.ne_none_iff_isSome.mp hsome)
        rw [hasKey, hp] at hkept
        exact Bool.false_ne_true hkept
      rwa [SchemaNode.nodeOf?, hnone, Option.none_or] at hq
    cases holdOther : old.otherNode? with
    | some p =>
      have hnewOther := hothers (.inl (by rw [holdOther]; rfl))
      cases membersOnly with
      | true =>
        rw [hother rfl] at hnewOther
        cases hnewOther
      | false =>
        exact ⟨p, by rw [SchemaNode.nodeOf?, hp, Option.none_or, holdOther],
          h.other hold hnew holdOther hnewOther⟩
    | none =>
      rcases hspeaks with hsome | hpreserve
      · rw [SchemaNode.nodeOf?, hp, holdOther] at hsome
        exact absurd hsome Bool.false_ne_true
      · have hnewOther := hothers (.inr hpreserve)
        rw [h.here.others hpreserve holdOther] at hnewOther
        cases hnewOther

/-- **What is said of members takes the place of what was said of them**, where this is so of each
member. -/
theorem membersFit (h : MayReplace membersOnly old new) (hold : old.Generated)
    (hnew : new.Generated) (hother : membersOnly = true → new.otherNode? = none)
    (hspeaks : ∀ m ∈ members, old.SpeaksOf m.1)
    (hinner : ∀ m ∈ members, ∀ p q, old.nodeOf? m.1 = some p → new.nodeOf? m.1 = some q →
      MayReplace false p q → p.Admits false m.2 → q.Admits false m.2)
    (hfit : old.MembersFit false (Admits false) members) :
    new.MembersFit false (Admits false) members := by
  obtain ⟨hdeclared, hothers⟩ := hold.membersFit_iff.mp hfit
  have hadditional {node inner : SchemaNode} (hnode : node.Generated) :
      node.otherNode? = some inner ↔ node.additional? = some (.value inner) := by
    rw [hnode.additional_eq]
    cases node.otherNode? <;> simp
  refine hnew.membersFit_iff.mpr ⟨fun key q hmem w hw => ?_, fun q hq m hm hkey => ?_⟩
  · have hfound := findKey?_of_mem hnew.inKeyOrder_declared.nodup hmem
    have hq : new.nodeOf? key = some q := by rw [SchemaNode.nodeOf?, hfound, Option.some_or]
    have hm := mem_of_findKey? hw
    obtain ⟨p, hp, hreplace⟩ := h.nodeOf? hold hnew hother (hspeaks _ hm) hq
    refine hinner _ hm p q hp hq hreplace ?_
    rcases Option.or_eq_some_iff.mp hp with hproperty | ⟨hnone, hvalue⟩
    · exact hdeclared key p (mem_of_findKey? hproperty) w hw
    · exact hothers p ((hadditional hold).mp hvalue) _ hm (by rw [hasKey, hnone]; rfl)
  · have hnone : findKey? m.1 new.declared = none :=
      Option.isNone_iff_eq_none.mp (Option.isSome_eq_false_iff.mp hkey)
    have hq' : new.nodeOf? m.1 = some q := by
      rw [SchemaNode.nodeOf?, hnone, Option.none_or, (hadditional hnew).mpr hq]
    obtain ⟨p, hp, hreplace⟩ := h.nodeOf? hold hnew hother (hspeaks _ hm) hq'
    refine hinner m hm p q hp hq' hreplace ?_
    rcases Option.or_eq_some_iff.mp hp with hproperty | ⟨hnone', hvalue⟩
    · have hproperty' : hasKey m.1 old.declared = true := by
        rw [hasKey, hproperty]
        rfl
      exact absurd (hkey.symm.trans (h.hasKey_declared hold hnew hproperty')) Bool.false_ne_true
    · exact hothers p ((hadditional hold).mp hvalue) m hm (by rw [hasKey, hnone']; rfl)

theorem relaxes (h : MayReplace false old new) (hold : old.Generated) (hnew : new.Generated) :
    old.propertyType.Within new.propertyType ∧ old.facets.rules.Relaxes new.facets.rules := by
  obtain ⟨path, hchanges⟩ := h.notDangerous
  obtain ⟨path', hsafe⟩ := h.safe
  rw [view_eq hold.others_eq, view_eq hnew.others_eq] at hchanges hsafe
  exact ⟨hchanges.type_within, Rules.relaxes_of_changes hsafe.rules⟩

theorem exists_items (h : MayReplace false old new) (hold : old.Generated) (hnew : new.Generated)
    (hq : new.items? = some q) : ∃ p, old.items? = some p := by
  have hitems {node : SchemaNode} (hnode : node.Generated) :
      node.propertyType = .array ↔ node.items?.isSome = true := by
    have harray := hnode.array_iff
    rwa [view_eq hnode.others_eq, Option.isSome_map] at harray
  have hwithin := (h.relaxes hold hnew).1
  rw [(hitems hnew).mpr (by rw [hq]; rfl)] at hwithin
  exact Option.isSome_iff_exists.mp ((hitems hold).mp hwithin.eq_array)

/-- **What a node says of a value itself takes the place of what was said of it**, where the type
widens and the rules are relaxed; what is left are the items and the members. -/
theorem admits_of_inner (h : MayReplace membersOnly old new) (hold : old.Generated)
    (hnew : new.Generated) (hwithin : old.propertyType.Within new.propertyType)
    (hrelaxes : old.facets.rules.Relaxes new.facets.rules)
    (hitems : ∀ q, new.items? = some q → ∀ items, v = .array items → ∀ item ∈ items,
      q.Admits false item)
    (hmembers : ∀ members, v = .object members → new.MembersFit false (Admits false) members)
    (hv : old.Admits false v) : new.Admits false v := by
  have hfits := hold.admits_iff.mp hv
  obtain ⟨htype, halternatives⟩ := hnew.passesType_iff.mp (hold.passesType_of_within hnew hwithin
    (fun hset => isNullable_iff.mp (hrelaxes.nullable (isNullable_iff.mpr hset)))
    (hold.passesType_iff.mpr ⟨hfits.type, hfits.alternatives⟩))
  have hholds := h.here.holds hold.proper hnew.proper hrelaxes (fun _ => h.required hold hnew)
    ((Facets.admits_iff_holds hold.proper).mp hfits.facets)
  exact hnew.admits_iff.mpr ⟨htype, fun _ => h.here.listed_of hold hnew hrelaxes hfits.listed,
    halternatives, (Facets.admits_iff_holds hnew.proper).mpr hholds, hitems, hmembers⟩

/-- **A node that may be replaced admits nothing that the later one refuses**, among the values that
it covers. The induction is on the nodes inside. -/
theorem admits (h : MayReplace false old new) (hold : old.Generated) (hnew : new.Generated)
    (hcovers : old.Covers v) (hv : old.Admits false v) : new.Admits false v := by
  refine hold.induction (Q := fun old => ∀ new v, MayReplace false old new → new.Generated →
    old.Covers v → old.Admits false v → new.Admits false v)
    (fun old hold ih new v h hnew hcovers hv => ?_) new v h hnew hcovers hv
  obtain ⟨hwithin, hrelaxes⟩ := h.relaxes hold hnew
  have hfits := hold.admits_iff.mp hv
  cases hcovers with
  | intro hspeaks hmembers hitems =>
    refine h.admits_of_inner hold hnew hwithin hrelaxes (fun q hq items hv item hitem => ?_)
      (fun members hv => ?_) hv
    · obtain ⟨p, hp⟩ := h.exists_items hold hnew hq
      exact ih p (.inr (.inl hp)) q item (h.items hold hnew hp hq) (hnew.holds (.inr (.inl hq)))
        (hitems p hp items hv item hitem) (hfits.items p hp items hv item hitem)
    · refine h.membersFit hold hnew (fun h => absurd h Bool.false_ne_true) (hspeaks members hv)
        (fun m hm p q hp hq hreplace => ?_) (hfits.members members hv)
      exact ih p (hold.holds_nodeOf? hp) q m.2 hreplace (hnew.holds (hnew.holds_nodeOf? hq))
        (hmembers members hv m hm p hp)

end MayReplace

/-! ## Resources -/

/-- **A node of a resource speaks of all of a value**, but for what stands in the metadata. -/
def CoversResource (node : SchemaNode) (v : Json) : Prop :=
  ∀ members, v = .object members → ∀ m ∈ members, m.1 ≠ "metadata" →
    node.SpeaksOf m.1 ∧ ∀ inner, node.nodeOf? m.1 = some inner → inner.Covers m.2

/-- Of the metadata every resource says that they are an object. -/
theorem IsResource.nodeOf?_metadata {own : List (String × SchemaNode)} (h : node.IsResource own) :
    node.nodeOf? "metadata" = some (.typed "object") := by
  obtain ⟨description?, required?, -, rfl⟩ := h.eq
  rw [nodeOf?, declared, Option.getD_some, resourceProperties, findKey?_insertKey, if_pos rfl,
    Option.some_or]

/-- **A resource that may be replaced admits nothing that the later one refuses**, among the values
that it covers. Of a resource itself both say only that it is an object, and what it has to have. -/
theorem MayReplace.admits_resource {own own' : List (String × SchemaNode)}
    (h : MayReplace true old new) (hold : old.IsResource own) (hnew : new.IsResource own')
    (hcovers : old.CoversResource v) (hv : old.Admits false v) : new.Admits false v := by
  have hgenerated := hold.generated
  have hgenerated' := hnew.generated
  have hmetadata := hold.nodeOf?_metadata
  have hmetadata' := hnew.nodeOf?_metadata
  have hother : new.otherNode? = none ∧ new.items? = none := by
    obtain ⟨description?, required?, -, rfl⟩ := hnew.eq
    exact ⟨rfl, rfl⟩
  have hself : old.propertyType.Within new.propertyType ∧
      old.facets.rules.Relaxes new.facets.rules := by
    obtain ⟨description?, required?, -, rfl⟩ := hold.eq
    obtain ⟨description?', required?', -, rfl⟩ := hnew.eq
    exact ⟨.refl _, by constructor <;> exact nofun⟩
  refine h.admits_of_inner hgenerated hgenerated' hself.1 hself.2
    (fun q hq => by rw [hother.2] at hq; cases hq) (fun members hv' => ?_) hv
  refine h.membersFit hgenerated hgenerated' (fun _ => hother.1) (fun m hm => ?_)
    (fun m hm p q hp hq hreplace => ?_) ((hgenerated.admits_iff.mp hv).members members hv')
  · by_cases hkey : m.1 = "metadata"
    · exact .inl (by rw [hkey, hmetadata]; rfl)
    · exact (hcovers members hv' m hm hkey).1
  · by_cases hkey : m.1 = "metadata"
    · rw [hkey] at hp hq
      obtain rfl := Option.some.inj (hmetadata.symm.trans hp)
      obtain rfl := Option.some.inj (hmetadata'.symm.trans hq)
      exact id
    · exact hreplace.admits (hgenerated.holds (hgenerated.holds_nodeOf? hp))
        (hgenerated'.holds (hgenerated'.holds_nodeOf? hq))
        ((hcovers members hv' m hm hkey).2 p hp)

end SchemaNode

/-! ## Definitions -/

namespace Crd

variable {old new : Crd} {version version' : String} {node node' : SchemaNode}

/-- **What the strict policy accepts** in place of a generated definition has the same version, and
all changes of the schema are safe. -/
theorem IsGenerated.safe_of_accept (hold : old.IsGenerated version node)
    (hnew : new.IsGenerated version' node') {view : CrdView} {analysis : Analysis}
    (hview : CrdView.ofCrd old = .ok view)
    (hanalysis : Analysis.ofCrd (some view) new = .ok analysis)
    (haccept : Policy.strict.decide analysis = .accept) :
    version = version' ∧
      Property.AllChanges PropertyChange.IsSafe true [] node.view node'.view := by
  obtain ⟨name, scope, -, hview'⟩ := hold.view_eq
  obtain ⟨name', scope', -, hviewNew⟩ := hnew.view_eq
  obtain rfl := Except.ok.inj (hview'.symm.trans hview)
  obtain ⟨later, hlater, hanalysis⟩ := Outcome.bind_eq_ok.mp hanalysis
  obtain rfl := Except.ok.inj (hviewNew.symm.trans hlater)
  obtain rfl := Outcome.pure_eq_ok.mp hanalysis
  have hsafe := Policy.safe_of_accept rfl haccept
  obtain ⟨-, -, -, hversion, -⟩ := CrdView.same_of_not_dangerous rfl rfl rfl rfl
    (Policy.not_dangerous_of_accept (by decide) rfl haccept)
  exact ⟨hversion, fun change hc => hsafe _
    (CrdView.mem_changes_of_schema rfl rfl hversion rfl rfl change hc)⟩

/-- The validator of a generated definition admits what its schema admits. -/
theorem IsGenerated.accepts_iff (h : old.IsGenerated version node) {validator : Validator}
    (hvalidator : Validator.ofCrd old = .ok validator) (v : Json) :
    validator.accepts v = true ↔ node.Admits false v := by
  obtain ⟨members, hdocument, hschema, hdialect⟩ :=
    exists_jsonSchema h.versions rfl h.generated false
  obtain ⟨document, hdocument', hofSchema⟩ := Outcome.bind_eq_ok.mp hvalidator
  obtain rfl := Except.ok.inj (hdocument.symm.trans hdocument')
  exact Validator.accepts_iff_admits h.generated hschema hdialect hofSchema

/-- **Resources stay valid where all changes are safe.** If the strict policy accepts a generated
definition in place of another one, and nothing that matters was overlooked at any location of both,
then the validator of the later one accepts every value that the validator of the earlier one
accepts and whose members the earlier one speaks of. -/
theorem accepts_of_safe {options options' : CrdOptions} {schema schema' : Schema}
    (hold : ofSchema options schema = .ok old) (hnew : ofSchema options' schema' = .ok new)
    {view : CrdView} {analysis : Analysis} (hview : CrdView.ofCrd old = .ok view)
    (hanalysis : Analysis.ofCrd (some view) new = .ok analysis)
    (haccept : Policy.strict.decide analysis = .accept) :
    ∃ before after node node', old.versions = [before] ∧ new.versions = [after] ∧
      before.name = after.name ∧ before.schema? = some node ∧ after.schema? = some node' ∧
      ((∀ path p q, node.at? path = some p → node'.at? path = some q → p.ComparesFully q) →
        ∀ earlier later, Validator.ofCrd old = .ok earlier → Validator.ofCrd new = .ok later →
          ∀ v, node.CoversResource v → earlier.accepts v = true → later.accepts v = true) := by
  obtain ⟨version, node, hold⟩ := isGenerated_of_ofSchema hold
  obtain ⟨version', node', hnew⟩ := isGenerated_of_ofSchema hnew
  obtain ⟨hversion, hsafe⟩ := hold.safe_of_accept hnew hview hanalysis haccept
  refine ⟨_, _, node, node', hold.versions, hnew.versions, hversion, rfl, rfl,
    fun hfully earlier later hearlier hlater v hcovers hv => ?_⟩
  obtain ⟨own, hresource⟩ := hold.resource
  obtain ⟨own', hresource'⟩ := hnew.resource
  have hreplace : SchemaNode.MayReplace true node node' := ⟨⟨[], hsafe⟩, hfully⟩
  exact (hnew.accepts_iff hlater v).mpr (hreplace.admits_resource hresource hresource' hcovers
    ((hold.accepts_iff hearlier v).mp hv))

/-- One field of the cache becomes a number and another one is new, and the earlier definition says
nothing that the comparison may overlook. -/
theorem accepts_of_safe_cache :
    ∃ old new, Release.cacheRelease.accepted? none = some old ∧
      Release.widerCacheRelease.accepted? (some old) = some new ∧
      ∃ before node, old.versions = [before] ∧ before.schema? = some node ∧
        ∀ earlier later, Validator.ofCrd old = .ok earlier → Validator.ofCrd new = .ok later →
          ∀ v, node.CoversResource v → earlier.accepts v = true → later.accepts v = true := by
  obtain ⟨new, hnew⟩ := Option.isSome_iff_exists.mp Release.accepted_caches
  obtain ⟨old, hold, hnew⟩ := Option.bind_eq_some_iff.mp hnew
  have hbare : (Release.cacheRelease.accepted? none).all (fun old =>
      old.versions.all fun version =>
        version.schema?.all fun node => node.all SchemaNode.isBare) = true := by decide +kernel
  rw [hold] at hbare
  obtain ⟨schema, -, -, hmade, -⟩ := Release.accepted?_eq_some hold
  obtain ⟨schema', previous?, analysis, hmade', hview, hanalysis, haccept⟩ :=
    Release.accepted?_eq_some hnew
  obtain ⟨view, hviewed, rfl⟩ := Option.map_eq_some_iff.mp
    (show (CrdView.ofCrd old).toOption.map some = some previous? from hview)
  obtain ⟨before, after, node, node', hversions, -, -, hnode, -, hsound⟩ := accepts_of_safe hmade
    hmade' (Outcome.toOption_eq_some.mp hviewed) hanalysis haccept
  refine ⟨old, new, hold, hnew, before, node, hversions, hnode, hsound fun path p q hp _ => ?_⟩
  have hall := List.all_eq_true.mp hbare before (by rw [hversions]; exact List.mem_singleton_self _)
  rw [hnode] at hall
  exact .of_isBare (SchemaNode.all_at? hall hp) q

end Crd
end ChartSchema
