import ChartSchema.Proofs.Crd.MarkerOrder
import ChartSchema.Proofs.JsonSchema.Conformance
/-!
# Fields that may be null

A field that is marked as nullable should admit null in JSON Schema, whatever else is said about
it. Null is let in by the type, by an alternative or by the values that are listed, and all but one
combination of markers let it in everywhere it is asked for: the translation of an integer or text
gives null an alternative of its own and stops there, so where the values of such a field are listed
too, null is none of them. `SchemaNode.Generated.admits_null_iff` says so of every node of a
definition, and `fieldNodes_admit_null` of every field, by its type and its marker lines.

What the markers of a field come to is read off the lists of markers (`Marker.foldl_observe`): what
one marker does to an observation of a node is what a list of them does if some of them do it.
-/

namespace ChartSchema

/-! ## Nodes -/

/-- Facets ask nothing of null. -/
theorem Facets.holds_null (f : Facets) : f.Holds .null := by
  constructor <;> exact nofun

theorem Json.not_equivalent_null {v : Json} (h : v.isScalar = true) :
    Json.equivalent .null v = false := by
  cases v with
  | null | array | object => exact absurd h Bool.false_ne_true
  | bool | number | string => rfl

namespace SchemaNode

variable {node : SchemaNode} {strict : Bool}

/-- **A node that may be null admits null**, unless it is an integer or text whose values are
listed. -/
theorem Generated.admits_null_iff (h : node.Generated) (hnullable : node.IsNullable) :
    node.Admits strict .null ↔ ¬ (node.IsIntOrString ∧ node.facets.enum?.isSome = true) := by
  have hset : node.facets.isNullable = true := isNullable_iff.mpr hnullable
  rw [h.admits_iff]
  constructor
  · rintro hfits ⟨hint, hlisted⟩
    obtain ⟨values, hvalues⟩ := Option.isSome_iff_exists.mp hlisted
    rcases hfits.listed values hvalues with hany | ⟨-, hnone, -⟩
    · obtain ⟨v, hv, hequivalent⟩ := List.any_eq_true.mp hany
      rw [Json.not_equivalent_null (h.proper.scalar values hvalues v hv)] at hequivalent
      exact Bool.false_ne_true hequivalent
    · rcases h.marked_iff with ⟨-, -, hsome⟩ | ⟨hunset, -⟩
      · rw [hsome] at hnone
        cases hnone
      · rw [getD_false_eq_true.mpr hint] at hunset
        exact Bool.false_ne_true hunset.symm
  · intro hunless
    refine ⟨fun _ _ => .inr ⟨hset, rfl⟩, fun values hvalues => .inr ⟨hset, ?_, rfl⟩,
      fun _ => .inr (.inr ⟨hset, rfl⟩),
      (Facets.admits_iff_holds h.proper).mpr (Facets.holds_null _), fun _ _ _ => nofun, fun _ => nofun⟩
    rcases h.marked_iff with ⟨hmarked, -, -⟩ | ⟨-, hnone⟩
    · exact absurd ⟨getD_false_eq_true.mp hmarked, hvalues ▸ rfl⟩ hunless
    · exact hnone

end SchemaNode

/-! ## Markers -/

namespace Marker

variable {node : SchemaNode} {isList : Bool} {markers : List Marker}

/-- Whether a marker lists values. -/
def listsValues : Marker → Bool
  | .enum _ => true
  | _ => false

/-- Whether a marker lets null in. -/
def allowsNull : Marker → Bool
  | .nullable => true
  | _ => false

/-- **What markers do to an observation of a node** is what one of them does, if none replaces the
node. -/
theorem foldl_observe (observe : SchemaNode → Bool) (sets : Marker → Bool)
    (hstep : ∀ marker, marker.replaces = false → ∀ node,
      observe (apply node marker) = (observe node || sets marker))
    (hkept : ∀ marker ∈ markers, marker.replaces = false) (node : SchemaNode) :
    observe (markers.foldl apply node) = (observe node || markers.any sets) := by
  induction markers generalizing node with
  | nil => exact (Bool.or_false _).symm
  | cons marker rest ih =>
    rw [List.foldl_cons, ih (fun m hm => hkept m (List.mem_cons_of_mem _ hm)),
      hstep marker (hkept marker List.mem_cons_self), List.any_cons, Bool.or_assoc]

/-- A marker that lets null in does so, and no other one does. -/
theorem apply_isNullable {marker : Marker} (h : marker.replaces = false) (node : SchemaNode) :
    (apply node marker).facets.isNullable = (node.facets.isNullable || marker.allowsNull) := by
  cases marker
  case intOrString => exact absurd h.symm Bool.false_ne_true
  case nullable => exact (Bool.or_true _).symm
  all_goals exact (Bool.or_false _).symm

/-- A marker that lists values does so, and no other one does. -/
theorem apply_isListed {marker : Marker} (h : marker.replaces = false) (node : SchemaNode) :
    (apply node marker).facets.enum?.isSome = (node.facets.enum?.isSome || marker.listsValues) := by
  cases marker
  case intOrString => exact absurd h.symm Bool.false_ne_true
  case enum => exact (Bool.or_true _).symm
  all_goals exact (Bool.or_false _).symm

/-- Only a marker that replaces the node makes it an integer or a text. -/
theorem apply_isMarked {marker : Marker} (h : marker.replaces = false) (node : SchemaNode) :
    (apply node marker).facets.intOrString?.getD false
      = (node.facets.intOrString?.getD false || marker.replaces) := by
  cases marker
  case intOrString => exact absurd h.symm Bool.false_ne_true
  all_goals exact (Bool.or_false _).symm

/-- A node is an integer or a text if it was, or if a marker makes it one. -/
theorem isMarked_applyToValue (node : SchemaNode) (markers : List Marker) :
    (applyToValue node markers).facets.intOrString?.getD false
      = (node.facets.intOrString?.getD false || markers.any (·.replaces)) := by
  have hnone : ((markers.filter (·.targetsValue)).filter (!·.replaces)).any (·.replaces) = false :=
    List.any_eq_false.mpr fun m hm => Bool.eq_false_iff.mp (replaces_of_mem_filter hm)
  rw [applyToValue_eq_foldl, foldl_observe (·.facets.intOrString?.getD false) (·.replaces)
      (fun m => apply_isMarked) fun m => replaces_of_mem_filter, hnone, Bool.or_false]
  cases markers.any (·.replaces)
  · exact (Bool.or_false _).symm
  · exact (Bool.or_true _).symm

/-- The values of a node that listed none are listed if a marker lists some. -/
theorem isListed_applyToValue (h : node.facets.enum? = none) (markers : List Marker) :
    (applyToValue node markers).facets.enum?.isSome = markers.any (·.listsValues) := by
  have hvalue (m : Marker) :
      (m.targetsValue && (!m.replaces && m.listsValues)) = m.listsValues := by
    cases m <;> rfl
  have hnone : (if markers.any (·.replaces) then SchemaNode.intOrString node.facets.description?
      else node).facets.enum? = none := by
    split
    · rfl
    · exact h
  rw [applyToValue_eq_foldl, foldl_observe (·.facets.enum?.isSome) (·.listsValues)
      (fun m => apply_isListed) fun m => replaces_of_mem_filter, hnone, List.any_filter,
    List.any_filter]
  exact congrArg (List.any markers) (funext hvalue)

theorem isNullable_applyAll (h : .nullable ∈ markers) (isList : Bool) (node : SchemaNode) :
    (applyAll isList node markers).facets.isNullable = true := by
  have hmem : .nullable ∈ markers.filter (!·.targetsValue) := List.mem_filter.mpr ⟨h, rfl⟩
  rw [applyAll, foldl_observe (·.facets.isNullable) (·.allowsNull) (fun m => apply_isNullable)
    fun m => replaces_of_not_targetsValue, List.any_eq_true.mpr ⟨_, hmem, rfl⟩, Bool.or_true]

/-- Markers about a field as a whole do not make it an integer or a text. -/
theorem isMarked_applyAll (isList : Bool) (node : SchemaNode) (markers : List Marker) :
    (applyAll isList node markers).facets.intOrString?.getD false
      = (applyValues isList node markers).facets.intOrString?.getD false := by
  have hnone : (markers.filter (!·.targetsValue)).any (·.replaces) = false :=
    List.any_eq_false.mpr fun m hm => Bool.eq_false_iff.mp (replaces_of_not_targetsValue hm)
  rw [applyAll, foldl_observe (·.facets.intOrString?.getD false) (·.replaces)
    (fun m => apply_isMarked) fun m => replaces_of_not_targetsValue, hnone, Bool.or_false]

theorem isListed_applyAll (isList : Bool) (node : SchemaNode) (markers : List Marker) :
    (applyAll isList node markers).facets.enum?.isSome
      = (applyValues isList node markers).facets.enum?.isSome := by
  have hnone : (markers.filter (!·.targetsValue)).any (·.listsValues) = false := by
    refine List.any_eq_false.mpr fun m hm hlists => ?_
    have hother : m.targetsValue = false := by simpa using (List.mem_filter.mp hm).2
    cases m
    case enum => exact Bool.false_ne_true hother.symm
    all_goals exact Bool.false_ne_true hlists
  rw [applyAll, foldl_observe (·.facets.enum?.isSome) (·.listsValues)
    (fun m => apply_isListed) fun m => replaces_of_not_targetsValue, hnone, Bool.or_false]

/-- Among markers one replaces the node exactly if one says that it is an integer or a text. -/
theorem any_replaces_iff : markers.any (·.replaces) = true ↔ .intOrString ∈ markers := by
  rw [List.any_eq_true]
  refine ⟨fun ⟨m, hm, hreplaces⟩ => ?_, fun h => ⟨_, h, rfl⟩⟩
  cases m
  case intOrString => exact hm
  all_goals exact absurd hreplaces Bool.false_ne_true

/-- Among markers one lists values exactly if one is an enumeration. -/
theorem any_listsValues_iff :
    markers.any (·.listsValues) = true ↔ ∃ values, .enum values ∈ markers := by
  rw [List.any_eq_true]
  refine ⟨fun ⟨m, hm, hlists⟩ => ?_, fun ⟨values, h⟩ => ⟨_, h, rfl⟩⟩
  cases m
  case enum values => exact ⟨values, hm⟩
  all_goals exact absurd hlists Bool.false_ne_true

/-- **A field that is marked as nullable admits null**, unless it is an integer or text, by its type
or by a marker, and a marker lists its values. For a list these markers are about the items, so a
list always admits null. -/
theorem applyLines_admits_null {path : String} {raw : List String} {own : SchemaNode}
    {required : Bool} (h : node.Generated) (hlists : node.facets.enum? = none)
    (hitems : isList = true → node.items?.isSome = true)
    (happly : applyLines isList path raw node = .ok (own, required))
    (hnullable : .nullable ∈ raw.filterMap ofLine?) (strict : Bool) :
    own.Admits strict .null ↔ isList = true ∨
      ¬ ((node.IsIntOrString ∨ .intOrString ∈ raw.filterMap ofLine?) ∧
        ∃ values, .enum values ∈ raw.filterMap ofLine?) := by
  have hown := applyLines_generated h happly
  rw [applyLines_eq] at happly
  obtain ⟨markers, hmarkers, happly⟩ := Outcome.bind_eq_ok.mp happly
  obtain ⟨rfl, -⟩ := Prod.mk.inj (Outcome.pure_eq_ok.mp happly)
  rw [← eq_filterMap_of_parseAll hmarkers] at hnullable ⊢
  rw [hown.admits_null_iff (SchemaNode.isNullable_iff.mp (isNullable_applyAll hnullable _ _)),
    SchemaNode.IsIntOrString, ← SchemaNode.getD_false_eq_true, isMarked_applyAll, isListed_applyAll]
  cases isList with
  | true =>
    refine iff_of_true (fun hboth => ?_) (.inl rfl)
    obtain ⟨items, hsome⟩ := Option.isSome_iff_exists.mp (hitems rfl)
    have hlisted : (applyValues true node markers).facets.enum? = none := by
      unfold applyValues
      rw [hsome]
      exact hlists
    rw [hlisted] at hboth
    exact Bool.false_ne_true hboth.2
  | false =>
    rw [applyValues, isMarked_applyToValue, isListed_applyToValue hlists, Bool.or_eq_true,
      SchemaNode.getD_false_eq_true, any_replaces_iff, any_listsValues_iff]
    exact (or_iff_right Bool.false_ne_true).symm

end Marker

/-! ## Fields -/

section Types

variable {expand : String → String → Except CrdError SchemaNode} {isStruct : String → Bool}

/-- The node of a type that is known by its name lists no values. -/
theorem namedNode?_enum {name : String} {node : SchemaNode} (h : namedNode? name = some node) :
    node.facets.enum? = none := by
  unfold namedNode? at h
  dsimp only at h
  split_ifs at h <;> obtain rfl := Option.some.inj h <;> rfl

theorem TypeRef.node_enum
    (hexpand : ∀ name path node, expand name path = .ok node → node.facets.enum? = none)
    (type : TypeRef) {path : String} {node : SchemaNode}
    (h : TypeRef.node expand isStruct path type = .ok node) : node.facets.enum? = none := by
  cases type with
  | integer | float | string | boolean =>
    obtain rfl := Except.ok.inj h
    rfl
  | struct name => exact hexpand _ _ _ h
  | map value | list element =>
    obtain ⟨inner, -, h⟩ := Outcome.bind_eq_ok.mp h
    obtain rfl := Outcome.pure_eq_ok.mp h
    rfl
  | named name =>
    unfold TypeRef.node at h
    split at h
    · exact hexpand _ _ _ h
    · split at h
      · next hname =>
        obtain rfl := Except.ok.inj h
        exact namedNode?_enum hname
      · cases h
  | unknown => cases h

/-- The node of a field's type lists no values, if those of structs list none, and has items if the
field is a list. -/
theorem FieldType.node_bare
    (hexpand : ∀ name path node, expand name path = .ok node → node.facets.enum? = none)
    (type : FieldType) {path : String} {node : SchemaNode}
    (h : FieldType.node expand isStruct path type = .ok node) :
    node.facets.enum? = none ∧ (type.isList = true → node.items?.isSome = true) := by
  cases type with
  | single type => exact ⟨TypeRef.node_enum hexpand type h, fun h => absurd h Bool.false_ne_true⟩
  | list element =>
    obtain ⟨inner, -, h⟩ := Outcome.bind_eq_ok.mp h
    obtain rfl := Outcome.pure_eq_ok.mp h
    exact ⟨rfl, fun _ => rfl⟩

end Types

theorem structNode_enum {schema : Schema} {fuel : Nat} {visiting : List String} {s : Struct}
    {node : SchemaNode} (h : structNode schema fuel visiting s = .ok node) :
    node.facets.enum? = none := by
  cases fuel with
  | zero => cases h
  | succ fuel =>
    rcases structNode_eq_ok h with ⟨-, rfl⟩ | ⟨nodes, required, -, -, rfl⟩ <;> rfl

/-- Each field has a property, which comes from the node of its type and from its markers. -/
theorem exists_of_fieldNodes {node : Field → Except CrdError SchemaNode} {fields : List Field}
    {nodes : List (String × SchemaNode)} {required : List String}
    (h : fieldNodes node fields = .ok (nodes, required)) {f : Field} (hf : f ∈ fields) :
    ∃ bare own needed, node f = .ok bare ∧ (f.sourceKey, own) ∈ nodes ∧
      Marker.applyLines f.type.isList f.sourcePath f.markers (bare.describe f.documentation)
        = .ok (own, needed) := by
  induction fields generalizing nodes required with
  | nil => exact absurd hf List.not_mem_nil
  | cons field rest ih =>
    obtain ⟨bare, hbare, h⟩ := Outcome.bind_eq_ok.mp h
    obtain ⟨⟨own, needed⟩, hown, h⟩ := Outcome.bind_eq_ok.mp h
    obtain ⟨⟨others, keys⟩, hothers, h⟩ := Outcome.bind_eq_ok.mp h
    obtain ⟨rfl, -⟩ := Prod.mk.inj (Outcome.pure_eq_ok.mp h)
    rcases List.mem_cons.mp hf with rfl | hf
    · exact ⟨bare, own, needed, hbare, List.mem_cons_self, hown⟩
    · obtain ⟨bare, own, needed, hbare, hmem, hown⟩ := ih hothers hf
      exact ⟨bare, own, needed, hbare, List.mem_cons_of_mem _ hmem, hown⟩

theorem SchemaNode.describe_kept (node : SchemaNode) (documentation : List String) :
    (node.describe documentation).facets.enum? = node.facets.enum? ∧
      (node.describe documentation).facets.intOrString? = node.facets.intOrString? ∧
        (node.describe documentation).items? = node.items? := by
  unfold SchemaNode.describe
  split <;> exact ⟨rfl, rfl, rfl⟩

/-- **Every field that is marked as nullable admits null**, strictly or not, with one exception: it
is no list, it is an integer or text by its type or by a marker, and a marker lists its values. -/
theorem fieldNodes_admit_null {schema : Schema} {fuel : Nat} {visiting : List String}
    {isStruct : String → Bool} {fields : List Field} {nodes : List (String × SchemaNode)}
    {required : List String}
    (h : fieldNodes (fun f => FieldType.node (schema.expand fuel visiting) isStruct f.sourcePath
      f.type) fields = .ok (nodes, required)) {f : Field} (hf : f ∈ fields)
    (hnullable : .nullable ∈ f.markers.filterMap Marker.ofLine?) :
    ∃ bare own,
      FieldType.node (schema.expand fuel visiting) isStruct f.sourcePath f.type = .ok bare ∧
      (f.sourceKey, own) ∈ nodes ∧ ∀ strict, own.Admits strict .null ↔ f.type.isList = true ∨
        ¬ ((bare.IsIntOrString ∨ .intOrString ∈ f.markers.filterMap Marker.ofLine?) ∧
          ∃ values, .enum values ∈ f.markers.filterMap Marker.ofLine?) := by
  obtain ⟨bare, own, needed, hbare, hmem, hown⟩ := exists_of_fieldNodes h hf
  have hstruct {P : SchemaNode → Prop}
      (hnode : ∀ s node, structNode schema fuel visiting s = .ok node → P node)
      (name path : String) (node : SchemaNode)
      (h : schema.expand fuel visiting name path = .ok node) : P node := by
    unfold Schema.expand at h
    split at h
    · exact hnode _ _ h
    · cases h
  have hgenerated := FieldType.node_generated (hstruct fun _ _ => structNode_generated) f.type hbare
  obtain ⟨henum, hitems⟩ := FieldType.node_bare (hstruct fun _ _ => structNode_enum) f.type hbare
  obtain ⟨henum', hint, hitems'⟩ := bare.describe_kept f.documentation
  refine ⟨bare, own, hbare, hmem, fun strict => ?_⟩
  rw [Marker.applyLines_admits_null (hgenerated.describe _) (henum'.trans henum)
    (fun hlist => by rw [hitems']; exact hitems hlist) hown hnullable, SchemaNode.IsIntOrString,
    SchemaNode.IsIntOrString, hint]

/-! ## Definitions -/

/-- **Everything in a definition that may be null admits null**, strictly or not, with the one
exception of integers and texts whose values are listed. -/
theorem Crd.admits_null_iff {options : CrdOptions} {schema : Schema} {crd : Crd}
    (h : Crd.ofSchema options schema = .ok crd) {version : CrdVersion}
    (hversion : version ∈ crd.versions) {node inner : SchemaNode}
    (hnode : version.schema? = some node) {path : SchemaPath} (hat : node.at? path = some inner)
    (hnullable : inner.IsNullable) (strict : Bool) :
    inner.Admits strict .null ↔ ¬ (inner.IsIntOrString ∧ inner.facets.enum?.isSome = true) := by
  obtain ⟨name, root, hgenerated⟩ := Crd.isGenerated_of_ofSchema h
  rw [hgenerated.versions] at hversion
  obtain rfl := List.mem_singleton.mp hversion
  obtain rfl := Option.some.inj hnode
  exact (hgenerated.generated.of_at? hat).admits_null_iff hnullable

end ChartSchema
