import ChartSchema.Crd.Generate
import ChartSchema.Proofs.Json.Same
import ChartSchema.Proofs.Outcome
/-!
# The nodes of generated definitions

A node of a schema may have any keywords, but the nodes that are made from the types of fields
come in few forms: scalars, lists, maps, structs, free content, and integers or texts. Markers
change what is said about the value at hand and otherwise only one thing: they may turn a node
into an integer or a text, which replaces all that was said. `SchemaNode.Generated` lists these
forms, and `SchemaNode.IsResource.generated` says that a definition has no other nodes.

What markers say is well formed as well (`Facets.Proper`): bounds are finite, counts are natural
numbers, the values listed are scalars, and a default is the same as itself. This comes from
reading the markers, so it is proved there and only carried along here.
-/

namespace ChartSchema

/-! ## What markers say -/

/-- Whether a value is a scalar other than null, as the values of an enumeration are. -/
def Json.isScalar : Json → Bool
  | .bool _ | .number _ | .string _ => true
  | _ => false

/-- **A count is a natural number** that fits a signed 64-bit word. -/
def IsCount (n : Int) : Prop := 0 ≤ n ∧ n < Nat.pow 2 63

/-- **The argument of a marker is well formed**: numbers are finite, counts are natural, listed
values are scalars, and a default is the same as itself. -/
def Marker.Proper : Marker → Prop
  | .minimum x | .maximum x | .multipleOf x => x.isFinite = true
  | .minLength n | .maxLength n | .minItems n | .maxItems n | .minProperties n
  | .maxProperties n => IsCount n
  | .enum values => ∀ v ∈ values, v.isScalar = true
  | .default v => v.same v = true
  | _ => True

namespace Marker

theorem number_isFinite {argument : String} {x : Binary64} (h : number argument = .ok x) :
    x.isFinite = true := by
  unfold number at h
  split at h
  · split at h
    · next hfinite => exact Except.ok.inj h ▸ hfinite
    · exact nomatch h
  · exact nomatch h

theorem count_isCount {argument : String} {n : Int} (h : count argument = .ok n) : IsCount n := by
  unfold count at h
  dsimp only at h
  split at h
  · split at h
    · next hword => exact Except.ok.inj h ▸ ⟨Int.natCast_nonneg _, Int.ofNat_lt.mpr hword.1⟩
    · cases h
  · cases h

theorem enumValue_isScalar (text : String) : (enumValue text).isScalar = true := by
  unfold enumValue
  split <;> rfl

/-- A marker with an argument comes from reading the argument. -/
theorem withArgument_eq_ok {α : Type} {read : String → Except MarkerFault α} {make : α → Marker}
    {argument? : Option String} {marker : Marker}
    (h : (do return some (make (← read (← needed argument?)))) = Except.ok (some marker)) :
    ∃ argument x, read argument = .ok x ∧ marker = make x := by
  obtain ⟨argument, -, h⟩ := Outcome.bind_eq_ok.mp h
  obtain ⟨x, hread, h⟩ := Outcome.bind_eq_ok.mp h
  exact ⟨argument, x, hread, (Option.some.inj (Outcome.pure_eq_ok.mp h)).symm⟩

/-- **A marker that is read is well formed.** Arguments are checked where they are read, so that the
facets that markers set hold finite numbers and counts. -/
theorem ofName_proper {name : String} {argument? : Option String} {marker : Marker}
    (h : ofName name argument? = .ok (some marker)) : marker.Proper := by
  unfold ofName at h
  dsimp only at h
  split at h
  -- A number behind the name, a count, values, or a default; nothing is asked of other arguments.
  case h_1 | h_2 | h_3 =>
    obtain ⟨argument, x, hread, rfl⟩ := withArgument_eq_ok h
    exact number_isFinite hread
  case h_6 | h_7 | h_8 | h_9 | h_10 | h_11 =>
    obtain ⟨argument, n, hread, rfl⟩ := withArgument_eq_ok h
    exact count_isCount hread
  case h_15 =>
    obtain ⟨argument, -, h⟩ := Outcome.bind_eq_ok.mp h
    obtain rfl := Option.some.inj (Outcome.pure_eq_ok.mp h)
    intro v hv
    obtain ⟨piece, -, rfl⟩ := List.mem_map.mp hv
    exact enumValue_isScalar _
  case h_4 | h_5 | h_12 =>
    obtain ⟨b, -, h⟩ := Outcome.bind_eq_ok.mp h
    obtain rfl := Option.some.inj (Outcome.pure_eq_ok.mp h)
    trivial
  case h_13 | h_14 | h_21 =>
    obtain ⟨argument, -, h⟩ := Outcome.bind_eq_ok.mp h
    obtain rfl := Option.some.inj (Outcome.pure_eq_ok.mp h)
    trivial
  case h_17 =>
    obtain ⟨argument, -, h⟩ := Outcome.bind_eq_ok.mp h
    split at h
    · next hdefault =>
      obtain rfl := Option.some.inj (Outcome.pure_eq_ok.mp h)
      exact (Yaml.proper_of_parseJson? hdefault).same_self
    · exact nomatch h
  case h_20 =>
    obtain ⟨argument, -, h⟩ := Outcome.bind_eq_ok.mp h
    split at h
    · obtain rfl := Option.some.inj (Outcome.pure_eq_ok.mp h)
      trivial
    · exact nomatch h
  case h_16 | h_18 | h_19 | h_22 | h_23 =>
    obtain rfl := Option.some.inj (Outcome.pure_eq_ok.mp h)
    trivial
  case h_24 => exact nomatch Outcome.pure_eq_ok.mp h

theorem parse_proper {raw : String} {marker : Marker} (h : parse raw = .ok (some marker)) :
    marker.Proper := by
  unfold parse at h
  split at h
  · exact ofName_proper h
  · exact nomatch h

/-- **The markers of a field are well formed.** -/
theorem parseAll_proper {isList : Bool} {path : String} {raw : List String}
    {markers : List Marker} (h : parseAll isList path raw = .ok markers) :
    ∀ marker ∈ markers, marker.Proper := by
  induction raw generalizing markers with
  | nil =>
    obtain rfl := Except.ok.inj h
    exact fun _ hmem => absurd hmem List.not_mem_nil
  | cons line rest ih =>
    unfold parseAll at h
    dsimp only at h
    split at h
    · next marker? hparse =>
      obtain ⟨marker?', hmarker, h⟩ := Outcome.bind_eq_ok.mp h
      obtain rfl := Except.ok.inj hmarker
      cases marker? with
      | none => exact ih h
      | some marker =>
        dsimp only at h
        split at h
        · exact nomatch h
        · obtain ⟨others, hrest, h⟩ := Outcome.bind_eq_ok.mp h
          obtain rfl := Outcome.pure_eq_ok.mp h
          intro m hm
          rcases List.mem_cons.mp hm with rfl | hm
          · exact parse_proper hparse
          · exact ih hrest m hm
    · exact nomatch h

end Marker

/-! ## Facets -/

namespace Facets

/-- The counts among the facets. -/
def counts (f : Facets) : List (Option Int) :=
  [f.minLength?, f.maxLength?, f.minItems?, f.maxItems?, f.minProperties?, f.maxProperties?]

/-- The numbers among the facets. -/
def numbers (f : Facets) : List (Option Binary64) := [f.minimum?, f.maximum?, f.multipleOf?]

/-- **What is said about a value is well formed**: numbers are finite, counts are natural, listed
values are scalars, and a default is the same as itself. -/
structure Proper (f : Facets) : Prop where
  /-- Bounds are finite. -/
  finite : ∀ x, some x ∈ f.numbers → x.isFinite = true
  /-- Counts are natural. -/
  natural : ∀ n, some n ∈ f.counts → IsCount n
  /-- Listed values are scalars. -/
  scalar : ∀ values, f.enum? = some values → ∀ v ∈ values, v.isScalar = true
  /-- A default is the same as itself. -/
  default : ∀ v, f.default? = some v → v.same v = true

/-- **Nothing is said that belongs to one form of nodes only**: which members have to be there,
and that the value is an integer or a text. -/
structure Plain (f : Facets) : Prop where
  /-- No members have to be there. -/
  required : f.required? = none
  /-- The value is not marked as an integer or a text. -/
  intOrString : f.intOrString? = none

/-- Where no numbers and no values are, nothing can be ill formed. -/
theorem Proper.of_none {f : Facets} (hnumbers : f.numbers = [none, none, none])
    (hcounts : f.counts = [none, none, none, none, none, none]) (henum : f.enum? = none)
    (hdefault : f.default? = none) : f.Proper := by
  refine ⟨fun x hx => ?_, fun n hn => ?_, fun values hvalues => ?_, fun v hv => ?_⟩
  · rw [hnumbers] at hx
    simp only [List.mem_cons, reduceCtorEq, List.not_mem_nil, or_self] at hx
  · rw [hcounts] at hn
    simp only [List.mem_cons, reduceCtorEq, List.not_mem_nil, or_self] at hn
  · rw [henum] at hvalues
    cases hvalues
  · rw [hdefault] at hv
    cases hv

end Facets

namespace Marker

/-- **A marker keeps what is said well formed.** -/
theorem onFacets_proper {f : Facets} (hf : f.Proper) {marker : Marker} (hm : marker.Proper) :
    (onFacets f marker).Proper := by
  obtain ⟨hfinite, hnatural, hscalar, hdefault⟩ := hf
  cases marker
  case minimum x | maximum x | multipleOf x =>
    refine ⟨fun y hy => ?_, hnatural, hscalar, hdefault⟩
    simp only [onFacets, Facets.numbers, List.mem_cons, List.not_mem_nil, or_false,
      Option.some.injEq] at hy hfinite
    grind [Marker.Proper]
  case minLength n | maxLength n | minItems n | maxItems n | minProperties n | maxProperties n =>
    refine ⟨hfinite, fun k hk => ?_, hscalar, hdefault⟩
    simp only [onFacets, Facets.counts, List.mem_cons, List.not_mem_nil, or_false,
      Option.some.injEq] at hk hnatural
    grind [Marker.Proper]
  case enum values =>
    exact ⟨hfinite, hnatural, fun others hothers => Option.some.inj hothers ▸ hm, hdefault⟩
  case default v =>
    exact ⟨hfinite, hnatural, hscalar, fun w hw => Option.some.inj hw ▸ hm⟩
  all_goals exact ⟨hfinite, hnatural, hscalar, hdefault⟩

/-- What belongs to one form of nodes only is kept by markers. -/
theorem onFacets_kept (f : Facets) (marker : Marker) :
    (onFacets f marker).required? = f.required? ∧
      (onFacets f marker).intOrString? = f.intOrString? := by
  cases marker <;> exact ⟨rfl, rfl⟩

/-- Members that the schema does not know are still kept behind a marker. -/
theorem onFacets_preserveUnknown {f : Facets} (hf : f.preserveUnknown? = some true)
    (marker : Marker) : (onFacets f marker).preserveUnknown? = some true := by
  cases marker <;> first | exact hf | rfl

end Marker

/-! ## Forms of nodes -/

namespace SchemaNode

/-- **The forms of the nodes in a generated definition**, with what is said about their values. -/
inductive Generated : SchemaNode → Prop
  /-- A scalar. -/
  | scalar {type : String} {f : Facets} :
    type ∈ ["integer", "number", "string", "boolean"] → f.Proper → f.Plain →
      Generated { type? := some type, facets := f }
  /-- Free content of any type. -/
  | anything {f : Facets} :
    f.preserveUnknown? = some true → f.Proper → f.Plain → Generated { facets := f }
  /-- An object of which nothing more is said. -/
  | object {f : Facets} :
    f.Proper → f.Plain → Generated { type? := some "object", facets := f }
  /-- An integer or a text. -/
  | intOrString {f : Facets} :
    f.intOrString? = some true → f.required? = none → f.Proper →
      Generated { facets := f, anyOf? := some [typed "integer", typed "string"] }
  /-- A list. -/
  | list {items : SchemaNode} {f : Facets} :
    Generated items → f.Proper → f.Plain →
      Generated { type? := some "array", facets := f, items? := some items }
  /-- A map from strings. -/
  | map {value : SchemaNode} {f : Facets} :
    Generated value → f.Proper → f.Plain →
      Generated { type? := some "object", facets := f, additional? := some (.value value) }
  /-- A struct. What has to be there is declared. -/
  | struct {properties : List (String × SchemaNode)} {f : Facets} :
    (∀ key node, (key, node) ∈ properties → Generated node) → InKeyOrder properties →
      (∀ key ∈ f.required?.getD [], hasKey key properties = true) → f.Proper →
      f.intOrString? = none →
      Generated { type? := some "object", facets := f, properties? := some properties }

variable {node : SchemaNode}

theorem Generated.others_eq (h : node.Generated) : node.others = [] := by
  cases h <;> rfl

theorem Generated.proper (h : node.Generated) : node.facets.Proper := by
  cases h <;> assumption

/-- **The form of a node does not depend on its other facets**: those may be others, as long as
they are well formed. -/
theorem Generated.withFacets {f : Facets} (h : node.Generated) (hf : f.Proper)
    (hrequired : f.required? = node.facets.required?)
    (hint : f.intOrString? = node.facets.intOrString?)
    (hpreserve : node.facets.preserveUnknown? = some true → f.preserveUnknown? = some true) :
    { node with facets := f }.Generated := by
  have hplain (hp : node.facets.Plain) : f.Plain :=
    ⟨hrequired.trans hp.required, hint.trans hp.intOrString⟩
  cases h with
  | scalar htype _ hp => exact .scalar htype hf (hplain hp)
  | anything hpreserved _ hp => exact .anything (hpreserve hpreserved) hf (hplain hp)
  | object _ hp => exact .object hf (hplain hp)
  | intOrString hset hnone _ => exact .intOrString (hint.trans hset) (hrequired.trans hnone) hf
  | list hitems _ hp => exact .list hitems hf (hplain hp)
  | map hvalue _ hp => exact .map hvalue hf (hplain hp)
  | struct hproperties horder hkeys _ hnone =>
    exact .struct hproperties horder (by rw [hrequired]; exact hkeys) hf (hint.trans hnone)

/-- The properties of a generated node are generated nodes in key order, and what has to be there
is among them. -/
theorem Generated.of_properties {properties : List (String × SchemaNode)} (h : node.Generated)
    (hproperties : node.properties? = some properties) :
    (∀ key inner, (key, inner) ∈ properties → inner.Generated) ∧ InKeyOrder properties ∧
      ∀ key ∈ node.facets.required?.getD [], hasKey key properties = true := by
  cases h with
  | struct hgenerated horder hkeys =>
    obtain rfl := Option.some.inj hproperties
    exact ⟨hgenerated, horder, hkeys⟩
  | scalar | anything | object | intOrString | list | map => exact nomatch hproperties

theorem Generated.describe (h : node.Generated) (documentation : List String) :
    (node.describe documentation).Generated := by
  unfold SchemaNode.describe
  split
  · exact h
  · exact h.withFacets ⟨h.proper.finite, h.proper.natural, h.proper.scalar, h.proper.default⟩ rfl rfl id

end SchemaNode

namespace Marker

variable {node : SchemaNode}

/-- **A marker turns a generated node into a generated node.** All but one set a rule and leave the
rest; the one for an integer or a text puts a fresh node in the place. -/
theorem apply_generated (h : node.Generated) {marker : Marker} (hm : marker.Proper) :
    (apply node marker).Generated := by
  have hkept (hne : apply node marker = { node with facets := onFacets node.facets marker }) :
      (apply node marker).Generated := by
    rw [hne]
    obtain ⟨hrequired, hint⟩ := onFacets_kept node.facets marker
    exact h.withFacets (onFacets_proper h.proper hm) hrequired hint
      fun hpreserve => onFacets_preserveUnknown hpreserve marker
  cases marker
  case intOrString => exact .intOrString rfl rfl (.of_none rfl rfl rfl rfl)
  all_goals exact hkept rfl

/-- Markers turn a generated node into a generated node. -/
theorem foldl_apply_generated (h : node.Generated) {markers : List Marker}
    (hm : ∀ marker ∈ markers, marker.Proper) : (markers.foldl apply node).Generated := by
  induction markers generalizing node with
  | nil => exact h
  | cons marker rest ih =>
    exact ih (apply_generated h (hm _ List.mem_cons_self))
      fun m hmem => hm m (List.mem_cons_of_mem _ hmem)

/-- The markers about values turn a generated node into a generated node. -/
theorem applyToValue_generated (h : node.Generated) {markers : List Marker}
    (hm : ∀ marker ∈ markers, marker.Proper) : (applyToValue node markers).Generated := by
  refine foldl_apply_generated h fun marker hmem => ?_
  rcases List.mem_append.mp hmem with hmem | hmem <;>
    exact hm marker (List.mem_of_mem_filter (List.mem_of_mem_filter hmem))

theorem applyValues_generated (h : node.Generated) (isList : Bool) {markers : List Marker}
    (hm : ∀ marker ∈ markers, marker.Proper) :
    (applyValues isList node markers).Generated := by
  unfold applyValues
  split
  · next items hitems =>
    cases h with
    | list h hproper hplain =>
      obtain rfl := Option.some.inj hitems
      exact .list (applyToValue_generated h hm) hproper hplain
    | scalar | anything | object | intOrString | map | struct => exact nomatch hitems
  · -- No keyword is carried along, so none is set aside for the items.
    have hothers := h.others_eq
    have heq : { node with others := eraseKey "items" node.others } = node := by
      cases h <;> rfl
    rw [heq, hothers]
    have hnew := applyToValue_generated h hm
    generalize applyToValue node markers = new at hnew
    cases new
    exact hnew
  · exact applyToValue_generated h hm

/-- **The markers of a field turn its node into a generated node.** They are applied one after the
other, those about values to the items of a list. -/
theorem applyLines_generated (h : node.Generated) {isList : Bool} {path : String}
    {raw : List String} {own : SchemaNode} {required : Bool}
    (happly : applyLines isList path raw node = .ok (own, required)) : own.Generated := by
  rw [applyLines_eq] at happly
  obtain ⟨markers, hmarkers, happly⟩ := Outcome.bind_eq_ok.mp happly
  obtain ⟨rfl, -⟩ := Prod.mk.inj (Outcome.pure_eq_ok.mp happly)
  have hm := parseAll_proper hmarkers
  exact foldl_apply_generated (applyValues_generated h isList hm)
    fun marker hmem => hm marker (List.mem_of_mem_filter hmem)

end Marker

/-! ## Generated definitions -/

section Types

variable {expand : String → String → Except CrdError SchemaNode} {isStruct : String → Bool}

/-- The node of a type that is known by its name is a generated node. -/
theorem namedNode?_generated {name : String} {node : SchemaNode}
    (h : namedNode? name = some node) : node.Generated := by
  unfold namedNode? at h
  dsimp only at h
  split_ifs at h <;> obtain rfl := Option.some.inj h
  · exact .intOrString rfl rfl (.of_none rfl rfl rfl rfl)
  · exact .scalar (by simp) (.of_none rfl rfl rfl rfl) ⟨rfl, rfl⟩
  · exact .scalar (by simp) (.of_none rfl rfl rfl rfl) ⟨rfl, rfl⟩
  · exact .anything rfl (.of_none rfl rfl rfl rfl) ⟨rfl, rfl⟩
  · exact .object (.of_none rfl rfl rfl rfl) ⟨rfl, rfl⟩

mutual

/-- The node of a type is a generated node, if those of structs are. -/
theorem TypeRef.node_generated
    (hexpand : ∀ name path node, expand name path = .ok node → node.Generated) (type : TypeRef)
    {path : String} {node : SchemaNode}
    (h : TypeRef.node expand isStruct path type = .ok node) : node.Generated := by
  match type with
  | .integer | .float | .string | .boolean =>
    obtain rfl := Except.ok.inj h
    exact .scalar (by simp) (.of_none rfl rfl rfl rfl) ⟨rfl, rfl⟩
  | .struct name => exact hexpand _ _ _ h
  | .map value =>
    obtain ⟨inner, hvalue, h⟩ := Outcome.bind_eq_ok.mp h
    obtain rfl := Outcome.pure_eq_ok.mp h
    exact .map (FieldType.node_generated hexpand value hvalue) (.of_none rfl rfl rfl rfl) ⟨rfl, rfl⟩
  | .list element =>
    obtain ⟨inner, helement, h⟩ := Outcome.bind_eq_ok.mp h
    obtain rfl := Outcome.pure_eq_ok.mp h
    exact .list (TypeRef.node_generated hexpand element helement) (.of_none rfl rfl rfl rfl)
      ⟨rfl, rfl⟩
  | .named name =>
    unfold TypeRef.node at h
    split at h
    · exact hexpand _ _ _ h
    · split at h
      · next hname =>
        obtain rfl := Except.ok.inj h
        exact namedNode?_generated hname
      · exact nomatch h
  | .unknown => exact nomatch h
termination_by structural type

theorem FieldType.node_generated
    (hexpand : ∀ name path node, expand name path = .ok node → node.Generated)
    (type : FieldType) {path : String} {node : SchemaNode}
    (h : FieldType.node expand isStruct path type = .ok node) : node.Generated := by
  match type with
  | .single type => exact TypeRef.node_generated hexpand type h
  | .list element =>
    obtain ⟨inner, helement, h⟩ := Outcome.bind_eq_ok.mp h
    obtain rfl := Outcome.pure_eq_ok.mp h
    exact .list (TypeRef.node_generated hexpand element helement) (.of_none rfl rfl rfl rfl)
      ⟨rfl, rfl⟩
termination_by structural type

end

end Types

/-- **The properties of fields are generated nodes**, and those that are required are among
them. -/
theorem fieldNodes_generated {node : Field → Except CrdError SchemaNode}
    (hnode : ∀ field n, node field = .ok n → n.Generated) {fields : List Field}
    {nodes : List (String × SchemaNode)} {required : List String}
    (h : fieldNodes node fields = .ok (nodes, required)) :
    (∀ key n, (key, n) ∈ nodes → n.Generated) ∧ ∀ key ∈ required, key ∈ nodes.map (·.1) := by
  induction fields generalizing nodes required with
  | nil =>
    obtain ⟨rfl, rfl⟩ := Prod.mk.inj (Except.ok.inj h)
    exact ⟨fun _ _ hmem => absurd hmem List.not_mem_nil, fun _ hmem => absurd hmem List.not_mem_nil⟩
  | cons field rest ih =>
    obtain ⟨bare, hbare, h⟩ := Outcome.bind_eq_ok.mp h
    obtain ⟨⟨own, isRequired⟩, hown, h⟩ := Outcome.bind_eq_ok.mp h
    obtain ⟨⟨others, keys⟩, hothers, h⟩ := Outcome.bind_eq_ok.mp h
    obtain ⟨rfl, rfl⟩ := Prod.mk.inj (Outcome.pure_eq_ok.mp h)
    obtain ⟨hgenerated, hkeys⟩ := ih hothers
    refine ⟨fun key n hmem => ?_, fun key hmem => ?_⟩
    · rcases List.mem_cons.mp hmem with hfirst | hmem
      · obtain ⟨-, rfl⟩ := Prod.mk.inj hfirst
        exact Marker.applyLines_generated ((hnode _ _ hbare).describe _) hown
      · exact hgenerated key n hmem
    · rw [List.map_cons, List.mem_cons]
      split at hmem
      · exact (List.mem_cons.mp hmem).imp_right (hkeys key)
      · exact Or.inr (hkeys key hmem)

/-- The node of a struct by its name, below the structs of these names. -/
def Schema.expand (schema : Schema) (fuel : Nat) (visiting : List String) (name path : String) :
    Except CrdError SchemaNode :=
  match schema.struct? name with
  | some inner => structNode schema fuel visiting inner
  | none => .error (.unresolvedType name path)

/-- What the node of a struct consists of: free content if it has no fields, and otherwise the
nodes of its fields. -/
theorem structNode_eq_ok {schema : Schema} {fuel : Nat} {visiting : List String}
    {s : Struct} {node : SchemaNode} (h : structNode schema (fuel + 1) visiting s = .ok node) :
    (s.fields = [] ∧ node = .preserving (some "object")) ∨
      ∃ nodes required, s.fields ≠ [] ∧
        fieldNodes (fun f => FieldType.node (schema.expand fuel (s.name :: visiting))
          (fun name => (schema.struct? name).isSome) f.sourcePath f.type) s.fields
          = .ok (nodes, required) ∧
        node = { type? := some "object", properties? := some (sortKeys nodes),
                 facets := { required? := nonEmpty? required } } := by
  unfold structNode at h
  split at h
  · exact nomatch h
  · split at h
    · next hempty =>
      exact Or.inl ⟨List.isEmpty_iff.mp hempty, (Except.ok.inj h).symm⟩
    · next hfull =>
      obtain ⟨⟨nodes, required⟩, hfields, h⟩ := Outcome.bind_eq_ok.mp h
      exact Or.inr ⟨nodes, required, fun hempty => hfull (List.isEmpty_iff.mpr hempty), hfields,
        (Outcome.pure_eq_ok.mp h).symm⟩

/-- **The node of a struct is a generated node.** The induction is on the fuel: whatever the fields
refer to is generated one level further down. -/
theorem structNode_generated {schema : Schema} {fuel : Nat} {visiting : List String}
    {s : Struct} {node : SchemaNode} (h : structNode schema fuel visiting s = .ok node) :
    node.Generated := by
  induction fuel generalizing visiting s node with
  | zero => exact nomatch h
  | succ fuel ih =>
    rcases structNode_eq_ok h with ⟨-, rfl⟩ | ⟨nodes, required, -, hfields, rfl⟩
    · exact .object (.of_none rfl rfl rfl rfl) ⟨rfl, rfl⟩
    · have hexpand : ∀ name path inner,
          schema.expand fuel (s.name :: visiting) name path = .ok inner → inner.Generated := by
        intro name path inner hinner
        unfold Schema.expand at hinner
        split at hinner
        · exact ih hinner
        · exact nomatch hinner
      obtain ⟨hgenerated, hkeys⟩ := fieldNodes_generated
        (fun field n hn => FieldType.node_generated hexpand field.type hn) hfields
      refine .struct (fun key n hmem => hgenerated key n (mem_of_mem_sortKeys hmem))
        (.sortKeys nodes) (fun key hkey => ?_) (.of_none rfl rfl rfl rfl) rfl
      rw [hasKey_iff, mem_keys_sortKeys]
      refine hkeys key ?_
      rw [nonEmpty?] at hkey
      split at hkey
      · exact absurd hkey List.not_mem_nil
      · exact hkey

/-- The node of a struct by its name is a generated node. -/
theorem Schema.expand_generated {schema : Schema} {fuel : Nat} {visiting : List String}
    {name path : String} {node : SchemaNode}
    (h : schema.expand fuel visiting name path = .ok node) : node.Generated := by
  unfold Schema.expand at h
  split at h
  · exact structNode_generated h
  · exact nomatch h

/-- A key that is put in is there, and so are those that were. -/
theorem hasKey_insertKey {α : Type} (key inserted : String) (v : α) (xs : List (String × α)) :
    hasKey key (insertKey inserted v xs) = (decide (inserted = key) || hasKey key xs) := by
  rw [hasKey, findKey?_insertKey, hasKey]
  by_cases h : inserted = key
  · rw [if_pos h, decide_eq_true h]
    rfl
  · rw [if_neg h, decide_eq_false h, Bool.false_or]

/-- A property that every resource has is a generated node. -/
theorem builtinProperty_generated (description : String) :
    (builtinProperty "string" description).Generated :=
  .scalar (by simp) (.of_none rfl rfl rfl rfl) ⟨rfl, rfl⟩

/-- The properties of a resource: those of every resource in place of its own. -/
def resourceProperties (own : List (String × SchemaNode)) : List (String × SchemaNode) :=
  insertKey "metadata" (.typed "object") (insertKey "kind"
    (builtinProperty "string"
      "Kind is a string value representing the REST resource this object represents.")
    (insertKey "apiVersion"
      (builtinProperty "string"
        "APIVersion defines the versioned schema of this representation of an object.") own))

/-- The properties of a resource are generated nodes in key order. -/
theorem resourceProperties_generated {own : List (String × SchemaNode)}
    (hown : ∀ key node, (key, node) ∈ own → node.Generated) (horder : InKeyOrder own) :
    (∀ key node, (key, node) ∈ resourceProperties own → node.Generated) ∧
      InKeyOrder (resourceProperties own) := by
  refine ⟨fun key node hmem => ?_, ((horder.insertKey _ _).insertKey _ _).insertKey _ _⟩
  rcases mem_of_mem_insertKey hmem with h | hmem
  · obtain ⟨-, rfl⟩ := Prod.mk.inj h
    exact .object (.of_none rfl rfl rfl rfl) ⟨rfl, rfl⟩
  rcases mem_of_mem_insertKey hmem with h | hmem
  · obtain ⟨-, rfl⟩ := Prod.mk.inj h
    exact builtinProperty_generated _
  rcases mem_of_mem_insertKey hmem with h | hmem
  · obtain ⟨-, rfl⟩ := Prod.mk.inj h
    exact builtinProperty_generated _
  · exact hown key node hmem

/-- **The node of a resource**: a struct with the properties of every resource, that does not
keep members it does not know. -/
structure SchemaNode.IsResource (node : SchemaNode) (own : List (String × SchemaNode)) :
    Prop where
  /-- The own properties are generated nodes. -/
  own_generated : ∀ key inner, (key, inner) ∈ own → inner.Generated
  /-- The own properties are in key order. -/
  own_inKeyOrder : InKeyOrder own
  /-- The node has nothing but properties, of which some are required, and a description. -/
  eq : ∃ description? required?, (∀ key ∈ required?.getD [], hasKey key own = true) ∧
    node = { type? := some "object", properties? := some (resourceProperties own),
             facets := { description?, required? } }

theorem SchemaNode.IsResource.generated {node : SchemaNode} {own : List (String × SchemaNode)}
    (h : node.IsResource own) : node.Generated := by
  obtain ⟨hgenerated, horder⟩ := resourceProperties_generated h.own_generated h.own_inKeyOrder
  obtain ⟨description?, required?, hrequired, rfl⟩ := h.eq
  refine .struct hgenerated horder (fun key hkey => ?_) (.of_none rfl rfl rfl rfl) rfl
  rw [resourceProperties, hasKey_insertKey, hasKey_insertKey, hasKey_insertKey,
    hrequired key hkey, Bool.or_true, Bool.or_true, Bool.or_true]

theorem SchemaNode.asResource_eq (properties? : Option (List (String × SchemaNode)))
    (required? : Option (List String)) (preserveUnknown? : Option Bool)
    (documentation : List String) :
    ∃ description?, asResource
        { type? := some "object", properties?, facets := { required?, preserveUnknown? } }
        documentation
      = { type? := some "object", properties? := some (resourceProperties (properties?.getD [])),
          facets := { description?, required? } } := by
  unfold asResource SchemaNode.describe
  split
  · exact ⟨none, rfl⟩
  · exact ⟨_, rfl⟩

/-- **What a definition that is generated consists of.** It has one version, and the schema of
this version is the node of a resource, made from the fields of the schema's root. -/
theorem Crd.ofSchema_eq_ok {options : CrdOptions} {schema : Schema} {crd : Crd}
    (h : Crd.ofSchema options schema = .ok crd) :
    ∃ group version root node own resource, schema.root? = some root ∧
      structNode schema (schema.structs.length + 1) [] root = .ok node ∧
      own = node.properties?.getD [] ∧
      resource = node.asResource root.documentation ∧ resource.IsResource own ∧
      crd = {
        name? := some ((CrdNames.ofKind options schema.kind).plural ++ "." ++ group), group
        names := CrdNames.ofKind options schema.kind, scope := options.scope.name
        versions := [{ name := version, served := true, storage := true
                       schema? := some resource }] } := by
  obtain ⟨⟨group, version⟩, -, h⟩ := Outcome.bind_eq_ok.mp h
  dsimp only at h
  split at h
  · exact nomatch h
  · next root hroot =>
    obtain ⟨node, hnode, h⟩ := Outcome.bind_eq_ok.mp h
    obtain rfl := Outcome.pure_eq_ok.mp h
    refine ⟨group, version, root, node, _, _, hroot, hnode, rfl, rfl, ?_, rfl⟩
    rcases structNode_eq_ok hnode with ⟨-, rfl⟩ | ⟨nodes, required, -, -, rfl⟩
    · obtain ⟨description?, heq⟩ :=
        SchemaNode.asResource_eq none none (some true) root.documentation
      exact ⟨fun _ _ hmem => absurd hmem List.not_mem_nil, .nil, description?, none,
        fun _ hkey => absurd hkey List.not_mem_nil, heq⟩
    · obtain ⟨description?, heq⟩ := SchemaNode.asResource_eq (some (sortKeys nodes))
        (nonEmpty? required) none root.documentation
      obtain ⟨hgenerated, horder, hkeys⟩ := (structNode_generated hnode).of_properties rfl
      exact ⟨hgenerated, horder, description?, _, hkeys, heq⟩

end ChartSchema
