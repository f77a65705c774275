import ChartSchema.Proofs.Compatibility.Evolution
/-!
# The view of a definition loses nothing

A definition is written as JSON by one part of the library and read for comparison by another one,
which takes what does not have the form that it expects to be absent. A keyword that is read under
another name, or a number that is read as one of another kind, would be a difference that no
comparison sees.

`Property.Mirrors` says, keyword by keyword, that a property has what a node has, and
`CrdView.ofCrd_mirrors` that the view of a generated definition mirrors its schema at every
location. Two things are needed besides the equation of a view: counts that markers set are natural
numbers, so none is dropped by the reader, and the types that nodes are written with are those
that the reader knows.
-/

namespace ChartSchema

/-! ## Locations -/

/-- The node at a location, which leads through members, items and the values of maps. -/
def SchemaNode.at? (node : SchemaNode) : SchemaPath → Option SchemaNode
  | [] => some node
  | .property key :: path => (findKey? key (node.properties?.getD [])).bind (·.at? path)
  | .items :: path => node.items?.bind (·.at? path)
  | .additional :: path =>
    match node.additional? with
    | some (.value value) => value.at? path
    | _ => none

/-- The property at a location, which leads through members, items and the values of maps. -/
def Property.at? (p : Property) : SchemaPath → Option Property
  | [] => some p
  | .property key :: path => (findKey? key p.properties).bind (·.at? path)
  | .items :: path => p.items?.bind (·.at? path)
  | .additional :: path =>
    match p.additional? with
    | some (.value value) => value.at? path
    | _ => none

/-- **A property has what a node has**, keyword by keyword. A mark that the node lacks is not set. -/
structure Property.Mirrors (p : Property) (node : SchemaNode) : Prop where
  /-- The value is an integer or a text if it is marked so. -/
  intOrString : p.type = .intOrString ↔ node.facets.intOrString? = some true
  /-- The value is anything if it is not marked so, has no type, and keeps unknown members. -/
  any : p.type = .any ↔ node.facets.intOrString? ≠ some true ∧ node.type? = none ∧
    node.facets.preserveUnknown? = some true
  /-- Otherwise the type is the one that is written, and it is known. -/
  type : p.type ≠ .intOrString → p.type ≠ .any →
    node.type? = some p.type.name ∧ ∀ name, p.type ≠ .unknown name
  /-- The description is that of the node. -/
  description : p.rules.description? = node.facets.description?
  /-- The default is that of the node. -/
  default : p.rules.default? = node.facets.default?
  /-- The format is that of the node. -/
  format : p.rules.format? = node.facets.format?
  /-- The expression is that of the node. -/
  pattern : p.rules.pattern? = node.facets.pattern?
  /-- The listed values are those of the node. -/
  enum : p.rules.enum? = node.facets.enum?
  /-- The least number is that of the node. -/
  minimum : p.rules.minimum? = node.facets.minimum?
  /-- The largest number is that of the node. -/
  maximum : p.rules.maximum? = node.facets.maximum?
  /-- The least number is excluded if it is in the node. -/
  exclusiveMinimum : p.rules.exclusiveMinimum = node.facets.exclusiveMinimum?.getD false
  /-- The largest number is excluded if it is in the node. -/
  exclusiveMaximum : p.rules.exclusiveMaximum = node.facets.exclusiveMaximum?.getD false
  /-- What numbers are multiples of is that of the node. -/
  multipleOf : p.rules.multipleOf? = node.facets.multipleOf?
  /-- The least length is that of the node. -/
  minLength : p.rules.minLength?.map Int.ofNat = node.facets.minLength?
  /-- The largest length is that of the node. -/
  maxLength : p.rules.maxLength?.map Int.ofNat = node.facets.maxLength?
  /-- The least number of items is that of the node. -/
  minItems : p.rules.minItems?.map Int.ofNat = node.facets.minItems?
  /-- The largest number of items is that of the node. -/
  maxItems : p.rules.maxItems?.map Int.ofNat = node.facets.maxItems?
  /-- Items differ if they do in the node. -/
  uniqueItems : p.rules.uniqueItems = node.facets.uniqueItems?.getD false
  /-- The least number of members is that of the node. -/
  minProperties : p.rules.minProperties?.map Int.ofNat = node.facets.minProperties?
  /-- The largest number of members is that of the node. -/
  maxProperties : p.rules.maxProperties?.map Int.ofNat = node.facets.maxProperties?
  /-- Null is allowed if it is in the node. -/
  nullable : p.rules.nullable = node.facets.nullable?.getD false
  /-- The members that have to be there are those of the node. -/
  required : p.rules.required = node.facets.required?.getD []
  /-- Unknown members are kept if they are in the node. -/
  preserveUnknown : p.rules.preserveUnknown = node.facets.preserveUnknown?.getD false
  /-- Members without a property are neither allowed nor refused, unless they are in the node. -/
  additional : ∀ allowed, p.additional? = some (.bool allowed) ↔
    node.additional? = some (.bool allowed)

/-! ## The view of a node -/

theorem Facets.natural?_eq {n? : Option Int} (h : ∀ n, n? = some n → 0 ≤ n) :
    (Facets.natural? n?).map Int.ofNat = n? := by
  cases n? with
  | none => rfl
  | some n =>
    have hn : 0 ≤ n := h n rfl
    rw [Facets.natural?, Option.bind_some, if_pos hn, Option.map_some]
    exact congrArg some (Int.toNat_of_nonneg hn)

namespace SchemaNode

variable {node : SchemaNode}

theorem getD_false_eq_true {b? : Option Bool} : b?.getD false = true ↔ b? = some true := by
  cases b? <;> simp

/-- The types that nodes are written with are known, and are no others. -/
theorem ofName_known {name : String}
    (h : name ∈ ["integer", "number", "string", "boolean", "object", "array"]) :
    (PropertyType.ofName name).name = name ∧ PropertyType.ofName name ≠ .intOrString ∧
      PropertyType.ofName name ≠ .any ∧ ∀ other, PropertyType.ofName name ≠ .unknown other := by
  simp only [List.mem_cons, List.not_mem_nil, or_false] at h
  have hknown (type : PropertyType) (name : String) (heq : PropertyType.ofName name = type)
      (hname : type.name = name) (hint : type ≠ .intOrString) (hany : type ≠ .any)
      (hunknown : ∀ other, type ≠ .unknown other) :
      (PropertyType.ofName name).name = name ∧ PropertyType.ofName name ≠ .intOrString ∧
        PropertyType.ofName name ≠ .any ∧ ∀ other, PropertyType.ofName name ≠ .unknown other := by
    rw [heq]
    exact ⟨hname, hint, hany, hunknown⟩
  rcases h with rfl | rfl | rfl | rfl | rfl | rfl
  · exact hknown .integer _ (by decide +kernel) rfl nofun nofun nofun
  · exact hknown .number _ (by decide +kernel) rfl nofun nofun nofun
  · exact hknown .string _ (by decide +kernel) rfl nofun nofun nofun
  · exact hknown .boolean _ (by decide +kernel) rfl nofun nofun nofun
  · exact hknown .object _ (by decide +kernel) rfl nofun nofun nofun
  · exact hknown .array _ (by decide +kernel) rfl nofun nofun nofun

/-- **How the type of a generated node is written**: as a mark, by its name, or not at all where
unknown members are kept. -/
theorem Generated.type_cases (h : node.Generated) :
    node.facets.intOrString? = some true ∨
      (node.facets.intOrString? = none ∧ ∃ name, node.type? = some name ∧
        name ∈ ["integer", "number", "string", "boolean", "object", "array"]) ∨
      (node.facets.intOrString? = none ∧ node.type? = none ∧
        node.facets.preserveUnknown? = some true) := by
  cases h with
  | scalar htype _ hplain =>
    exact .inr (.inl ⟨hplain.intOrString, _, rfl, List.mem_append_left ["object", "array"] htype⟩)
  | object _ hplain | map _ _ hplain | list _ _ hplain =>
    exact .inr (.inl ⟨hplain.intOrString, _, rfl, by simp⟩)
  | struct _ _ _ _ hnone => exact .inr (.inl ⟨hnone, _, rfl, by simp⟩)
  | anything hset _ hplain => exact .inr (.inr ⟨hplain.intOrString, rfl, hset⟩)
  | intOrString hset => exact .inl hset

/-- **The property that a generated node describes mirrors the node**: type, rules, members and
items. Generated nodes are well formed, so that no rule is lost where it is written and read back.
-/
theorem Generated.mirrors (h : node.Generated) : node.view.Mirrors node := by
  rw [view_eq h.others_eq]
  have hcount {n? : Option Int} (hmem : n? ∈ node.facets.counts) :
      (Facets.natural? n?).map Int.ofNat = n? :=
    Facets.natural?_eq fun n hn => (h.proper.natural n (hn ▸ hmem)).1
  have htype : (node.propertyType = .intOrString ↔ node.facets.intOrString? = some true) ∧
      (node.propertyType = .any ↔ node.facets.intOrString? ≠ some true ∧ node.type? = none ∧
        node.facets.preserveUnknown? = some true) ∧
      (node.propertyType ≠ .intOrString → node.propertyType ≠ .any →
        node.type? = some node.propertyType.name ∧ ∀ name, node.propertyType ≠ .unknown name) := by
    rcases h.type_cases with hset | ⟨hunset, name, hname, hknown⟩ | ⟨hunset, hnone, hpreserved⟩
    · have heq : node.propertyType = .intOrString := by
        rw [propertyType, hset, Option.getD_some, if_pos rfl]
      rw [heq]
      exact ⟨⟨fun _ => hset, fun _ => rfl⟩, ⟨fun h => (by cases h), fun hany => absurd hset hany.1⟩,
        fun hne => absurd rfl hne⟩
    · obtain ⟨hwritten, hint, hany, hunknown⟩ := ofName_known hknown
      have heq : node.propertyType = .ofName name := by
        rw [propertyType, hunset, hname]
        rfl
      rw [heq, hunset, hname]
      exact ⟨⟨fun habsurd => absurd habsurd hint, fun h => (by cases h)⟩,
        ⟨fun habsurd => absurd habsurd hany, fun habsurd => (by cases habsurd.2.1)⟩,
        fun _ _ => ⟨congrArg some hwritten.symm, hunknown⟩⟩
    · have heq : node.propertyType = .any := by
        rw [propertyType, hunset, hnone, hpreserved]
        rfl
      rw [heq, hunset, hnone]
      exact ⟨⟨fun h => (by cases h), fun h => (by cases h)⟩,
        ⟨fun _ => ⟨fun h => (by cases h), rfl, hpreserved⟩, fun _ => rfl⟩,
        fun _ hne => absurd rfl hne⟩
  exact {
    intOrString := htype.1, any := htype.2.1, type := htype.2.2
    description := rfl, default := rfl, format := rfl, pattern := rfl, enum := rfl
    minimum := rfl, maximum := rfl, exclusiveMinimum := rfl, exclusiveMaximum := rfl
    multipleOf := rfl
    minLength := hcount (by simp [Facets.counts]), maxLength := hcount (by simp [Facets.counts])
    minItems := hcount (by simp [Facets.counts]), maxItems := hcount (by simp [Facets.counts])
    uniqueItems := rfl
    minProperties := hcount (by simp [Facets.counts])
    maxProperties := hcount (by simp [Facets.counts])
    nullable := rfl, required := rfl, preserveUnknown := rfl
    additional := fun allowed => by
      show node.additional?.map viewAdditional = _ ↔ _
      cases node.additional? with
      | none => exact ⟨fun h => (by cases h), fun h => (by cases h)⟩
      | some additional =>
        cases additional with
        | bool _ => rw [Option.map_some, viewAdditional]; simp
        | value _ => exact ⟨fun h => (by cases h), fun h => (by cases h)⟩ }

/-- **The locations of a view are those of the node**, and each has the view of the node there. So
what is said of one can be looked up in the other, path by path. -/
theorem Generated.at?_view (h : node.Generated) (path : SchemaPath) :
    node.view.at? path = (node.at? path).map view := by
  induction path generalizing node with
  | nil => rfl
  | cons step path ih =>
    rw [view_eq h.others_eq]
    cases step with
    | property key =>
      rw [Property.at?, SchemaNode.at?, findKey?_map view]
      cases hproperties : node.properties? with
      | none => rfl
      | some properties =>
        rw [Option.getD_some]
        cases hfind : findKey? key properties with
        | none => rfl
        | some inner => exact ih ((h.of_properties hproperties).1 key inner (mem_of_findKey? hfind))
    | items =>
      rw [Property.at?, SchemaNode.at?]
      cases hitems : node.items? with
      | none => rfl
      | some inner =>
        refine ih ?_
        cases h with
        | list hinner => exact Option.some.inj hitems ▸ hinner
        | scalar | anything | object | intOrString | map | struct => exact nomatch hitems
    | additional =>
      rw [Property.at?, SchemaNode.at?]
      cases h with
      | map hvalue => exact ih hvalue
      | scalar | anything | object | intOrString | list | struct => rfl

/-- The nodes at the locations of a generated node are generated nodes. -/
theorem Generated.of_at? (h : node.Generated) {path : SchemaPath} {inner : SchemaNode}
    (hat : node.at? path = some inner) : inner.Generated := by
  induction path generalizing node with
  | nil => exact Option.some.inj hat ▸ h
  | cons step path ih =>
    cases step with
    | property key =>
      obtain ⟨next, hnext, hat⟩ := Option.bind_eq_some_iff.mp hat
      cases hproperties : node.properties? with
      | none =>
        rw [hproperties] at hnext
        exact nomatch hnext
      | some properties =>
        rw [hproperties] at hnext
        exact ih ((h.of_properties hproperties).1 key next (mem_of_findKey? hnext)) hat
    | items =>
      obtain ⟨next, hnext, hat⟩ := Option.bind_eq_some_iff.mp hat
      refine ih ?_ hat
      cases h with
      | list hinner => exact Option.some.inj hnext ▸ hinner
      | scalar | anything | object | intOrString | map | struct => exact nomatch hnext
    | additional =>
      cases h with
      | map hvalue => exact ih hvalue hat
      | scalar | anything | object | intOrString | list | struct => exact nomatch hat

end SchemaNode

/-! ## The view of a definition -/

namespace CrdView

/-- **The view of a generated definition loses nothing.** It can be read, its only version is the
one that was generated, and its properties stand at exactly the locations of the schema, where
each has what the schema has there. -/
theorem ofCrd_mirrors {options : CrdOptions} {schema : Schema} {crd : Crd}
    (h : Crd.ofSchema options schema = .ok crd) :
    ∃ group generated node, groupVersion options schema = .ok (group, generated.name) ∧
      crd.versions = [generated] ∧ generated.schema? = some node ∧
      ∃ view root, ofCrd crd = .ok view ∧
        view.versions = [{ name := generated.name, served := true, storage := true
                           schema? := some root }] ∧
        ∀ path, Option.Rel Property.Mirrors (root.at? path) (node.at? path) := by
  obtain ⟨⟨group, version⟩, hnamed, hrest⟩ := Outcome.bind_eq_ok.mp h
  have hname : ∀ v ∈ crd.versions, v.name = version := by
    dsimp only at hrest
    split at hrest
    · exact nomatch hrest
    · obtain ⟨node, -, hcrd⟩ := Outcome.bind_eq_ok.mp hrest
      obtain rfl := Outcome.pure_eq_ok.mp hcrd
      exact fun v hv => List.mem_singleton.mp hv ▸ rfl
  obtain ⟨version', node, hgenerated⟩ := Crd.isGenerated_of_ofSchema h
  obtain ⟨name, scope, -, hview⟩ := hgenerated.view_eq
  have hversion : version' = version := by
    refine hname { name := version', served := true, storage := true, schema? := some node } ?_
    rw [hgenerated.versions]
    exact List.mem_singleton_self _
  subst hversion
  refine ⟨group, _, node, hnamed, hgenerated.versions, rfl, _, node.view, hview, rfl, fun path => ?_⟩
  rw [hgenerated.generated.at?_view path]
  cases hat : node.at? path with
  | none => exact .none
  | some inner => exact .some (hgenerated.generated.of_at? hat).mirrors

/-- A text with an integer or text that may be null, a list of bounded numbers, and free content. -/
def gaugeText : String :=
  "apiVersion: a.io/v1\nkind: Gauge\n# +XIntOrString\n# +nullable\nport: 80\n# +Minimum=0.5\n# +MaxItems=3\nsteps:\n- 1.5\n# +default=~\nrest: \x7b\x7d\n"

/-- The view of the definition of this text loses nothing. -/
theorem ofCrd_mirrors_gauge :
    ∃ schema crd, Schema.infer {} gaugeText = .ok schema ∧ Crd.ofSchema {} schema = .ok crd ∧
      ∃ group generated node, groupVersion {} schema = .ok (group, generated.name) ∧
        crd.versions = [generated] ∧ generated.schema? = some node ∧
        ∃ view root, ofCrd crd = .ok view ∧
          view.versions = [{ name := generated.name, served := true, storage := true
                             schema? := some root }] ∧
          ∀ path, Option.Rel Property.Mirrors (root.at? path) (node.at? path) := by
  have hchars := Text.toList_of_eq (s := gaugeText) (by unfold gaugeText; rfl)
  have hsome : ((Schema.infer {} gaugeText).toOption.bind fun schema =>
      (Crd.ofSchema {} schema).toOption).isSome = true := by
    rw [Schema.infer, Schema.ofText, Yaml.Value.parse?, Yaml.Document.parse?, SourceMap.scan, hchars]
    decide +kernel
  obtain ⟨crd, hbind⟩ := Option.isSome_iff_exists.mp hsome
  obtain ⟨schema, hschema, hcrd⟩ := Option.bind_eq_some_iff.mp hbind
  refine ⟨schema, crd, Outcome.toOption_eq_some.mp hschema, Outcome.toOption_eq_some.mp hcrd, ?_⟩
  exact ofCrd_mirrors (Outcome.toOption_eq_some.mp hcrd)

end CrdView
end ChartSchema
