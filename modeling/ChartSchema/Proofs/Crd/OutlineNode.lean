import ChartSchema.Proofs.Crd.RequiredOrder
import ChartSchema.Proofs.Schema.Reordering
/-!
# Definitions made from outlines

A definition is made from a schema by following its references, with the names of the structs on
the way so that a struct inside itself is noticed. A schema that realises an outline is a tree, so
nothing of this is left: `Outline.node?` gives the node of an outline directly, without names, and
`Outline.node_toOption` says that it is the node that the schema leads to. The one way in which a
name could still matter is a hint that happens to name a struct (`Schema.HintsNameNoStruct`).

For outlines that are alike the nodes are the same up to the order of required members
(`Outline.node?_alike`), and so are the definitions.
-/

namespace ChartSchema

open Yaml (Value)

/-! ## Hints that name no struct -/

mutual

/-- The names in a type that were given by a hint. -/
def TypeRef.hintNames (type : TypeRef) : List String :=
  match type with
  | .named name => [name]
  | .map value => value.hintNames
  | .list element => element.hintNames
  | _ => []
termination_by structural type

/-- The names in the type of a field that were given by a hint. -/
def FieldType.hintNames (type : FieldType) : List String :=
  match type with
  | .single type => type.hintNames
  | .list element => element.hintNames
termination_by structural type

end

/-- **No hint of a schema names one of its structs.** -/
def Schema.HintsNameNoStruct (schema : Schema) : Prop :=
  ∀ s ∈ schema.structs, ∀ f ∈ s.fields, ∀ name ∈ f.type.hintNames, schema.struct? name = none

instance (schema : Schema) : Decidable schema.HintsNameNoStruct :=
  inferInstanceAs (Decidable (∀ s ∈ schema.structs, ∀ f ∈ s.fields, ∀ name ∈ f.type.hintNames,
    schema.struct? name = none))

/-- The node of a type for which no structs are needed. -/
def FieldType.plainNode (path : String) (type : FieldType) : Except CrdError SchemaNode :=
  FieldType.node (fun name path => .error (.unresolvedType name path)) (fun _ => false) path type

section Leaves

variable {expand : String → String → Except CrdError SchemaNode} {isStruct : String → Bool}
  {path : String}

mutual

/-- Where no struct is referred to or named, none matters. -/
theorem TypeRef.node_plain (type : TypeRef) (hleaf : type.references = [])
    (hhints : ∀ name ∈ type.hintNames, isStruct name = false) :
    TypeRef.node expand isStruct path type =
      TypeRef.node (fun name path => .error (.unresolvedType name path)) (fun _ => false) path
        type := by
  match type with
  | .integer | .float | .string | .boolean | .unknown => rfl
  | .struct name => exact nomatch hleaf
  | .map value =>
    rw [TypeRef.node, TypeRef.node, FieldType.node_plain value hleaf hhints]
  | .list element =>
    rw [TypeRef.node, TypeRef.node, TypeRef.node_plain element hleaf hhints]
  | .named name =>
    rw [TypeRef.node, TypeRef.node, hhints name (List.mem_singleton_self name)]
    rfl
termination_by structural type

theorem FieldType.node_plain (type : FieldType) (hleaf : type.references = [])
    (hhints : ∀ name ∈ type.hintNames, isStruct name = false) :
    FieldType.node expand isStruct path type =
      FieldType.node (fun name path => .error (.unresolvedType name path)) (fun _ => false) path
        type := by
  match type with
  | .single type =>
    rw [FieldType.node, FieldType.node, TypeRef.node_plain type hleaf hhints]
  | .list element =>
    rw [FieldType.node, FieldType.node, TypeRef.node_plain element hleaf hhints]
termination_by structural type

end

end Leaves

/-! ## The node of an outline -/

/-- The property of a field, and whether it is required. -/
structure FieldNode where
  /-- The key. -/
  key : String
  /-- The node. -/
  node : SchemaNode
  /-- Whether the field is required. -/
  required : Bool

/-- The property of a field whose type has this node. -/
def FieldHead.node? (head : FieldHead) (isList : Bool) (bare : SchemaNode) : Option FieldNode :=
  ((Marker.applyLines isList head.path head.markers (bare.describe head.documentation)).toOption).map
    fun own => ⟨head.key, own.1, own.2⟩

/-- The keys of the fields that are required. -/
def requiredKeys (fields : List FieldNode) : List String :=
  (fields.filter (·.required)).map (·.key)

/-- The node of a struct with these fields; without fields it stands for free content. -/
def SchemaNode.ofFields (fields : List FieldNode) : SchemaNode :=
  if fields.isEmpty then .preserving (some "object")
  else
    { type? := some "object", properties? := some (sortKeys (fields.map fun f => (f.key, f.node)))
      facets := { required? := nonEmpty? (requiredKeys fields) } }

namespace Outline

/-- Whether the values are lists. -/
def isList : Outline → Bool
  | .leaf type => type.isList
  | .struct isList _ => isList

mutual

/-- **The node of an outline**, for a field at a path. -/
def node? (path : String) (o : Outline) : Option SchemaNode :=
  match o with
  | .leaf type => (type.plainNode path).toOption
  | .struct isList fields =>
    (fieldNodes? fields).map fun own =>
      if isList then .arrayOf (.ofFields own) else .ofFields own
termination_by structural o

/-- The properties of fields. -/
def fieldNodes? (fields : OutlineFields) : Option (List FieldNode) :=
  match fields with
  | [] => some []
  | (head, content) :: rest =>
    ((content.node? head.path).bind (head.node? content.isList)).bind fun own =>
      (fieldNodes? rest).map (own :: ·)
termination_by structural fields

end

/-- A type that realises an outline is a list if the outline says so. -/
theorem Realises.isList_eq {o : Outline} {type : FieldType} {structs : List Struct}
    (h : Realises o type structs) : type.isList = o.isList := by
  cases h with
  | leaf => rfl
  | @struct isList _ _ _ _ _ _ => cases isList <;> rfl

end Outline

/-! ## The node that a schema leads to -/

namespace Schema

/-- **A run that makes nodes of structs reaches all of them**: their names lead to them, none is
below one of the same name, and there is enough fuel. -/
structure Reaches (schema : Schema) (fuel : Nat) (visiting : List String)
    (structs : List Struct) : Prop where
  /-- The names lead to the structs. -/
  found : ∀ s ∈ structs, schema.struct? s.name = some s
  /-- The names are different. -/
  nodup : (structs.map (·.name)).Nodup
  /-- They are none of the names above. -/
  fresh : ∀ s ∈ structs, s.name ∉ visiting
  /-- There is enough fuel. -/
  enough : structs.length ≤ fuel

namespace Reaches

variable {schema : Schema} {fuel : Nat} {visiting : List String} {own nested : List Struct}
  {s : Struct}

theorem left (h : schema.Reaches fuel visiting (own ++ nested)) :
    schema.Reaches fuel visiting own := by
  have hlength := h.enough
  have hnodup := h.nodup
  rw [List.length_append] at hlength
  rw [List.map_append] at hnodup
  exact ⟨fun s hs => h.found s (List.mem_append_left _ hs), hnodup.of_append_left,
    fun s hs => h.fresh s (List.mem_append_left _ hs), by omega⟩

theorem right (h : schema.Reaches fuel visiting (own ++ nested)) :
    schema.Reaches fuel visiting nested := by
  have hlength := h.enough
  have hnodup := h.nodup
  rw [List.length_append] at hlength
  rw [List.map_append] at hnodup
  exact ⟨fun s hs => h.found s (List.mem_append_right _ hs), hnodup.of_append_right,
    fun s hs => h.fresh s (List.mem_append_right _ hs), by omega⟩

theorem below (h : schema.Reaches (fuel + 1) visiting (s :: nested)) :
    schema.Reaches fuel (s.name :: visiting) nested := by
  have hnodup := h.nodup
  rw [List.map_cons, List.nodup_cons] at hnodup
  refine ⟨fun t ht => h.found t (List.mem_cons_of_mem _ ht), hnodup.2, fun t ht => ?_,
    Nat.le_of_succ_le_succ h.enough⟩
  rw [List.mem_cons, not_or]
  exact ⟨fun heq => hnodup.1 (heq ▸ List.mem_map.mpr ⟨t, ht, rfl⟩),
    h.fresh t (List.mem_cons_of_mem _ ht)⟩

theorem mem (h : schema.Reaches fuel visiting (s :: nested)) : s ∈ schema.structs :=
  List.mem_of_find?_eq_some (h.found s List.mem_cons_self)

end Reaches

/-- The node of a field of a schema. -/
def fieldNode (schema : Schema) (fuel : Nat) (visiting : List String) (f : Field) :
    Except CrdError SchemaNode :=
  FieldType.node (schema.expand fuel visiting) (fun name => (schema.struct? name).isSome)
    f.sourcePath f.type

end Schema

/-- The properties and the required keys, as they are put together for a struct. -/
def FieldNode.unzip (fields : List FieldNode) : List (String × SchemaNode) × List String :=
  (fields.map fun f => (f.key, f.node), requiredKeys fields)

/-- Where there are properties of fields, there are as many as fields. -/
theorem Outline.isEmpty_of_fieldNodes? {fields : OutlineFields} {own : List FieldNode}
    (h : fieldNodes? fields = some own) : own.isEmpty = fields.isEmpty := by
  cases fields with
  | nil =>
    obtain rfl := Option.some.inj h
    rfl
  | cons field rest =>
    obtain ⟨first, -, h⟩ := Option.bind_eq_some_iff.mp h
    obtain ⟨others, -, rfl⟩ := Option.map_eq_some_iff.mp h
    rfl

/-- **The node of a struct is that of its fields.** Structs with the names that its fields refer to
are found, and none of them is being entered already. -/
theorem structNode_toOption {schema : Schema} {fuel : Nat} {visiting : List String} {s : Struct}
    {nested : List Struct} (h : schema.Reaches (fuel + 1) visiting (s :: nested))
    {fields : OutlineFields} (hrealises : Outline.RealisesFields fields s.fields nested)
    (hfields : (fieldNodes (schema.fieldNode fuel (s.name :: visiting)) s.fields).toOption =
      (Outline.fieldNodes? fields).map FieldNode.unzip) :
    (structNode schema (fuel + 1) visiting s).toOption =
      (Outline.fieldNodes? fields).map SchemaNode.ofFields := by
  have hfresh : visiting.contains s.name = false := by
    rw [← Bool.not_eq_true, List.contains_iff_mem]
    exact h.fresh s List.mem_cons_self
  have hempty : s.fields.isEmpty = fields.isEmpty := by
    have hkeys := congrArg List.isEmpty hrealises.map_key
    rwa [List.isEmpty_map, List.isEmpty_map] at hkeys
  unfold structNode
  rw [if_neg (by rw [hfresh]; exact Bool.false_ne_true), hempty]
  split
  · next hnone =>
    obtain rfl := List.isEmpty_iff.mp hnone
    rfl
  · next hsome =>
    refine (Outcome.toOption_bind _ _).trans ?_
    show (fieldNodes (schema.fieldNode fuel (s.name :: visiting)) s.fields).toOption.bind _ = _
    rw [hfields]
    cases hown : Outline.fieldNodes? fields with
    | none => rfl
    | some own =>
      rw [Option.map_some, Option.bind_some, Option.map_some, SchemaNode.ofFields,
        Outline.isEmpty_of_fieldNodes? hown, if_neg hsome]
      rfl

namespace Outline

variable {schema : Schema}

mutual

/-- **The node of a type that realises an outline is the node of the outline.** The induction is
that over the outline. -/
theorem node_toOption (hhints : schema.HintsNameNoStruct) (o : Outline) {type : FieldType}
    {structs : List Struct} (h : Realises o type structs)
    (hleaf : ∀ name ∈ type.hintNames, schema.struct? name = none) {fuel : Nat}
    {visiting : List String} (hreaches : schema.Reaches fuel visiting structs) (path : String) :
    (FieldType.node (schema.expand fuel visiting) (fun name => (schema.struct? name).isSome)
      path type).toOption = o.node? path := by
  match o with
  | .leaf type =>
    cases h with
    | leaf hreferences =>
      rw [node?, FieldType.plainNode, FieldType.node_plain type hreferences fun name hname => ?_]
      rw [hleaf name hname]
      rfl
  | .struct isList fields =>
    cases h with
    | @struct _ _ name documentation own nested hfields =>
      cases fuel with
      | zero => exact absurd hreaches.enough (Nat.not_succ_le_zero _)
      | succ fuel =>
        have hnode : schema.expand (fuel + 1) visiting name path =
            structNode schema (fuel + 1) visiting { name, documentation, fields := own } := by
          rw [Schema.expand, hreaches.found _ List.mem_cons_self]
        have hstruct := structNode_toOption hreaches hfields
          (fieldNodes_toOption hhints fields hfields (hhints _ hreaches.mem) hreaches.below)
        rw [node?]
        cases isList with
        | false =>
          show (schema.expand (fuel + 1) visiting name path).toOption = _
          rw [hnode, hstruct]
          rfl
        | true =>
          show (schema.expand (fuel + 1) visiting name path >>= fun node =>
            pure (SchemaNode.arrayOf node)).toOption = _
          rw [Outcome.toOption_bind, hnode, hstruct]
          cases fieldNodes? fields <;> rfl
termination_by structural o

/-- The properties of fields that realise those of an outline are those of the outline. -/
theorem fieldNodes_toOption (hhints : schema.HintsNameNoStruct) (fields : OutlineFields)
    {own : List Field} {structs : List Struct} (h : RealisesFields fields own structs)
    (hleaf : ∀ f ∈ own, ∀ name ∈ f.type.hintNames, schema.struct? name = none) {fuel : Nat}
    {visiting : List String} (hreaches : schema.Reaches fuel visiting structs) :
    (fieldNodes (schema.fieldNode fuel visiting) own).toOption =
      (fieldNodes? fields).map FieldNode.unzip := by
  match fields with
  | [] =>
    cases h
    rfl
  | (head, content) :: rest =>
    cases h with
    | @cons _ _ _ f others ownStructs nested hkey hdocumentation hmarkers hpath hcontent hrest =>
      have hfirst := node_toOption hhints content hcontent (hleaf f List.mem_cons_self)
        hreaches.left f.sourcePath
      have hothers := fieldNodes_toOption hhints rest hrest
        (fun f hf => hleaf f (List.mem_cons_of_mem _ hf)) hreaches.right
      rw [fieldNodes, fieldNodes?, Outcome.toOption_bind, Schema.fieldNode, hfirst, hpath]
      cases content.node? head.path with
      | none => rfl
      | some bare =>
        rw [Option.bind_some, Outcome.toOption_bind, Option.bind_some, FieldHead.node?,
          hcontent.isList_eq, hmarkers, hdocumentation]
        cases (Marker.applyLines content.isList head.path head.markers
          (bare.describe head.documentation)).toOption with
        | none => rfl
        | some own =>
          obtain ⟨node, required⟩ := own
          rw [Option.bind_some]
          dsimp only
          rw [Outcome.toOption_bind, hothers, hkey]
          cases fieldNodes? rest with
          | none => rfl
          | some nodes => cases required <;> rfl
termination_by structural fields

end

end Outline

/-! ## Outlines that are alike have the same node -/

/-- A property with the required members in order. -/
def FieldNode.sorted (f : FieldNode) : FieldNode := { f with node := f.node.sortRequired }

/-- **Two nodes are the same up to the order of required members.** -/
def SameNode (a b : SchemaNode) : Prop := a.sortRequired = b.sortRequired

/-- Two properties are the same up to the order of required members. -/
def SameField (f g : FieldNode) : Prop := f.sorted = g.sorted

/-- The property of a field is that of its node, put in order before or behind. -/
theorem FieldHead.node?_sorted (head : FieldHead) (isList : Bool) (bare : SchemaNode) :
    (head.node? isList bare).map FieldNode.sorted = head.node? isList bare.sortRequired := by
  rw [FieldHead.node?, FieldHead.node?, ← SchemaNode.sortRequired_describe,
    Marker.sortRequired_applyLines]
  cases Marker.applyLines isList head.path head.markers (bare.describe head.documentation) <;> rfl

/-- **The node of a struct does not depend on the order of its fields**, up to the order of
required members. -/
theorem SchemaNode.ofFields_same {fields others : List FieldNode}
    (h : AgreeByKey (·.key) SameField fields others) :
    SameNode (.ofFields fields) (.ofFields others) := by
  have hsorted : AgreeByKey (·.key) (· = ·) (fields.map FieldNode.sorted)
      (others.map FieldNode.sorted) :=
    h.map FieldNode.sorted (fun _ => rfl) fun _ _ hsame => hsame
  have hperm := hsorted.perm
  have hempty : fields.isEmpty = others.isEmpty := by
    have hsame := hperm.isEmpty_eq
    rwa [List.isEmpty_map, List.isEmpty_map] at hsame
  have hkeys : (requiredKeys fields).Perm (requiredKeys others) := by
    have hrequired (own : List FieldNode) :
        requiredKeys (own.map FieldNode.sorted) = requiredKeys own := by
      rw [requiredKeys, requiredKeys, List.filter_map, List.map_map]
      rfl
    rw [← hrequired fields, ← hrequired others]
    exact (hperm.filter _).map _
  have hproperties (own : List FieldNode) :
      sortValues (sortKeys (own.map fun f => (f.key, f.node))) =
        sortKeys ((own.map FieldNode.sorted).map fun f => (f.key, f.node)) := by
    rw [sortValues, ← sortKeys_map, List.map_map, List.map_map]
    rfl
  have hsame : sortValues (sortKeys (fields.map fun f => (f.key, f.node))) =
      sortValues (sortKeys (others.map fun f => (f.key, f.node))) := by
    rw [hproperties, hproperties]
    exact (hsorted.map (fun f => (f.key, f.node)) (fun _ => rfl)
      fun _ _ heq => congrArg (fun f : FieldNode => (f.key, f.node)) heq).sortKeys_eq
  have hrequired : (nonEmpty? (requiredKeys fields)).map (fun keys => keys.mergeSort (· ≤ ·)) =
      (nonEmpty? (requiredKeys others)).map fun keys => keys.mergeSort (· ≤ ·) := by
    rw [nonEmpty?, nonEmpty?, hkeys.isEmpty_eq]
    split
    · rfl
    · exact congrArg some (mergeSort_eq_of_perm hkeys)
  unfold SameNode ofFields
  rw [hempty]
  split
  · rfl
  · show SchemaNode.mk _ _ (some (sortEachProperty _)) _ _ _ _ =
      SchemaNode.mk _ _ (some (sortEachProperty _)) _ _ _ _
    rw [sortEachProperty_eq, sortEachProperty_eq, hsame]
    congr 1
    exact congrArg (fun required? => ({ required? } : Facets)) hrequired

namespace Outline

/-- **Induction over an outline**, with the claim for all its fields. -/
theorem induction {P : Outline → Prop} (leaf : ∀ type, P (.leaf type))
    (struct : ∀ isList fields, (∀ field ∈ fields, P field.2) → P (.struct isList fields)) :
    ∀ o, P o
  | .leaf type => leaf type
  | .struct isList fields =>
    struct isList fields fun field hfield =>
      have : sizeOf field < sizeOf fields := List.sizeOf_lt_of_mem hfield
      have : sizeOf field.2 < sizeOf field := by cases field; simp
      induction leaf struct field.2
termination_by o => sizeOf o
decreasing_by
  simp
  omega

theorem fieldNodes?_eq (fields : OutlineFields) :
    fieldNodes? fields = fields.mapM fun field =>
      (field.2.node? field.1.path).bind (field.1.node? field.2.isList) := by
  induction fields with
  | nil => rfl
  | cons field rest ih => rw [mapM_cons_option, fieldNodes?, ih]

theorem Alike.isList_eq {o o' : Outline} (h : o.Alike o') : o.isList = o'.isList := by
  cases h <;> rfl

/-- **The properties of fields are gathered key by key**, where the contents of fields that are
alike have the same nodes. -/
theorem gathers_fieldNodes? : Gathers (·.1.key) (·.key)
    (fun x y => (∀ o', x.2.Alike o' → ∀ path, Option.Rel SameNode (x.2.node? path) (o'.node? path)) ∧
      FieldAlike x y) SameField fieldNodes? := by
  rw [funext fieldNodes?_eq]
  refine gathers_mapM (fun x own hown => ?_) fun x y ⟨hnode, hhead, hcontent⟩ => ?_
  · obtain ⟨bare, -, hown⟩ := Option.bind_eq_some_iff.mp hown
    obtain ⟨own, -, rfl⟩ := Option.map_eq_some_iff.mp hown
    rfl
  · rw [← hhead, ← hcontent.isList_eq]
    refine rel_bind (hnode _ hcontent _) fun a b hab => rel_of_map_eq ?_
    rw [FieldHead.node?_sorted, FieldHead.node?_sorted, hab]

/-- **Outlines that are alike have the same node**, up to the order of required members. The
induction is on one of them, and fields are compared key by key. -/
theorem node?_alike (o : Outline) {o' : Outline} (h : o.Alike o') (path : String) :
    Option.Rel SameNode (o.node? path) (o'.node? path) := by
  induction o using Outline.induction generalizing o' path with
  | leaf type =>
    cases h
    cases (leaf type).node? path with
    | none => exact .none
    | some node => exact .some rfl
  | struct isList fields ih =>
    cases h with
    | @struct _ _ others hheads hcontents =>
      have hfields : FieldsAlike fields others :=
        fun key => forall₂_prod.mpr ⟨hheads key, hcontents key⟩
      have hnodes := gathers_fieldNodes?.agree (hfields.and_left ih)
      rw [node?, node?]
      refine rel_map hnodes fun own own' hown => ?_
      cases isList with
      | false => exact SchemaNode.ofFields_same hown
      | true => exact congrArg SchemaNode.arrayOf (SchemaNode.ofFields_same hown)

/-- **Fields that are alike have the same properties**, key by key. -/
theorem fieldNodes?_alike {fields others : OutlineFields} (h : FieldsAlike fields others) :
    Option.Rel (AgreeByKey (·.key) SameField) (fieldNodes? fields) (fieldNodes? others) :=
  gathers_fieldNodes?.agree (h.and_left fun field _ _ => node?_alike field.2)

end Outline

/-! ## Definitions -/

namespace SchemaNode

/-- A resource has the properties of every resource, in order before or behind. -/
theorem sortValues_resourceProperties (own : List (String × SchemaNode)) :
    sortValues (resourceProperties own) = resourceProperties (sortValues own) := by
  unfold sortValues resourceProperties
  rw [← insertKey_map, ← insertKey_map, ← insertKey_map]
  rfl

/-- **The node of a resource is that of its struct**, in order before or behind. -/
theorem sortRequired_asResource (node : SchemaNode) (documentation : List String) :
    (node.asResource documentation).sortRequired = node.sortRequired.asResource documentation := by
  unfold asResource
  rw [sortRequired_describe, sortRequired_properties]
  refine congrArg (describe · documentation) ?_
  cases node
  show SchemaNode.mk _ _ (some (sortEachProperty (resourceProperties _))) _ _ _ _ =
    SchemaNode.mk _ _ (some (resourceProperties _)) _ _ _ _
  rw [sortEachProperty_eq, sortValues_resourceProperties]
  rfl

end SchemaNode

namespace Crd

/-- The definition of a resource with these properties. -/
def ofFields (options : CrdOptions) (kind group version : String) (documentation : List String)
    (fields : List FieldNode) : Crd :=
  { name? := some ((CrdNames.ofKind options kind).plural ++ "." ++ group), group
    names := CrdNames.ofKind options kind, scope := options.scope.name
    versions := [{ name := version, served := true, storage := true
                   schema? := some ((SchemaNode.ofFields fields).asResource documentation) }] }

/-- **The definition of an outline**: what a document of this kind and version with these fields
is made into. -/
def ofOutline? (options : CrdOptions) (apiVersion : GroupVersion) (kind : String)
    (documentation : List String) (fields : OutlineFields) : Option Crd :=
  (groupVersion options { apiVersion, kind, structs := [] }).toOption.bind fun named =>
    (Outline.fieldNodes? fields).map (ofFields options kind named.1 named.2 documentation)

/-- **The definition of a schema is that of the outline that it realises.** The names of structs do
not show in it; they only lead from a field to what is inside. -/
theorem ofSchema_toOption {options : CrdOptions} {apiVersion : GroupVersion} {kind : String}
    {documentation : List String} {fields : OutlineFields} {own : List Field}
    {nested : List Struct} {schema : Schema}
    (hschema : schema = { apiVersion, kind, structs :=
      { name := kind, documentation, fields := own } :: nested })
    (hrealises : Outline.RealisesFields fields own nested)
    (hnodup : (schema.structs.map (·.name)).Nodup) (hhints : schema.HintsNameNoStruct) :
    (ofSchema options schema).toOption = ofOutline? options apiVersion kind documentation fields := by
  have hreaches : schema.Reaches (schema.structs.length + 1) [] schema.structs :=
    ⟨fun s hs => Schema.struct?_of_mem hnodup hs, hnodup, fun _ _ => List.not_mem_nil,
      Nat.le_succ _⟩
  subst hschema
  have hroot := hreaches.found _ List.mem_cons_self
  have hnode := structNode_toOption hreaches hrealises
    (Outline.fieldNodes_toOption hhints fields hrealises (hhints _ List.mem_cons_self)
      hreaches.below)
  unfold ofSchema ofOutline?
  rw [Outcome.toOption_bind]
  refine congrArg (Option.bind _) (funext fun named => ?_)
  obtain ⟨group, version⟩ := named
  dsimp only
  rw [Schema.root?, hroot]
  dsimp only
  rw [Outcome.toOption_bind, hnode]
  cases Outline.fieldNodes? fields <;> rfl

/-- Definitions of outlines that are alike are the same up to the order of required members. -/
theorem ofOutline?_alike (options : CrdOptions) (apiVersion : GroupVersion) (kind : String)
    (documentation : List String) {fields others : OutlineFields}
    (h : Outline.FieldsAlike fields others) :
    Option.Rel (fun crd crd' => crd.sortRequired = crd'.sortRequired)
      (ofOutline? options apiVersion kind documentation fields)
      (ofOutline? options apiVersion kind documentation others) := by
  unfold ofOutline?
  cases (groupVersion options { apiVersion, kind, structs := [] }).toOption with
  | none => exact .none
  | some named =>
    refine rel_map (Outline.fieldNodes?_alike h) fun own own' hown => ?_
    have hnode : (SchemaNode.ofFields own).sortRequired = (SchemaNode.ofFields own').sortRequired :=
      SchemaNode.ofFields_same hown
    have hresource : ((SchemaNode.ofFields own).asResource documentation).sortRequired =
        ((SchemaNode.ofFields own').asResource documentation).sortRequired := by
      rw [SchemaNode.sortRequired_asResource, SchemaNode.sortRequired_asResource, hnode]
    exact congrArg (fun node => ({ ofFields options kind named.1 named.2 documentation own with
      versions := [{ name := named.2, served := true, storage := true
                     schema? := some node }] } : Crd)) hresource

end Crd

end ChartSchema
