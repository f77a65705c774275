import ChartSchema.Proofs.Schema.StructTree
/-!
# What the walk gives to fields and structs

The walk gives a field one of few types: that of a struct or of a list of structs, what a hint
says, or what a scalar or the first item of a list shows. All else that a field has comes from its
key and from the place of the key, but for one case: a key that occurs again in another item of a
list may change what is said about its field, though not its type. So a property of fields is proved
for a field that is read and for one that is documented anew (`Walk.HoldsOfFields`), and needs no
look at the walk; it holds of all fields of a schema (`Schema.ofValue_isRead`). What is said about a
struct comes from one place as well.
-/

namespace ChartSchema

open Yaml (Value)

variable {ctx : DocumentContext} {P : FieldType → Prop} {Q : Field → Prop}

/-- **A property of all types that the walk gives.** -/
structure Walk.HoldsOfTypes (P : FieldType → Prop) : Prop where
  /-- It holds of the type of a mapping. -/
  struct : ∀ name, P (.single (.struct name))
  /-- It holds of the type of a list of mappings. -/
  structs : ∀ name, P (.list (.struct name))
  /-- It holds of what a hint says. -/
  hint : ∀ hint, P (.ofHint hint)
  /-- It holds of the type of a scalar. -/
  scalar : ∀ hint? v, P (scalarType hint? v)
  /-- It holds of the type of any other list. -/
  list : ∀ hint? items, P (listType hint? items)

/-- A property of all types is one of those that the walk gives. -/
theorem Walk.HoldsOfTypes.of_forall (h : ∀ type, P type) : HoldsOfTypes P :=
  ⟨fun _ => h _, fun _ => h _, fun _ => h _, fun _ _ => h _, fun _ _ => h _⟩

/-- A field with these comments in place of its own. -/
def Field.document (f : Field) (block : CommentBlock) : Field :=
  { f with documentation := block.documentation, markers := block.markers }

/-- **A property of all fields that the walk makes**, where `P` holds of the types. -/
structure Walk.HoldsOfFields (ctx : DocumentContext) (P : FieldType → Prop) (Q : Field → Prop) :
    Prop where
  /-- `P` holds of the types. -/
  types : HoldsOfTypes P
  /-- It holds of the field of a key that is read. -/
  read : ∀ key (place : Place) type, P type → Q (fieldOf ctx key (place.key key) type)
  /-- It holds of a field that is documented anew, from another place. -/
  documented : ∀ f place, Q f → Q (f.document (ctx.comments place))

/-- **A struct that the walk makes**, where `Q` holds of the fields. -/
structure Struct.IsRead (ctx : DocumentContext) (Q : Field → Prop) (s : Struct) : Prop where
  /-- `Q` holds of its fields. -/
  fields : ∀ f ∈ s.fields, Q f
  /-- It is documented by the comments at some place. -/
  documentation : ∃ place, s.documentation = (ctx.comments place).documentation

namespace Merged

variable {merged merged' : Merged}

/-- **What was merged**, where `Q` holds of the fields. -/
structure IsRead (ctx : DocumentContext) (Q : Field → Prop) (merged : Merged) : Prop where
  /-- `Q` holds of the fields. -/
  fields : ∀ m ∈ merged.fields, Q m.field
  /-- And of those of the structs. -/
  structs : ∀ s ∈ merged.structs, s.IsRead ctx Q

theorem IsRead.empty : IsRead ctx Q {} := ⟨List.forall_mem_nil _, List.forall_mem_nil _⟩

/-- A key that occurs again may document its field anew. -/
theorem IsRead.document {existing : MergedField} {key : String} {place : Place}
    {line? : Option Nat} (h : merged.IsRead ctx Q) (hQ : Walk.HoldsOfFields ctx P Q)
    (hfind : merged.find? key = some existing)
    (hdocument : merged.document existing key place (ctx.comments place) line? = .ok merged') :
    merged'.IsRead ctx Q := by
  rcases document_cases hdocument with ⟨rfl, -⟩ | ⟨rfl, -⟩
  · exact h
  · refine ⟨fun m hm => ?_, h.structs⟩
    obtain ⟨old, hold, rfl⟩ := List.mem_map.mp hm
    split
    · exact hQ.documented existing.field place (h.fields existing (of_find? hfind).1)
    · exact h.fields old hold

/-- A key that occurs for the first time brings its field and its structs. -/
theorem IsRead.push {new : MergedField} {own : List Struct} (h : merged.IsRead ctx Q)
    (hnew : Q new.field) (hown : ∀ s ∈ own, s.IsRead ctx Q) :
    IsRead ctx Q { fields := merged.fields ++ [new], structs := merged.structs ++ own } :=
  ⟨List.forall_mem_append.mpr ⟨h.fields, List.forall_mem_singleton.mpr hnew⟩,
    List.forall_mem_append.mpr ⟨h.structs, hown⟩⟩

end Merged

namespace Walk

mutual

/-- **What the walk makes of a value**: a type that it gives, and structs that it makes. The
recursion is that of the walk, through values, entries and items. -/
theorem resolve_isRead (hQ : HoldsOfFields ctx P Q) (v : Value) {key : String} {place : Place}
    {type : FieldType} {structs : List Struct} {r r' : NameRegistry}
    (h : resolve ctx key place v r = .ok ((type, structs), r')) :
    P type ∧ ∀ s ∈ structs, s.IsRead ctx Q := by
  match v with
  | .tagged tag v =>
    rw [resolve_tagged] at h
    exact resolve_isRead hQ v h
  | .mapping entries =>
    rcases resolve_mapping h with ⟨hint, -, -, rfl, rfl, -⟩ | ⟨-, name, fields, nested, -,
      hentries, rfl, rfl⟩
    · exact ⟨hQ.types.hint _, List.forall_mem_nil _⟩
    · obtain ⟨hfields, hnested⟩ := resolveEntries_isRead hQ entries hentries
      exact ⟨hQ.types.struct name, List.forall_mem_cons.mpr ⟨⟨hfields, place, rfl⟩, hnested⟩⟩
  | .sequence items =>
    rcases resolve_sequence h with ⟨-, rfl, rfl, -⟩ | ⟨name, merged, -, -, hitems, rfl, rfl⟩
    · exact ⟨hQ.types.list _ _, List.forall_mem_nil _⟩
    · have hmerged := resolveItems_isRead hQ items .empty hitems
      exact ⟨hQ.types.structs name, List.forall_mem_cons.mpr
        ⟨⟨List.forall_mem_map.mpr hmerged.fields, place, rfl⟩, hmerged.structs⟩⟩
  | .null | .bool _ | .number _ | .string _ =>
    obtain ⟨rfl, rfl, -⟩ := resolve_scalar rfl h
    exact ⟨hQ.types.scalar _ _, List.forall_mem_nil _⟩
termination_by structural v

theorem resolveEntries_isRead (hQ : HoldsOfFields ctx P Q) (entries : List (Value × Value))
    {place : Place} {fields : List Field} {structs : List Struct} {r r' : NameRegistry}
    (h : resolveEntries ctx place entries r = .ok ((fields, structs), r')) :
    (∀ f ∈ fields, Q f) ∧ ∀ s ∈ structs, s.IsRead ctx Q := by
  match entries with
  | [] =>
    obtain ⟨rfl, rfl, -⟩ := resolveEntries_nil h
    exact ⟨List.forall_mem_nil _, List.forall_mem_nil _⟩
  | (k, v) :: rest =>
    obtain ⟨key, type, own, r₁, others, nested, -, hv, hrest, rfl, rfl⟩ := resolveEntries_cons h
    obtain ⟨htype, hown⟩ := resolve_isRead hQ v hv
    obtain ⟨hfields, hnested⟩ := resolveEntries_isRead hQ rest hrest
    exact ⟨List.forall_mem_cons.mpr ⟨hQ.read key place type htype, hfields⟩,
      List.forall_mem_append.mpr ⟨hown, hnested⟩⟩
termination_by structural entries

theorem resolveItems_isRead (hQ : HoldsOfFields ctx P Q) (items : List Value) {place : Place}
    {position : Nat} {merged merged' : Merged} {r r' : NameRegistry} (hmerged : merged.IsRead ctx Q)
    (h : resolveItems ctx place position merged items r = .ok (merged', r')) :
    merged'.IsRead ctx Q := by
  match items with
  | [] =>
    obtain ⟨rfl, -⟩ := resolveItems_nil h
    exact hmerged
  | item :: rest =>
    obtain ⟨merged₁, r₁, hitem, hrest⟩ := resolveItems_cons h
    exact resolveItems_isRead hQ rest (resolveItem_isRead hQ item hmerged hitem) hrest
termination_by structural items

theorem resolveItem_isRead (hQ : HoldsOfFields ctx P Q) (item : Value) {place : Place}
    {merged merged' : Merged} {r r' : NameRegistry} (hmerged : merged.IsRead ctx Q)
    (h : resolveItem ctx place merged item r = .ok (merged', r')) : merged'.IsRead ctx Q := by
  match item with
  | .tagged tag v =>
    rw [resolveItem_tagged] at h
    exact resolveItem_isRead hQ v hmerged h
  | .mapping entries =>
    rw [resolveItem_mapping] at h
    exact mergeEntries_isRead hQ entries hmerged h
  | .null | .bool _ | .number _ | .string _ | .sequence _ =>
    obtain ⟨rfl, -⟩ := resolveItem_other rfl h
    exact hmerged
termination_by structural item

theorem mergeEntries_isRead (hQ : HoldsOfFields ctx P Q) (entries : List (Value × Value))
    {place : Place} {merged merged' : Merged} {r r' : NameRegistry} (hmerged : merged.IsRead ctx Q)
    (h : mergeEntries ctx place merged entries r = .ok (merged', r')) :
    merged'.IsRead ctx Q := by
  match entries with
  | [] =>
    obtain ⟨rfl, -⟩ := mergeEntries_nil h
    exact hmerged
  | (k, v) :: rest =>
    obtain ⟨key, -, ⟨existing, merged₁, hfind, hdocument, hrest⟩ |
      ⟨type, own, r₁, -, hv, hrest⟩⟩ := mergeEntries_cons h
    · exact mergeEntries_isRead hQ rest (hmerged.document hQ hfind hdocument) hrest
    · obtain ⟨htype, hown⟩ := resolve_isRead hQ v hv
      have hnew : Q (newField ctx key (place.key key) type).field := hQ.read key place type htype
      exact mergeEntries_isRead hQ rest (hmerged.push hnew hown) hrest
termination_by structural entries

end

theorem resolveRoot_isRead (hQ : HoldsOfFields ctx P Q) (entries : List (Value × Value))
    {place : Place} {fields : List Field} {structs : List Struct} {r r' : NameRegistry}
    (h : resolveRoot ctx place entries r = .ok ((fields, structs), r')) :
    (∀ f ∈ fields, Q f) ∧ ∀ s ∈ structs, s.IsRead ctx Q := by
  induction entries generalizing r fields structs with
  | nil =>
    obtain ⟨rfl, rfl, -⟩ := resolveRoot_nil h
    exact ⟨List.forall_mem_nil _, List.forall_mem_nil _⟩
  | cons entry rest ih =>
    obtain ⟨key, -, ⟨-, h⟩ | ⟨type, own, r₁, others, nested, -, hv, hrest, rfl, rfl⟩⟩ :=
      resolveRoot_cons h
    · exact ih h
    · obtain ⟨htype, hown⟩ := resolve_isRead hQ _ hv
      obtain ⟨hfields, hnested⟩ := ih hrest
      exact ⟨List.forall_mem_cons.mpr ⟨hQ.read key place type htype, hfields⟩,
        List.forall_mem_append.mpr ⟨hown, hnested⟩⟩

end Walk

/-- **What holds of the fields that the walk makes holds of all fields of a schema**, and what is
said about a struct is said at some place. -/
theorem Schema.ofValue_isRead (hQ : Walk.HoldsOfFields ctx P Q) {v : Value} {schema : Schema}
    (h : ofValue ctx v = .ok schema) : ∀ s ∈ schema.structs, s.IsRead ctx Q := by
  obtain ⟨root, kind, apiVersion, fields, nested, r', -, -, -, hrun, rfl⟩ := ofValue_eq_ok h
  obtain ⟨hfields, hnested⟩ := Walk.resolveRoot_isRead hQ root hrun
  exact List.forall_mem_cons.mpr ⟨⟨hfields, (Place.root kind).key "kind", rfl⟩, hnested⟩

/-- A property holds of the types of all fields of these structs. -/
def HoldsOfFields (P : FieldType → Prop) (structs : List Struct) : Prop :=
  ∀ s ∈ structs, ∀ f ∈ s.fields, P f.type

/-- **What holds of the types that the walk gives holds of the types of all fields** of a schema
that is built from a document. -/
theorem Schema.ofValue_types (hP : Walk.HoldsOfTypes P) {ctx : DocumentContext} {v : Value}
    {schema : Schema} (h : ofValue ctx v = .ok schema) : HoldsOfFields P schema.structs := by
  have hfields : Walk.HoldsOfFields ctx P (P ·.type) := ⟨hP, fun _ _ _ => id, fun _ _ => id⟩
  exact fun s hs => (ofValue_isRead hfields h s hs).fields

end ChartSchema
