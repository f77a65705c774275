import ChartSchema.Schema.Infer
import Mathlib.Data.List.Basic
/-!
# What a step of the walk does

A step of the walk takes names from a registry and may fail. For each function of the walk this
module says what a run that succeeds consists of, so that nothing else has to look into the
definitions.
-/

namespace ChartSchema

open Yaml (Value)

namespace Walk

variable {α β : Type} {r r' : NameRegistry}

/-! ## Runs of composed steps -/

/-- A run of two steps is a run of the first and one of the second. -/
theorem bind_eq_ok {x : Walk α} {f : α → Walk β} {b : β} :
    (x >>= f) r = .ok (b, r') ↔ ∃ a r₁, x r = .ok (a, r₁) ∧ f a r₁ = .ok (b, r') := by
  show (x r >>= fun p => f p.1 p.2) = .ok (b, r') ↔ _
  cases hx : x r with
  | error e => exact ⟨(nomatch ·), fun ⟨_, _, h, _⟩ => (nomatch h)⟩
  | ok p =>
    refine ⟨fun h => ⟨p.1, p.2, rfl, h⟩, fun ⟨a, r₁, hp, h⟩ => ?_⟩
    cases hp
    exact h

/-- A step that only gives a value leaves the registry as it is. -/
theorem pure_eq_ok {a b : α} : (pure a : Walk α) r = .ok (b, r') ↔ a = b ∧ r = r' := by
  show Except.ok (a, r) = .ok (b, r') ↔ _
  rw [Except.ok.injEq, Prod.mk.injEq]

/-- A step that only may fail leaves the registry as it is. -/
theorem lift_eq_ok {x : Except SchemaError α} {b : α} :
    (liftM x : Walk α) r = .ok (b, r') ↔ x = .ok b ∧ r = r' := by
  show (x >>= fun a => pure (a, r)) = .ok (b, r') ↔ _
  cases x with
  | error e => exact ⟨(nomatch ·), fun ⟨h, _⟩ => (nomatch h)⟩
  | ok a =>
    show Except.ok (a, r) = .ok (b, r') ↔ _
    rw [Except.ok.injEq, Prod.mk.injEq, Except.ok.injEq]

variable {ctx : DocumentContext} {key : String} {place : Place}
  {type : FieldType} {structs : List Struct}

theorem takeName_eq_ok {name : String} :
    takeName ctx key place r = .ok (name, r') ↔
      (r.uniqueName ctx.options key place.parentKey) = (name, r') := by
  rw [takeName, Except.ok.injEq]

theorem key_eq_ok {k : Value} : Walk.key place k = .ok key ↔ keyText? k = some key := by
  rw [Walk.key]
  cases keyText? k with
  | none => exact ⟨(nomatch ·), (nomatch ·)⟩
  | some text => rw [Except.ok.injEq, Option.some.injEq]

/-! ## Runs of the walk over a value -/

theorem resolve_tagged (tag : String) (v : Value) :
    resolve ctx key place (.tagged tag v) = resolve ctx key place v := by
  rw [resolve]

/-- A run that makes a struct of entries takes a name and goes through the entries. -/
theorem makeStruct_eq_ok {entries : List (Value × Value)}
    (h : (takeName ctx key place >>= fun name => resolveEntries ctx place entries >>= fun p =>
      pure (FieldType.single (.struct name),
        { name, documentation := (ctx.comments place).documentation, fields := p.1 } :: p.2) :
          Walk (FieldType × List Struct)) r = .ok ((type, structs), r')) :
    ∃ name fields nested,
      (r.uniqueName ctx.options key place.parentKey).1 = name ∧
      resolveEntries ctx place entries (r.uniqueName ctx.options key place.parentKey).2
        = .ok ((fields, nested), r') ∧
      type = .single (.struct name) ∧
      structs = { name, documentation := (ctx.comments place).documentation, fields }
        :: nested := by
  obtain ⟨name, r₁, hname, h⟩ := bind_eq_ok.mp h
  obtain ⟨⟨fields, nested⟩, r₂, hentries, h⟩ := bind_eq_ok.mp h
  obtain ⟨hout, rfl⟩ := pure_eq_ok.mp h
  cases hout
  rw [takeName_eq_ok] at hname
  exact ⟨name, fields, nested, by rw [hname], by rw [hname]; exact hentries, rfl, rfl⟩

/-- An empty mapping under a hint has the type that the hint says. Any other mapping makes a
struct of its entries. -/
theorem resolve_mapping {entries : List (Value × Value)}
    (h : resolve ctx key place (.mapping entries) r = .ok ((type, structs), r')) :
    (∃ hint, entries = [] ∧ (ctx.comments place).typeHint = some hint ∧
        type = .ofHint hint.toList ∧ structs = [] ∧ r' = r) ∨
      (entries = [] → (ctx.comments place).typeHint = none) ∧
        ∃ name fields nested,
          (r.uniqueName ctx.options key place.parentKey).1 = name ∧
          resolveEntries ctx place entries (r.uniqueName ctx.options key place.parentKey).2
            = .ok ((fields, nested), r') ∧
          type = .single (.struct name) ∧
          structs = { name, documentation := (ctx.comments place).documentation, fields }
            :: nested := by
  rw [resolve] at h
  cases hhint : (ctx.comments place).typeHint with
  | none =>
    rw [hhint] at h
    exact Or.inr ⟨fun _ => rfl, makeStruct_eq_ok (by cases entries <;> exact h)⟩
  | some hint =>
    rw [hhint] at h
    cases entries with
    | nil =>
      obtain ⟨hout, rfl⟩ := pure_eq_ok.mp h
      cases hout
      exact Or.inl ⟨hint, rfl, rfl, rfl, rfl, rfl⟩
    | cons entry rest => exact Or.inr ⟨(nomatch ·), makeStruct_eq_ok h⟩

/-- A list that starts with a mapping makes a struct of the entries of its mappings. Any other
list makes none. -/
theorem resolve_sequence {items : List Value}
    (h : resolve ctx key place (.sequence items) r = .ok ((type, structs), r')) :
    (startsWithMapping items = false ∧ type = listType (ctx.comments place).typeHint items ∧
        structs = [] ∧ r' = r) ∨
      ∃ name merged, startsWithMapping items = true ∧
        (r.uniqueName ctx.options key place.parentKey).1 = name ∧
        resolveItems ctx place 0 {} items (r.uniqueName ctx.options key place.parentKey).2
          = .ok (merged, r') ∧
        type = .list (.struct name) ∧
        structs = { name, documentation := (ctx.comments place).documentation,
                    fields := merged.fields.map (·.field) } :: merged.structs := by
  rw [resolve] at h
  split at h
  · next hstart =>
    obtain ⟨name, r₁, hname, h⟩ := bind_eq_ok.mp h
    obtain ⟨merged, r₂, hitems, h⟩ := bind_eq_ok.mp h
    obtain ⟨hout, rfl⟩ := pure_eq_ok.mp h
    cases hout
    rw [takeName_eq_ok] at hname
    exact Or.inr ⟨name, merged, hstart, by rw [hname], by rw [hname]; exact hitems, rfl, rfl⟩
  · next hstart =>
    obtain ⟨hout, rfl⟩ := pure_eq_ok.mp h
    cases hout
    exact Or.inl ⟨Bool.eq_false_iff.mpr hstart, rfl, rfl, rfl⟩

/-- Whether a value is neither a collection nor tagged. -/
def isScalar : Value → Bool
  | .null | .bool _ | .number _ | .string _ => true
  | .sequence _ | .mapping _ | .tagged .. => false

theorem resolve_scalar {v : Value} (hv : isScalar v = true)
    (h : resolve ctx key place v r = .ok ((type, structs), r')) :
    type = scalarType (ctx.comments place).typeHint v ∧ structs = [] ∧ r' = r := by
  cases v with
  | null | bool _ | number _ | string _ =>
    rw [resolve] at h
    · obtain ⟨hout, rfl⟩ := pure_eq_ok.mp h
      cases hout
      exact ⟨rfl, rfl, rfl⟩
    all_goals intros; contradiction
  | sequence _ | mapping _ | tagged _ _ => exact nomatch hv

/-! ## Lists whose first items look the same -/

/-- **Two values look the same** as the first item of a list: both are mappings or neither is, and
they show the same type. -/
structure LooksLike (v w : Value) : Prop where
  /-- Both are mappings, or neither is. -/
  isMapping : ChartSchema.isMapping v = ChartSchema.isMapping w
  /-- They show the same type. -/
  type : TypeRef.ofValue v = TypeRef.ofValue w

section

variable {items others : List Value}

theorem startsWithMapping_eq (h : Option.Rel LooksLike items.head? others.head?) :
    startsWithMapping items = startsWithMapping others := by
  match items, others, h with
  | [], [], _ => rfl
  | _ :: _, _ :: _, .some h => exact h.isMapping

theorem listType_eq (h : Option.Rel LooksLike items.head? others.head?) (hint? : Option String) :
    listType hint? items = listType hint? others := by
  match items, others, h with
  | [], [], _ => rfl
  | _ :: _, _ :: _, .some h =>
    unfold listType
    dsimp only
    rw [h.type]

end

/-! ## Runs over entries and items -/

theorem resolveEntries_nil {fields : List Field}
    (h : resolveEntries ctx place [] r = .ok ((fields, structs), r')) :
    fields = [] ∧ structs = [] ∧ r' = r := by
  rw [resolveEntries] at h
  obtain ⟨hout, rfl⟩ := pure_eq_ok.mp h
  cases hout
  exact ⟨rfl, rfl, rfl⟩

/-- The fields of entries are that of the first entry and those of the others, and so are the
structs. -/
theorem resolveEntries_cons {k v : Value} {rest : List (Value × Value)} {fields : List Field}
    (h : resolveEntries ctx place ((k, v) :: rest) r = .ok ((fields, structs), r')) :
    ∃ key type own r₁ others nested,
      keyText? k = some key ∧
      resolve ctx key (place.key key) v r = .ok ((type, own), r₁) ∧
      resolveEntries ctx place rest r₁ = .ok ((others, nested), r') ∧
      fields = fieldOf ctx key (place.key key) type :: others ∧ structs = own ++ nested := by
  rw [resolveEntries] at h
  obtain ⟨key, r₁, hlift, h⟩ := bind_eq_ok.mp h
  obtain ⟨hkey, rfl⟩ := lift_eq_ok.mp hlift
  obtain ⟨⟨type, own⟩, r₁, hv, h⟩ := bind_eq_ok.mp h
  obtain ⟨⟨others, nested⟩, r₂, hrest, h⟩ := bind_eq_ok.mp h
  obtain ⟨hout, rfl⟩ := pure_eq_ok.mp h
  cases hout
  exact ⟨key, type, own, r₁, others, nested, key_eq_ok.mp hkey, hv, hrest, rfl, rfl⟩

/-- The fields of the resource are those of the entries whose key is not reserved. -/
theorem resolveRoot_cons {k v : Value} {rest : List (Value × Value)} {fields : List Field}
    (h : resolveRoot ctx place ((k, v) :: rest) r = .ok ((fields, structs), r')) :
    ∃ key, keyText? k = some key ∧
      ((reservedKeys.contains key = true ∧
          resolveRoot ctx place rest r = .ok ((fields, structs), r')) ∨
        ∃ type own r₁ others nested, reservedKeys.contains key = false ∧
          resolve ctx key (place.key key) v r = .ok ((type, own), r₁) ∧
          resolveRoot ctx place rest r₁ = .ok ((others, nested), r') ∧
          fields = fieldOf ctx key (place.key key) type :: others ∧
          structs = own ++ nested) := by
  rw [resolveRoot] at h
  obtain ⟨key, r₁, hlift, h⟩ := bind_eq_ok.mp h
  obtain ⟨hkey, rfl⟩ := lift_eq_ok.mp hlift
  refine ⟨key, key_eq_ok.mp hkey, ?_⟩
  split at h
  · next hreserved => exact Or.inl ⟨hreserved, h⟩
  · next hreserved =>
    obtain ⟨⟨type, own⟩, r₁, hv, h⟩ := bind_eq_ok.mp h
    obtain ⟨⟨others, nested⟩, r₂, hrest, h⟩ := bind_eq_ok.mp h
    obtain ⟨hout, rfl⟩ := pure_eq_ok.mp h
    cases hout
    exact Or.inr ⟨type, own, r₁, others, nested, Bool.eq_false_iff.mpr hreserved, hv, hrest,
      rfl, rfl⟩

theorem resolveRoot_nil {fields : List Field}
    (h : resolveRoot ctx place [] r = .ok ((fields, structs), r')) :
    fields = [] ∧ structs = [] ∧ r' = r := by
  rw [resolveRoot] at h
  obtain ⟨hout, rfl⟩ := pure_eq_ok.mp h
  cases hout
  exact ⟨rfl, rfl, rfl⟩

variable {position : Nat} {merged merged' : Merged}

theorem resolveItems_nil (h : resolveItems ctx place position merged [] r = .ok (merged', r')) :
    merged' = merged ∧ r' = r := by
  rw [resolveItems] at h
  obtain ⟨rfl, rfl⟩ := pure_eq_ok.mp h
  exact ⟨rfl, rfl⟩

theorem resolveItems_cons {item : Value} {rest : List Value}
    (h : resolveItems ctx place position merged (item :: rest) r = .ok (merged', r')) :
    ∃ merged₁ r₁, resolveItem ctx (place.index position) merged item r = .ok (merged₁, r₁) ∧
      resolveItems ctx place (position + 1) merged₁ rest r₁ = .ok (merged', r') := by
  rw [resolveItems] at h
  exact bind_eq_ok.mp h

theorem resolveItem_tagged (tag : String) (v : Value) :
    resolveItem ctx place merged (.tagged tag v) = resolveItem ctx place merged v := by
  rw [resolveItem]

/-- The entries of an item that is a mapping are merged. -/
theorem resolveItem_mapping (entries : List (Value × Value)) :
    resolveItem ctx place merged (.mapping entries) = mergeEntries ctx place merged entries := by
  rw [resolveItem]

theorem resolveItem_other {v : Value} (hv : isMapping v = false)
    (h : resolveItem ctx place merged v r = .ok (merged', r')) : merged' = merged ∧ r' = r := by
  match v with
  | .tagged tag v =>
    rw [resolveItem_tagged] at h
    exact resolveItem_other (v := v) hv h
  | .mapping entries => exact nomatch hv
  | .null | .bool _ | .number _ | .string _ | .sequence _ =>
    rw [resolveItem] at h
    · obtain ⟨rfl, rfl⟩ := pure_eq_ok.mp h
      exact ⟨rfl, rfl⟩
    all_goals intros; contradiction
termination_by structural v

theorem mergeEntries_nil (h : mergeEntries ctx place merged [] r = .ok (merged', r')) :
    merged' = merged ∧ r' = r := by
  rw [mergeEntries] at h
  obtain ⟨rfl, rfl⟩ := pure_eq_ok.mp h
  exact ⟨rfl, rfl⟩

/-- The field of a key that occurs for the first time. -/
def newField (ctx : DocumentContext) (key : String) (place : Place) (type : FieldType) :
    MergedField :=
  { field := fieldOf ctx key place type, comments := (ctx.comments place).lines }

/-- The key of the first entry has a field, which the entry may document, or the entry makes
one. -/
theorem mergeEntries_cons {k v : Value} {rest : List (Value × Value)}
    (h : mergeEntries ctx place merged ((k, v) :: rest) r = .ok (merged', r')) :
    ∃ key, keyText? k = some key ∧
      ((∃ existing merged₁, merged.find? key = some existing ∧
          merged.document existing key (place.key key) (ctx.comments (place.key key))
            (ctx.sources.line? (place.key key).segments) = .ok merged₁ ∧
          mergeEntries ctx place merged₁ rest r = .ok (merged', r')) ∨
        ∃ type own r₁, merged.find? key = none ∧
          resolve ctx key (place.key key) v r = .ok ((type, own), r₁) ∧
          mergeEntries ctx place
            { fields := merged.fields ++ [newField ctx key (place.key key) type]
              structs := merged.structs ++ own } rest r₁ = .ok (merged', r')) := by
  rw [mergeEntries] at h
  obtain ⟨key, r₁, hlift, h⟩ := bind_eq_ok.mp h
  obtain ⟨hkey, rfl⟩ := lift_eq_ok.mp hlift
  refine ⟨key, key_eq_ok.mp hkey, ?_⟩
  cases hfind : merged.find? key with
  | some existing =>
    rw [hfind] at h
    obtain ⟨merged₁, r₁, hlift, h⟩ := bind_eq_ok.mp h
    obtain ⟨hdocument, rfl⟩ := lift_eq_ok.mp hlift
    exact Or.inl ⟨existing, merged₁, rfl, hdocument, h⟩
  | none =>
    rw [hfind] at h
    obtain ⟨⟨type, own⟩, r₁, hv, h⟩ := bind_eq_ok.mp h
    exact Or.inr ⟨type, own, r₁, rfl, hv, h⟩

end Walk

/-- Another occurrence of a key changes nothing, or documents a field that nothing documented. -/
theorem Merged.document_cases {merged merged' : Merged} {existing : MergedField} {key : String}
    {place : Place} {block : CommentBlock} {line? : Option Nat}
    (h : merged.document existing key place block line? = .ok merged') :
    (merged' = merged ∧
        (block.isEmpty = true ∨ existing.comments ≠ [] ∧ existing.comments = block.lines)) ∨
      (merged' = merged.replace key
          { field := { existing.field with
              documentation := block.documentation, markers := block.markers }
            comments := block.lines } ∧
        block.isEmpty = false ∧ existing.comments = []) := by
  unfold Merged.document at h
  split at h
  · next hempty => exact .inl ⟨(Except.ok.inj h).symm, .inl hempty⟩
  · next hblock =>
    split at h
    · next hsilent =>
      exact .inr ⟨(Except.ok.inj h).symm, Bool.eq_false_iff.mpr hblock, List.isEmpty_iff.mp hsilent⟩
    · next hsaid =>
      split at h
      · cases h
      · next hagree =>
        exact .inl ⟨(Except.ok.inj h).symm,
          .inr ⟨mt List.isEmpty_iff.mpr hsaid, not_not.mp hagree⟩⟩

end ChartSchema
