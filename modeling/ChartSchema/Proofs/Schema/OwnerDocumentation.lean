import ChartSchema.Proofs.Schema.Origins
import ChartSchema.Proofs.Schema.StructFields
/-!
# What documents a struct

A struct is documented by the comments above the key that it is read at, and so is the field of that
key. The two are made at different moments. In a list the field may lack comments where its key is
read first and get them from a later item, when the struct is there already and stays as it is. This
is the only way in which they come apart, and then the struct is not documented at all
(`Schema.documentation_of_struct?`).
-/

namespace ChartSchema

open Yaml (Value)
open Outline (structType)

/-- **A name is that of a list's items**: it is the element of this type, or of that of a field. -/
def NamesItems (type : FieldType) (structs : List Struct) (name : String) : Prop :=
  type = .list (.struct name) ∨ ∃ s ∈ structs, ∃ f ∈ s.fields, f.type = .list (.struct name)

/-- **Structs are documented like their owners**, the fields that refer to them, or not at all where
the owner is a field of a list's items. -/
def OwnersDocument (type : FieldType) (structs : List Struct) : Prop :=
  ∀ holder ∈ structs, ∀ f ∈ holder.fields, ∀ name, f.struct? = some name →
    ∃ s ∈ structs, s.name = name ∧
      (s.documentation = f.documentation ∨
        s.documentation = [] ∧ NamesItems type structs holder.name)

/-- **The struct of a type is documented** by these lines. -/
def HeadDocumented (documentation : List String) (type : FieldType) (structs : List Struct) :
    Prop :=
  ∀ name, type.base.struct? = some name →
    ∃ s ∈ structs, s.name = name ∧ s.documentation = documentation

theorem Outline.struct?_structType (isList : Bool) (name : String) :
    (structType isList name).base.struct? = some name := by
  cases isList <;> rfl

variable {ctx : DocumentContext} {kind : String} {path : SourcePath} {v : Value} {isList : Bool}
  {readings : List Reading} {s : Struct}

/-- The items of a list that is read below are those of a list. -/
theorem NamesItems.of_reading (hs : s.IsMadeFrom ctx kind path v isList readings) (type : FieldType)
    {x : Reading} (hx : x ∈ readings) {name : String} (h : NamesItems x.type x.structs name) :
    NamesItems type (s :: readings.flatMap (·.structs)) name := by
  obtain ⟨block, hfields, -⟩ := hs.fields
  rcases h with htype | ⟨t, ht, f, hf, htype⟩
  · exact .inr ⟨s, List.mem_cons_self, x.field ctx (block x),
      hfields ▸ List.mem_map_of_mem (f := fun x => x.field ctx (block x)) hx, htype⟩
  · exact .inr ⟨t, List.mem_cons_of_mem _ (List.mem_flatMap.mpr ⟨x, hx, ht⟩), f, hf, htype⟩

/-- **A struct and those behind it are documented like their owners** if those behind are, and the
struct of each key that is read is documented by the comments above the key. -/
theorem OwnersDocument.cons (hs : s.IsMadeFrom ctx kind path v isList readings)
    (h : ∀ x ∈ readings, HeadDocumented (ctx.comments x.place).documentation x.type x.structs ∧
      OwnersDocument x.type x.structs) :
    OwnersDocument (structType isList s.name) (s :: readings.flatMap (·.structs)) := by
  have hbehind {x : Reading} (hx : x ∈ readings) {t : Struct} (ht : t ∈ x.structs) :
      t ∈ s :: readings.flatMap (·.structs) :=
    List.mem_cons_of_mem _ (List.mem_flatMap.mpr ⟨x, hx, ht⟩)
  intro holder hholder f hf name hname
  rcases List.mem_cons.mp hholder with rfl | hholder
  · -- The field of a key that was read: its struct has the comments from there.
    obtain ⟨block, hfields, hblock⟩ := hs.fields
    rw [hfields] at hf
    obtain ⟨x, hx, rfl⟩ := List.mem_map.mp hf
    obtain ⟨t, ht, htname, hdocumentation⟩ := (h x hx).1 name hname
    refine ⟨t, hbehind hx ht, htname, ?_⟩
    rcases hblock x hx with hsame | ⟨rfl, hempty⟩
    · exact .inl (hdocumentation.trans (congrArg CommentBlock.documentation hsame.symm))
    · exact .inr ⟨hdocumentation.trans (DocumentContext.comments_of_isEmpty hempty).1, .inl rfl⟩
  · -- A field further down: its struct is behind, and so are the items that its holder describes.
    obtain ⟨x, hx, hholder⟩ := List.mem_flatMap.mp hholder
    obtain ⟨t, ht, htname, hdocumentation⟩ := (h x hx).2 holder hholder f hf name hname
    exact ⟨t, hbehind hx ht, htname,
      hdocumentation.imp_right fun hnone => ⟨hnone.1, hnone.2.of_reading hs _ hx⟩⟩

/-- **What is made of a value is documented**: its struct by the comments above it, and the structs
behind like their owners. -/
theorem Walk.resolve_documented {key : String} {type : FieldType} {structs : List Struct}
    {r r' : NameRegistry}
    (h : resolve ctx key (Place.ofPath kind path) v r = .ok ((type, structs), r')) :
    HeadDocumented (ctx.comments (Place.ofPath kind path)).documentation type structs ∧
      OwnersDocument type structs := by
  refine resolve_induction (motive := fun path _ type structs =>
    HeadDocumented (ctx.comments (Place.ofPath kind path)).documentation type structs ∧
      OwnersDocument type structs) (fun path v type _ htype => ⟨fun name hname => ?_, nofun⟩)
    (fun path v isList s readings hmade hdocumentation hbelow => ⟨fun name hname => ?_, ?_⟩) v h
  · rw [FieldType.struct?_base_of_references htype] at hname
    cases hname
  · rw [Outline.struct?_structType] at hname
    exact ⟨s, List.mem_cons_self, Option.some.inj hname, hdocumentation⟩
  · refine .cons hmade fun x hx => ?_
    obtain ⟨path', hplace, -⟩ := hmade.reads.below x hx
    exact hplace ▸ hbelow x hx path' hplace

namespace Schema

variable {schema : Schema}

/-- The structs of a schema are documented like their owners. -/
theorem ofValue_ownersDocument (h : ofValue ctx v = .ok schema) :
    OwnersDocument (.single (.struct schema.kind)) schema.structs := by
  obtain ⟨root, s, readings, r, r', -, hstructs, hname, hmade, hturn⟩ := ofValue_isMadeFrom h
  rw [hstructs, ← hname]
  refine .cons hmade fun x hx => ?_
  obtain ⟨path, hplace, -⟩ := hmade.reads.below x hx
  obtain ⟨r₁, r₂, hread⟩ := hturn.exists_resolve x hx
  rw [hplace] at hread ⊢
  exact Walk.resolve_documented hread

/-- **A struct is documented like its owner, or not at all.** Whatever the document, the comments
and the options, if a schema is built and one of its fields refers to a struct, the two have the
same documentation, unless the field is one of a list's items: then the struct may have none. -/
theorem documentation_of_struct? (h : ofValue ctx v = .ok schema) {holder s : Struct} {f : Field}
    (hholder : holder ∈ schema.structs) (hf : f ∈ holder.fields) (hs : s ∈ schema.structs)
    (hname : f.struct? = some s.name) :
    s.documentation = f.documentation ∨
      s.documentation = [] ∧
        ∃ t ∈ schema.structs, ∃ g ∈ t.fields, g.type = .list (.struct holder.name) := by
  obtain ⟨t, ht, htname, hdocumentation⟩ := ofValue_ownersDocument h holder hholder f hf _ hname
  obtain rfl := List.inj_on_of_nodup_map (ofValue_structs h).1 ht hs htname
  refine hdocumentation.imp_right fun ⟨hnone, hitems⟩ => ⟨hnone, ?_⟩
  exact hitems.resolve_left nofun

/-- A list of two pods, whose probe is documented by the second one. -/
def probeDocument : Value :=
  .mapping [(.string "kind", .string "Demo"),
    (.string "pods", .sequence
      [.mapping [(.string "probe", .mapping [(.string "path", .string "/healthz")])],
        .mapping [(.string "probe", .mapping [(.string "path", .string "/ready")])]])]

/-- The comments in that document. -/
def probeComments : DocumentContext :=
  ⟨{}, ⟨[([.key "pods", .index 1, .key "probe"], ⟨6, ["# Whether it is up."]⟩)]⟩⟩

-- The probe of the pods is documented and its struct is not.
example : (ofValue probeComments probeDocument).toOption.map (fun schema =>
    schema.structs.map fun s => (s.name, s.documentation, s.fields.map (·.documentation))) =
      some [("Demo", [], [[]]), ("PodsSpec", [], [["Whether it is up."]]),
        ("ProbeSpec", [], [[]])] := by
  decide +kernel

end Schema
end ChartSchema
