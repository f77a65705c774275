import ChartSchema.Proofs.Schema.Sites
/-!
# The fields that refer to structs

Every struct of a schema but the resource is referred to from one field (`Schema.IsStructTree`), so
the structs can be told by their fields: by the key of the field, by the key above it, and by the
keys that lead to it. This module ties these fields to the sites of the document.

A `Link` is a field with the struct that holds it, the struct that it refers to and the site of the
document where the latter stands. `Schema.exists_linked` lists the links of a schema: their fields
are all that refer to a struct, their structs are all but the resource, and their sites are those
of the document. From it follows that the census counts what the walk creates: a name is wanted as
often as there are fields whose struct wants it.
-/

namespace ChartSchema

open Yaml (Value)

/-- The fields of a struct that refer to structs, each with the struct itself. -/
def Struct.structFields (s : Struct) : List (Struct × Field) :=
  (s.fields.map (s, ·)).filter (·.2.struct?.isSome)

namespace Schema

/-- **The fields that refer to a struct**, each with the struct that holds it. -/
def structFields (schema : Schema) : List (Struct × Field) :=
  schema.fields.filter (·.2.struct?.isSome)

/-- The key above the fields of a struct: that of the field which refers to the struct, or the kind
for the fields of the resource. -/
def keyAbove (schema : Schema) (s : Struct) : String :=
  match schema.structFields.find? (·.2.struct? == some s.name) with
  | some (_, f) => f.sourceKey
  | none => schema.kind

/-- Whether a struct wants a name: it is the one that the key of the field referring to it
gives. -/
def derives (schema : Schema) (options : BuildOptions) (name : String) (s : Struct) : Bool :=
  schema.structFields.any fun (_, f) =>
    f.struct? == some s.name && structName options f.sourceKey == name

/-- **The keys that lead to a struct**, innermost first: the kind leads to the resource, and the
key of a field leads on to the struct that the field refers to. -/
inductive IsAt (schema : Schema) : List String → Struct → Prop
  /-- The resource. -/
  | root {s : Struct} : schema.structs.head? = some s → IsAt schema [schema.kind] s
  /-- A struct below another. -/
  | field {keys : List String} {s t : Struct} {f : Field} :
    IsAt schema keys s → f ∈ s.fields → f.struct? = some t.name → t ∈ schema.structs →
      IsAt schema (f.sourceKey :: keys) t

variable {schema : Schema}

/-- A field refers to a struct if it is a field whose type is one. -/
theorem mem_structFields {s : Struct} {f : Field} :
    (s, f) ∈ schema.structFields ↔ s ∈ schema.structs ∧ f ∈ s.fields ∧ f.struct?.isSome := by
  rw [structFields, fields, List.mem_filter, List.mem_flatMap]
  constructor
  · rintro ⟨⟨s', hs, hf⟩, hstruct⟩
    obtain ⟨f', hf, hpair⟩ := List.mem_map.mp hf
    cases hpair
    exact ⟨hs, hf, hstruct⟩
  · rintro ⟨hs, hf, hstruct⟩
    exact ⟨⟨s, hs, List.mem_map_of_mem hf⟩, hstruct⟩

theorem structFields_eq_flatMap (schema : Schema) :
    schema.structFields = schema.structs.flatMap Struct.structFields := by
  rw [structFields, fields, List.filter_flatMap]
  rfl

theorem IsAt.mem {keys : List String} {s : Struct} (h : schema.IsAt keys s) :
    s ∈ schema.structs := by
  cases h with
  | root hhead => exact List.mem_of_head? hhead
  | field _ _ _ ht => exact ht

/-! ## References in a tree -/

namespace IsStructTree

/-- The kind and the names that the fields refer to are all different. -/
theorem references_nodup (h : schema.IsStructTree) :
    (schema.kind :: schema.fields.flatMap (·.2.type.references)).Nodup := by
  have hperm := h.inOrder.names_perm
  rw [references_eq_flatMap_fields] at hperm
  exact hperm.nodup_iff.mp h.names_nodup

theorem mem_references {f : Field} {name : String} (h : f.struct? = some name) :
    name ∈ f.type.references := by
  rw [Field.struct?] at h
  rw [← FieldType.references_base]
  cases hbase : f.type.base with
  | struct own =>
    rw [hbase] at h
    exact List.mem_singleton.mpr (Option.some.inj h).symm
  | _ => rw [hbase] at h; exact nomatch h

/-- **No field refers to the resource.** -/
theorem struct?_ne_kind (h : schema.IsStructTree) {p : Struct × Field}
    (hp : p ∈ schema.structFields) : p.2.struct? ≠ some schema.kind := by
  intro hkind
  refine (List.nodup_cons.mp h.references_nodup).1 (List.mem_flatMap.mpr ⟨p, ?_, ?_⟩)
  · exact List.mem_of_mem_filter hp
  · exact mem_references hkind

/-- **A struct is referred to from one field only.** The list of all references has no name twice,
and two fields would have this one in common. -/
theorem eq_of_struct? (h : schema.IsStructTree) {p q : Struct × Field} {name : String}
    (hp : p ∈ schema.structFields) (hq : q ∈ schema.structFields)
    (hpname : p.2.struct? = some name) (hqname : q.2.struct? = some name) : p = q := by
  by_contra hne
  have hdisjoint := (List.nodup_flatMap.mp (List.nodup_cons.mp h.references_nodup).2).2
  have : Std.Symm (List.Disjoint.onFun fun p : Struct × Field => p.2.type.references) :=
    ⟨fun _ _ hxy => hxy.symm⟩
  exact hdisjoint.forall (List.mem_of_mem_filter hp) (List.mem_of_mem_filter hq) hne
    (mem_references hpname) (mem_references hqname)

theorem name_of_head? (h : schema.IsStructTree) {s : Struct}
    (hs : schema.structs.head? = some s) : s.name = schema.kind := by
  have hhead := h.head_name
  rw [hs] at hhead
  exact Option.some.inj hhead

/-- The field below the struct at some keys is one that refers to a struct. -/
theorem mem_structFields_of_isAt {keys : List String} {s : Struct} {f : Field} {name : String}
    (hs : schema.IsAt keys s) (hf : f ∈ s.fields) (hstruct : f.struct? = some name) :
    (s, f) ∈ schema.structFields :=
  mem_structFields.mpr ⟨hs.mem, hf, Option.isSome_iff_exists.mpr ⟨name, hstruct⟩⟩

/-- **Only one list of keys leads to a struct.** The last step is the only field that refers to it,
and the struct that has this field is reached in one way only, by induction. -/
theorem isAt_unique (h : schema.IsStructTree) {keys others : List String} {s : Struct}
    (hs : schema.IsAt keys s) (hs' : schema.IsAt others s) : keys = others := by
  induction hs generalizing others with
  | root hhead =>
    cases hs' with
    | root _ => rfl
    | field hholder hf hstruct _ =>
      rw [h.name_of_head? hhead] at hstruct
      exact absurd hstruct (h.struct?_ne_kind (mem_structFields_of_isAt hholder hf hstruct))
  | field hholder hf hstruct _ ih =>
    have hfield := mem_structFields_of_isAt hholder hf hstruct
    cases hs' with
    | root hhead =>
      rw [h.name_of_head? hhead] at hstruct
      exact absurd hstruct (h.struct?_ne_kind hfield)
    | field hholder' hf' hstruct' _ =>
      -- The same field refers to it, so both ways go through the same holder.
      cases h.eq_of_struct? hfield (mem_structFields_of_isAt hholder' hf' hstruct') hstruct hstruct'
      rw [ih hholder']

/-- **The key above the fields of a struct is the innermost one that leads to it.** -/
theorem keyAbove_eq (h : schema.IsStructTree) {keys : List String} {s : Struct}
    (hs : schema.IsAt keys s) (default : String) : schema.keyAbove s = keys.headD default := by
  unfold keyAbove
  cases hs with
  | root hhead =>
    rw [List.find?_eq_none.mpr]
    · rfl
    · intro p hp
      rw [h.name_of_head? hhead, beq_iff_eq]
      exact h.struct?_ne_kind hp
  | @field _ holder _ f hholder hf hstruct _ =>
    have hfield := mem_structFields_of_isAt hholder hf hstruct
    obtain ⟨p, hfind⟩ : ∃ p, schema.structFields.find? (·.2.struct? == some s.name) = some p := by
      refine Option.isSome_iff_exists.mp (List.find?_isSome.mpr ⟨_, hfield, ?_⟩)
      exact beq_iff_eq.mpr hstruct
    have hp := List.find?_some hfind
    cases h.eq_of_struct? hfield (List.mem_of_find?_eq_some hfind) hstruct (beq_iff_eq.mp hp)
    rw [hfind]
    rfl

end IsStructTree

/-! ## Links -/

/-- A field that refers to a struct, with both structs and the site of the document. -/
structure Link where
  /-- The struct that holds the field. -/
  holder : Struct
  /-- The field. -/
  field : Field
  /-- The struct that the field refers to. -/
  struct : Struct
  /-- Where the struct stands in the document. -/
  site : Site

/-- **What a link says is so**: its field belongs to the one struct and refers to the other, which
stands where the site says. -/
structure Link.Holds (schema : Schema) (link : Link) : Prop where
  /-- The keys above the site lead to the struct that holds the field. -/
  isAt : schema.IsAt link.site.above link.holder
  /-- The field is one of it. -/
  mem : link.field ∈ link.holder.fields
  /-- The field refers to the struct. -/
  struct? : link.field.struct? = some link.struct.name
  /-- The struct is one of the schema. -/
  mem_structs : link.struct ∈ schema.structs
  /-- The key of the field is that of the site. -/
  sourceKey : link.field.sourceKey = link.site.key

theorem Link.Holds.mem_structFields {link : Link} (h : link.Holds schema) :
    (link.holder, link.field) ∈ schema.structFields :=
  IsStructTree.mem_structFields_of_isAt h.isAt h.mem h.struct?

theorem Link.Holds.isAt_struct {link : Link} (h : link.Holds schema) :
    schema.IsAt link.site.keys link.struct := by
  rw [Site.keys, ← h.sourceKey]
  exact .field h.isAt h.mem h.struct? h.mem_structs

/-- **Links between fields, structs and sites**: each field, in any order, is linked to one of the
structs and one of the sites, in the order of both. -/
def Linked (schema : Schema) (pairs : List (Struct × Field)) (structs : List Struct)
    (sites : List Site) : Prop :=
  ∃ links : List Link, (links.map fun l => (l.holder, l.field)).Perm pairs ∧
    links.map (·.struct) = structs ∧ links.map (·.site) = sites ∧ ∀ l ∈ links, l.Holds schema

namespace Linked

variable {pairs more : List (Struct × Field)} {structs nested : List Struct}
  {sites others : List Site}

theorem nil : Linked schema [] [] [] := ⟨[], .nil, rfl, rfl, nofun⟩

theorem perm (h : Linked schema pairs structs sites) (hperm : pairs.Perm more) :
    Linked schema more structs sites := by
  obtain ⟨links, hpairs, hstructs, hsites, hlinks⟩ := h
  exact ⟨links, hpairs.trans hperm, hstructs, hsites, hlinks⟩

theorem cons {link : Link} (hlink : link.Holds schema) (h : Linked schema pairs structs sites) :
    Linked schema ((link.holder, link.field) :: pairs) (link.struct :: structs)
      (link.site :: sites) := by
  obtain ⟨links, hpairs, rfl, rfl, hlinks⟩ := h
  refine ⟨link :: links, hpairs.cons _, rfl, rfl, fun l hl => ?_⟩
  rcases List.mem_cons.mp hl with rfl | hl
  · exact hlink
  · exact hlinks l hl

theorem append (h : Linked schema pairs structs sites) (h' : Linked schema more nested others) :
    Linked schema (pairs ++ more) (structs ++ nested) (sites ++ others) := by
  obtain ⟨links, hpairs, rfl, rfl, hlinks⟩ := h
  obtain ⟨links', hpairs', rfl, rfl, hlinks'⟩ := h'
  refine ⟨links ++ links', ?_, List.map_append, List.map_append, fun l hl => ?_⟩
  · rw [List.map_append]
    exact hpairs.append hpairs'
  · exact (List.mem_append.mp hl).elim (hlinks l) (hlinks' l)

end Linked

mutual

/-- **Structs that stand at sites are linked to them**: by the field of the key, and by the fields
of the structs themselves. -/
theorem linked_of_sited {holder : Struct} {f : Field} {above : List String} {key : String}
    {type : FieldType} {structs : List Struct} {sites : List Site}
    (h : Sited above key type structs sites) (hkey : f.keyedType = (key, type))
    (hholder : schema.IsAt above holder) (hf : f ∈ holder.fields)
    (hstructs : ∀ s ∈ structs, s ∈ schema.structs) :
    Linked schema ([(holder, f)].filter (·.2.struct?.isSome) ++ structs.flatMap Struct.structFields)
      structs sites := by
  obtain ⟨hsource, htype⟩ := Prod.mk.inj hkey
  match h with
  | .leaf hnone =>
    rw [← htype] at hnone
    rw [List.filter_singleton, show f.struct? = none from hnone]
    exact .nil
  | @Sited.struct _ _ _ s nested sites hsome hfields =>
    have hs : s ∈ schema.structs := hstructs s List.mem_cons_self
    have hstruct : f.struct? = some s.name := by rw [Field.struct?, htype, hsome]
    have hbelow : schema.IsAt (key :: above) s := hsource ▸ .field hholder hf hstruct hs
    have hnested := linked_of_sitedFields hfields s.fields rfl hbelow (fun _ hg => hg)
      fun t ht => hstructs t (List.mem_cons_of_mem s ht)
    rw [List.filter_singleton, hstruct]
    exact @Linked.cons _ _ _ _ ⟨holder, f, s, ⟨above, key⟩⟩ ⟨hholder, hf, hstruct, hs, hsource⟩
      hnested
termination_by structural h

/-- Structs that stand at sites key by key are linked to them. -/
theorem linked_of_sitedFields {holder : Struct} {above : List String}
    {keyed : List (String × FieldType)} {structs : List Struct} {sites : List Site}
    (h : SitedFields above keyed structs sites) (fields : List Field)
    (hkeyed : fields.map (·.keyedType) = keyed) (hholder : schema.IsAt above holder)
    (hfields : ∀ f ∈ fields, f ∈ holder.fields) (hstructs : ∀ s ∈ structs, s ∈ schema.structs) :
    Linked schema ((fields.map (holder, ·)).filter (·.2.struct?.isSome) ++
      structs.flatMap Struct.structFields) structs sites := by
  match h with
  | .nil =>
    rw [List.map_eq_nil_iff.mp hkeyed]
    exact .nil
  | @SitedFields.cons _ _ _ _ own nested _ _ hown hrest =>
    match fields, hkeyed with
    | f :: rest, hkeyed =>
      obtain ⟨hkey, hkeyed⟩ := List.cons.inj hkeyed
      have hlinked := linked_of_sited hown hkey hholder (hfields f List.mem_cons_self)
        fun s hs => hstructs s (List.mem_append_left nested hs)
      have hothers := linked_of_sitedFields hrest rest hkeyed hholder
        (fun g hg => hfields g (List.mem_cons_of_mem f hg))
        fun s hs => hstructs s (List.mem_append_right own hs)
      have hfilter : ((f :: rest).map (holder, ·)).filter (·.2.struct?.isSome) =
          [(holder, f)].filter (·.2.struct?.isSome) ++
            (rest.map (holder, ·)).filter (·.2.struct?.isSome) := List.filter_append [_] _
      -- The fields inside the first key's structs stand before the other keys here, and behind
      -- them in the list of all fields.
      refine (hlinked.append hothers).perm ?_
      rw [hfilter, List.flatMap_append, List.append_assoc, List.append_assoc]
      refine List.Perm.append_left _ ?_
      rw [← List.append_assoc, ← List.append_assoc]
      exact List.Perm.append_right _ List.perm_append_comm
termination_by structural h

end

/-! ## The links of a schema -/

/-- **What a schema that is built from a document is linked to**: its fields that refer to structs,
its structs but the resource, and the sites of the document. The structs are named one after the
other, where the kind is taken. -/
theorem exists_linked {ctx : DocumentContext} {v : Value} (h : ofValue ctx v = .ok schema) :
    ∃ root r', v.untagged = .mapping root ∧ kindOf root = .ok schema.kind ∧
      Linked schema schema.structFields schema.structs.tail (Site.ofRoot ctx schema.kind root) ∧
      NameRegistry.Gives ctx.options
        ⟨[schema.kind], Census.shared (Census.ofRoot ctx (Place.root schema.kind) root)⟩
        (Site.ofRoot ctx schema.kind root) schema.structs.tail r' := by
  obtain ⟨root, kind, apiVersion, fields, nested, r', hroot, hkind, -, hrun, rfl⟩ :=
    ofValue_eq_ok h
  obtain ⟨hsited, hnames⟩ := Walk.resolveRoot_sited root hrun
  refine ⟨root, r', hroot, hkind, ?_, hnames⟩
  rw [structFields_eq_flatMap]
  exact linked_of_sitedFields hsited fields rfl (.root rfl) (fun _ hf => hf)
    fun s hs => List.mem_cons_of_mem _ hs

/-- A name is wanted by as many sites as there are fields that derive it. -/
theorem Linked.count_wanted {pairs : List (Struct × Field)} {structs : List Struct}
    {sites : List Site} (h : Linked schema pairs structs sites) (options : BuildOptions)
    (name : String) :
    (sites.map (Site.wanted options)).count name =
      pairs.countP fun p => structName options p.2.sourceKey == name := by
  obtain ⟨links, hpairs, -, rfl, hlinks⟩ := h
  rw [← hpairs.countP_eq, List.count, List.countP_map, List.countP_map, List.countP_map]
  refine List.countP_congr fun l hl => ?_
  rw [Function.comp_apply, Function.comp_apply, Function.comp_apply, Site.wanted,
    (hlinks l hl).sourceKey]

namespace IsStructTree

/-- A struct derives what the key of the field that refers to it gives. -/
theorem derives_iff (h : schema.IsStructTree) {p : Struct × Field} {s : Struct}
    (hp : p ∈ schema.structFields) (hs : p.2.struct? = some s.name) (options : BuildOptions)
    (name : String) :
    schema.derives options name s = (structName options p.2.sourceKey == name) := by
  rw [Bool.eq_iff_iff, derives, List.any_eq_true]
  constructor
  · rintro ⟨q, hq, hname⟩
    obtain ⟨hstruct, hname⟩ := Bool.and_eq_true_iff.mp hname
    rwa [h.eq_of_struct? hp hq hs (beq_iff_eq.mp hstruct)]
  · exact fun hname => ⟨p, hp, Bool.and_eq_true_iff.mpr ⟨beq_iff_eq.mpr hs, hname⟩⟩

theorem derives_resource (h : schema.IsStructTree) {s : Struct}
    (hs : schema.structs.head? = some s) (options : BuildOptions) (name : String) :
    schema.derives options name s = false := by
  rw [derives, List.any_eq_false]
  rintro p hp hname
  obtain ⟨hstruct, -⟩ := Bool.and_eq_true_iff.mp hname
  rw [beq_iff_eq, h.name_of_head? hs] at hstruct
  exact h.struct?_ne_kind hp hstruct

/-- **As many structs derive a name as fields do.** Each struct but that of the resource is linked
to one field, and the name that it derives comes from the key of this field. -/
theorem countP_derives (h : schema.IsStructTree) {sites : List Site}
    (hlinked : Linked schema schema.structFields schema.structs.tail sites)
    (options : BuildOptions) (name : String) :
    schema.structs.countP (schema.derives options name) =
      schema.structFields.countP fun p => structName options p.2.sourceKey == name := by
  obtain ⟨links, hpairs, hstructs, -, hlinks⟩ := hlinked
  have htail : schema.structs.countP (schema.derives options name) =
      schema.structs.tail.countP (schema.derives options name) := by
    cases hall : schema.structs with
    | nil => rfl
    | cons first rest =>
      have hfirst : schema.structs.head? = some first := by rw [hall]; rfl
      rw [List.countP_cons, h.derives_resource hfirst]
      rfl
  -- Struct by struct and field by field, both sides count links.
  rw [htail, ← hstructs, ← hpairs.countP_eq, List.countP_map, List.countP_map]
  refine List.countP_congr fun l hl => ?_
  rw [Function.comp_apply, Function.comp_apply,
    h.derives_iff (hlinks l hl).mem_structFields (hlinks l hl).struct?]

end IsStructTree

/-- **The census counts what the walk creates.** If a document has a schema, the census lists
every name as often as there are fields that refer to a struct and whose key derives the name, and
a name is shared exactly if at least two structs of the schema derive it. -/
theorem census_counts_structs {ctx : DocumentContext} {v : Value}
    (h : ofValue ctx v = .ok schema) :
    ∃ root, v.untagged = .mapping root ∧ ∀ name,
      (Census.ofRoot ctx (Place.root schema.kind) root).count name =
        schema.structFields.countP (fun p => structName ctx.options p.2.sourceKey == name) ∧
      (name ∈ Census.shared (Census.ofRoot ctx (Place.root schema.kind) root) ↔
        2 ≤ schema.structs.countP (schema.derives ctx.options name)) := by
  obtain ⟨root, r', hroot, -, hlinked, -⟩ := exists_linked h
  obtain ⟨hnodup, horder⟩ := ofValue_structs h
  refine ⟨root, hroot, fun name => ?_⟩
  have hcount : (Census.ofRoot ctx (Place.root schema.kind) root).count name =
      schema.structFields.countP fun p => structName ctx.options p.2.sourceKey == name := by
    rw [Census.ofRoot_eq]
    exact hlinked.count_wanted ctx.options name
  refine ⟨hcount, ?_⟩
  rw [(isStructTree_of_inOrder hnodup horder).countP_derives hlinked, ← hcount, Census.shared,
    List.mem_filter, decide_eq_true_eq]
  -- A name that is counted at all is one of those listed.
  exact ⟨fun hname => hname.2, fun hname => ⟨List.count_pos_iff.mp (by omega), hname⟩⟩

/-- A document in which two ports have a struct. The metadata are none of the resource, the labels
have a hint in place of entries, and the second port of the list is merged into the first. -/
def portsDocument : Value :=
  .mapping [(.string "kind", .string "Demo"),
    (.string "metadata", .mapping [(.string "port", .mapping [])]),
    (.string "labels", .mapping []),
    (.string "http", .mapping [(.string "port", .mapping [(.string "number", .string "80")])]),
    (.string "admin", .tagged "!all" (.sequence
      [.mapping [(.string "port", .mapping [(.string "number", .string "81")])], .string "none",
        .mapping [(.string "port", .mapping [(.string "tls", .mapping [])])]]))]

/-- The options and the places of that document, with the hint above the labels. -/
def portsContext : DocumentContext :=
  ⟨{}, ⟨[([.key "labels"], ⟨5, ["# +miaka:type:map[string]string"]⟩)]⟩⟩

/-- The name that both ports want is counted twice and is given to neither. -/
theorem census_counts_structs_ports :
    ∃ schema, ofValue portsContext portsDocument = .ok schema ∧
      schema.structs.map (·.name) =
        ["Demo", "HttpSpec", "HttpPortSpec", "AdminSpec", "AdminPortSpec"] ∧
      schema.structs.countP (schema.derives {} "PortSpec") = 2 ∧
      ∃ root, portsDocument.untagged = .mapping root ∧
        "PortSpec" ∈ Census.shared (Census.ofRoot portsContext (Place.root schema.kind) root) := by
  obtain ⟨schema, h, hnames, hderives⟩ : ∃ schema,
      ofValue portsContext portsDocument = .ok schema ∧
      schema.structs.map (·.name) =
        ["Demo", "HttpSpec", "HttpPortSpec", "AdminSpec", "AdminPortSpec"] ∧
      schema.structs.countP (schema.derives {} "PortSpec") = 2 :=
    ⟨_, rfl, by decide +kernel, by decide +kernel⟩
  obtain ⟨root, hroot, hcensus⟩ := census_counts_structs h
  exact ⟨schema, h, hnames, hderives, root, hroot, (hcensus "PortSpec").2.mpr hderives.ge⟩

end Schema
end ChartSchema
