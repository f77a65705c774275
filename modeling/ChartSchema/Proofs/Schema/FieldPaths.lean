import ChartSchema.Proofs.Schema.Origins
/-!
# Which keys have fields

A chart reads its values by their keys, so a key that the schema does not know is lost. This module
says which keys of a document have a field. Each struct stands for something that is read from the
resource on, and for everything with keys that is read there is a struct
(`Schema.ofValue_standFor`), so the paths of the fields are those of the entries right below what
is read (`Schema.exists_sourcePath_iff`).

What is read ends at a key that occurred in an earlier item of its list. The key itself has its
field from there, but what stands below its later occurrences is not looked at
(`Schema.not_forall_stands_exists_sourcePath`).

In a struct that is made from the items of a list no key has two fields, since a key that occurs
again is merged. The entries of a mapping become fields one by one, and a number and a text that
reads the same become two fields of one key; that this is the only case is
`Schema.sourceKeys_nodup_iff`.
-/

namespace ChartSchema

open Yaml (Value)
open Relation (ReflTransGen TransGen)

namespace Yaml.Value

/-- **From a value to one that stands right below it**, each at its path, whether it is read there
or not: the value of any key of a mapping, or of any key of the items of a list that starts with a
mapping. -/
inductive Inside : SourcePath × Value → SourcePath × Value → Prop
  /-- The value of a key of a mapping. -/
  | entry {path : SourcePath} {v k w : Value} {key : String} :
    (k, w) ∈ v.entries → ChartSchema.keyText? k = some key →
      Inside (path, v) (path ++ [PathSegment.key key], w)
  /-- The value of a key of an item. -/
  | item {path : SourcePath} {v k w : Value} {key : String} {position : Nat} :
    (position, k, w) ∈ v.mergedEntries → ChartSchema.keyText? k = some key →
      Inside (path, v) (path ++ [PathSegment.index position, PathSegment.key key], w)

/-- **An entry stands in a document** with this root, at this path and with this value: it is
reached from the fields of the resource through mappings and lists of mappings. -/
def Stands (root : List (Value × Value)) (path : SourcePath) (w : Value) : Prop :=
  TransGen Inside ([], resource root) (path, w)

/-- **A value is reached** in a document with this root, at this path: it is the resource, or it is
read from there on. -/
def IsReached (root : List (Value × Value)) (path : SourcePath) (v : Value) : Prop :=
  ReflTransGen Below ([], resource root) (path, v)

/-- **An entry is met**: it stands right below a value that is reached. -/
def IsMet (root : List (Value × Value)) (path : SourcePath) (w : Value) : Prop :=
  ∃ path' v, IsReached root path' v ∧ Inside (path', v) (path, w)

variable {v : Value} {path : SourcePath}

/-- What stands right below a value has a key of one of the fields. -/
theorem exists_of_inside {path' : SourcePath} {w : Value} (h : Inside (path, v) (path', w)) :
    ∃ key, some key ∈ v.fieldKeys ∧ path'.keys = path.keys ++ [key] := by
  cases h with
  | @entry _ _ _ _ key hmem hkey =>
    exact ⟨key, List.mem_append_left _ (List.mem_map.mpr ⟨_, hmem, hkey⟩),
      SourcePath.keys_concat path key⟩
  | @item _ _ _ _ key position hmem hkey =>
    exact ⟨key, List.mem_append_right _ (List.mem_eraseDups.mpr (List.mem_map.mpr ⟨_, hmem, hkey⟩)),
      SourcePath.keys_item path position key⟩

/-- A key of one of the fields is that of something right below. -/
theorem exists_inside {key : String} (h : some key ∈ v.fieldKeys) (path : SourcePath) :
    ∃ path' w, Inside (path, v) (path', w) ∧ path'.keys = path.keys ++ [key] := by
  rcases List.mem_append.mp h with h | h
  · obtain ⟨⟨k, w⟩, hmem, hkey⟩ := List.mem_map.mp h
    exact ⟨_, w, .entry hmem hkey, SourcePath.keys_concat path key⟩
  · obtain ⟨⟨position, k, w⟩, hmem, hkey⟩ := List.mem_map.mp (List.mem_eraseDups.mp h)
    exact ⟨_, w, .item hmem hkey, SourcePath.keys_item path position key⟩

/-- No key has two fields if no key of a mapping occurs twice. -/
theorem nodup_fieldKeys_iff :
    v.fieldKeys.Nodup ↔ (v.entries.map (ChartSchema.keyText? ·.1)).Nodup := by
  unfold fieldKeys
  cases hv : v.untagged with
  | mapping entries =>
    rw [(of_mapping hv).2, List.map_nil, List.eraseDups_nil, List.append_nil]
  | sequence list =>
    rw [(of_sequence hv).1]
    exact iff_of_true (nodup_eraseDups _) List.nodup_nil
  | null | bool _ | number _ | string _ =>
    obtain ⟨hentries, hmerged⟩ := of_isScalar (v := v) (by rw [hv]; rfl)
    rw [hentries, hmerged]
    exact iff_of_true List.nodup_nil List.nodup_nil
  | tagged tag inner => exact absurd hv (untagged_ne_tagged v tag inner)

end Yaml.Value

/-- The keys on a path joined by points, the kind of the resource first. -/
def SourcePath.dotted (kind : String) (path : SourcePath) : String :=
  Text.joinWith "." (kind :: path.keys)

/-- **A struct stands for a value** at a path: its fields have the keys of the value, and their
paths go on from there. -/
structure Struct.StandsFor (kind : String) (path : SourcePath) (v : Value) (s : Struct) : Prop where
  /-- The keys of the fields. -/
  keys : (s.fields.map (·.sourceKey)).map some = v.fieldKeys
  /-- The paths of the fields. -/
  paths : ∀ f ∈ s.fields, f.sourcePath = Text.joinWith "." (kind :: (path.keys ++ [f.sourceKey]))

variable {ctx : DocumentContext} {kind : String}

theorem Struct.IsMadeFrom.standsFor {path : SourcePath} {v : Value} {isList : Bool}
    {readings : List Reading} {s : Struct} (h : s.IsMadeFrom ctx kind path v isList readings) :
    s.StandsFor kind path v := by
  obtain ⟨block, hfields, -⟩ := h.fields
  have hkeys : s.fields.map (·.sourceKey) = readings.map (·.key) := by
    rw [hfields, List.map_map]
    rfl
  refine ⟨hkeys ▸ h.reads.keys, fun f hf => ?_⟩
  · rw [hfields] at hf
    obtain ⟨x, hx, rfl⟩ := List.mem_map.mp hf
    obtain ⟨path', hplace, hkeys, -⟩ := h.reads.below x hx
    show x.place.dotted = _
    rw [hplace, Place.dotted, Place.ofPath, hkeys, List.reverse_append, List.reverse_reverse]
    rfl

/-- **Structs stand for what is read** from a value on: each for something, and for everything with
keys there is one. -/
structure StandFor (kind : String) (path : SourcePath) (v : Value) (structs : List Struct) :
    Prop where
  /-- Each struct stands for something. -/
  sound : ∀ s ∈ structs, ∃ path' w, ReflTransGen Value.Below (path, v) (path', w) ∧
    s.StandsFor kind path' w
  /-- For everything with keys there is a struct. -/
  complete : ∀ path' w, ReflTransGen Value.Below (path, v) (path', w) → w.fieldKeys ≠ [] →
    ∃ s ∈ structs, s.StandsFor kind path' w

theorem StandFor.nil {path : SourcePath} {v : Value} (h : v.fieldKeys = []) :
    StandFor kind path v [] := by
  refine ⟨nofun, fun path' w hreach hkeys => ?_⟩
  rcases hreach.cases_head with heq | ⟨⟨_, _⟩, hstep, -⟩
  · obtain ⟨-, rfl⟩ := Prod.mk.inj heq
    exact absurd h hkeys
  · exact absurd hstep (Value.not_below_of_fieldKeys h)

/-- A struct stands for what it is made from, and those behind it for what is read below. -/
theorem StandFor.cons {path : SourcePath} {v : Value} {isList : Bool} {readings : List Reading}
    {s : Struct} (hs : s.IsMadeFrom ctx kind path v isList readings)
    (h : ∀ x ∈ readings, ∀ path', x.place = Place.ofPath kind path' →
      StandFor kind path' x.value x.structs) :
    StandFor kind path v (s :: readings.flatMap (·.structs)) := by
  refine ⟨List.forall_mem_cons.mpr ⟨⟨path, v, .refl, hs.standsFor⟩, fun t ht => ?_⟩,
    fun path' w hreach hkeys => ?_⟩
  · obtain ⟨x, hx, ht⟩ := List.mem_flatMap.mp ht
    obtain ⟨path₁, hplace, -, hbelow⟩ := hs.reads.below x hx
    obtain ⟨path', w, hreach, hstands⟩ := (h x hx path₁ hplace).sound t ht
    exact ⟨path', w, .head hbelow hreach, hstands⟩
  · rcases hreach.cases_head with heq | ⟨⟨path₁, w₁⟩, hstep, hreach⟩
    · obtain ⟨rfl, rfl⟩ := Prod.mk.inj heq
      exact ⟨s, List.mem_cons_self, hs.standsFor⟩
    · obtain ⟨x, hx, hplace, rfl⟩ := hs.reads.complete path₁ w₁ hstep
      obtain ⟨t, ht, hstands⟩ := (h x hx path₁ hplace).complete path' w hreach hkeys
      exact ⟨t, List.mem_cons_of_mem _ (List.mem_flatMap.mpr ⟨x, hx, ht⟩), hstands⟩

namespace Schema

variable {v : Value} {schema : Schema}

/-- **The structs of a schema stand for what is read** from the resource on. Each of them has the
keys of the value that it was made from, at the path where this is found. -/
theorem ofValue_standFor (h : ofValue ctx v = .ok schema) :
    ∃ root, v.untagged = .mapping root ∧
      StandFor schema.kind [] (Value.resource root) schema.structs := by
  obtain ⟨root, s, readings, r, r', hroot, hstructs, -, hmade, hturn⟩ := ofValue_isMadeFrom h
  refine ⟨root, hroot, hstructs ▸ .cons hmade fun x hx path hplace => ?_⟩
  obtain ⟨r₁, r₂, hread⟩ := hturn.exists_resolve x hx
  rw [hplace] at hread
  exact Walk.resolve_induction (motive := fun path v _ structs =>
    StandFor schema.kind path v structs) (fun _ _ _ hkeys _ => .nil hkeys)
    (fun _ _ _ _ _ hmade _ hbelow => .cons hmade hbelow) x.value hread

/-- **The paths of the fields are those of the entries that are met.** Whatever the document, the
comments and the options, if a schema is built, a field has a path exactly if it is that of an entry
which stands right below something that is reached: an entry of the resource, of a mapping that is
read, or of any mapping in a list that is read. So no such entry is lost, and what stands below a
key is lost only if the key occurred in an item before. -/
theorem exists_sourcePath_iff (h : ofValue ctx v = .ok schema) :
    ∃ root, v.untagged = .mapping root ∧ ∀ text,
      (∃ s ∈ schema.structs, ∃ f ∈ s.fields, f.sourcePath = text) ↔
        ∃ path w, Value.IsMet root path w ∧ text = path.dotted schema.kind := by
  obtain ⟨root, hroot, hstand⟩ := ofValue_standFor h
  refine ⟨root, hroot, fun text => ⟨?_, ?_⟩⟩
  · -- A field's struct stands for something that is reached, and its key stands right below.
    rintro ⟨s, hs, f, hf, rfl⟩
    obtain ⟨path, v, hreach, hstands⟩ := hstand.sound s hs
    have hkey : some f.sourceKey ∈ v.fieldKeys :=
      hstands.keys ▸ List.mem_map_of_mem (List.mem_map_of_mem hf)
    obtain ⟨path', w, hinside, hkeys⟩ := Value.exists_inside hkey path
    exact ⟨path', w, ⟨path, v, hreach, hinside⟩, by
      rw [hstands.paths f hf, SourcePath.dotted, hkeys]⟩
  · -- What has an entry right below has keys, so there is a struct for it.
    rintro ⟨path', w, ⟨path, v, hreach, hinside⟩, rfl⟩
    obtain ⟨key, hkey, hkeys⟩ := Value.exists_of_inside hinside
    obtain ⟨s, hs, hstands⟩ := hstand.complete path v hreach (List.ne_nil_of_mem hkey)
    rw [← hstands.keys, List.mem_map_of_injective (Option.some_injective _)] at hkey
    obtain ⟨f, hf, rfl⟩ := List.mem_map.mp hkey
    exact ⟨s, hs, f, hf, by rw [hstands.paths f hf, SourcePath.dotted, hkeys]⟩

/-- A list of two pods, in which the limits occur twice. -/
def twoPods : Value :=
  .sequence
    [.mapping [(.string "limits", .mapping [(.string "cpu", .number (.int 1))])],
      .mapping [(.string "limits", .mapping [(.string "memory", .string "1Gi")]),
        (.string "probe", .mapping [(.string "path", .string "/healthz")])]]

/-- The root of a document with the two pods. -/
def podsRoot : List (Value × Value) :=
  [(.string "kind", .string "Demo"), (.string "pods", twoPods)]

/-- What stands below the probe, which only the second pod has, has a field. -/
theorem exists_sourcePath_iff_limits :
    ∃ schema, ofValue ⟨{}, {}⟩ (.mapping podsRoot) = .ok schema ∧
      schema.structs.flatMap (fun s => s.fields.map (·.sourcePath)) =
        ["Demo.pods", "Demo.pods.limits", "Demo.pods.probe", "Demo.pods.limits.cpu",
          "Demo.pods.probe.path"] ∧
      ∃ root, (Value.mapping podsRoot).untagged = .mapping root ∧ ∀ text,
        (∃ s ∈ schema.structs, ∃ f ∈ s.fields, f.sourcePath = text) ↔
          ∃ path w, Value.IsMet root path w ∧ text = path.dotted schema.kind := by
  obtain ⟨schema, h, hpaths⟩ : ∃ schema, ofValue ⟨{}, {}⟩ (.mapping podsRoot) = .ok schema ∧
      schema.structs.flatMap (fun s => s.fields.map (·.sourcePath)) =
        ["Demo.pods", "Demo.pods.limits", "Demo.pods.probe", "Demo.pods.limits.cpu",
          "Demo.pods.probe.path"] := ⟨_, rfl, by decide +kernel⟩
  exact ⟨schema, h, hpaths, exists_sourcePath_iff h⟩

/-- **Not every entry that stands in a document has a field**: the memory limit of the second pod
has none, since the limits are read in the first one. -/
theorem not_forall_stands_exists_sourcePath :
    ¬∀ (ctx : DocumentContext) (v : Value) (schema : Schema) (root : List (Value × Value)),
      ofValue ctx v = .ok schema → v.untagged = .mapping root →
        ∀ path w, Value.Stands root path w →
          ∃ s ∈ schema.structs, ∃ f ∈ s.fields, f.sourcePath = path.dotted schema.kind := by
  intro hall
  obtain ⟨schema, h, hkind, hpaths⟩ : ∃ schema, ofValue ⟨{}, {}⟩ (.mapping podsRoot) = .ok schema ∧
      schema.kind = "Demo" ∧
      ∀ s ∈ schema.structs, ∀ f ∈ s.fields, f.sourcePath ≠ "Demo.pods.limits.memory" :=
    ⟨_, rfl, rfl, by decide +kernel⟩
  have hpods : Value.Inside ([], Value.resource podsRoot) ([.key "pods"], twoPods) :=
    .entry (k := .string "pods") List.mem_cons_self rfl
  have hlimits : Value.Inside ([.key "pods"], twoPods)
      ([.key "pods", .index 1, .key "limits"], .mapping [(.string "memory", .string "1Gi")]) :=
    .item (k := .string "limits") (List.mem_cons_of_mem _ List.mem_cons_self) rfl
  have hmemory : Value.Inside
      ([.key "pods", .index 1, .key "limits"], .mapping [(.string "memory", .string "1Gi")])
      ([.key "pods", .index 1, .key "limits", .key "memory"], .string "1Gi") :=
    .entry (k := .string "memory") List.mem_cons_self rfl
  obtain ⟨s, hs, f, hf, hpath⟩ := hall _ _ schema podsRoot h rfl _ _
    (TransGen.head hpods (TransGen.head hlimits (TransGen.single hmemory)))
  rw [hkind] at hpath
  exact hpaths s hs f hf (hpath.trans (by decide +kernel))

/-- **No key has two fields if no key of a mapping occurs twice.** The fields of every struct have
different keys exactly if, in the resource and in every mapping that is read, no two keys have one
text, as a number and a text that reads the same do. The items of lists are of no account: there a
key that occurs again is merged. -/
theorem sourceKeys_nodup_iff (h : ofValue ctx v = .ok schema) :
    ∃ root, v.untagged = .mapping root ∧
      ((∀ s ∈ schema.structs, (s.fields.map (·.sourceKey)).Nodup) ↔
        ∀ path w, Value.IsReached root path w → (w.entries.map (keyText? ·.1)).Nodup) := by
  obtain ⟨root, hroot, hstand⟩ := ofValue_standFor h
  have hnodup {path : SourcePath} {w : Value} {s : Struct} (hs : s.StandsFor schema.kind path w) :
      (s.fields.map (·.sourceKey)).Nodup ↔ (w.entries.map (keyText? ·.1)).Nodup := by
    rw [← Value.nodup_fieldKeys_iff, ← hs.keys]
    exact (List.nodup_map_iff (Option.some_injective _)).symm
  refine ⟨root, hroot, fun hall path w hreach => ?_, fun hall s hs => ?_⟩
  · -- Without keys there is no struct, and none is needed.
    by_cases hkeys : w.fieldKeys = []
    · rw [← Value.nodup_fieldKeys_iff, hkeys]
      exact List.nodup_nil
    · obtain ⟨s, hs, hstands⟩ := hstand.complete path w hreach hkeys
      exact (hnodup hstands).mp (hall s hs)
  · obtain ⟨path, w, hreach, hstands⟩ := hstand.sound s hs
    exact (hnodup hstands).mpr (hall path w hreach)

end Schema
end ChartSchema
