import ChartSchema.Proofs.ByKey
import ChartSchema.Proofs.Schema.Merging
import Mathlib.Logic.Relation
/-!
# Which documents have a schema

A document has a schema exactly if it says what it describes and nothing that is read in it is
refused. What is read is told by `Below`, one step at a time: from a mapping to the value of each of
its keys, and from a list of mappings to the value that stands where a key occurs first among its
items. What is refused is told by `IsReadable`, for one value at a time: a key that is no scalar, and
two comments above one key of a list that both say something and not the same.

That a document without any of this is read, and no other, is one induction over values
(`Outline.isSome_ofValue?_iff_readable`), since the values that stand right below a value are
smaller. What happens to the items of a list comes from `Outline.isSome_merge?_iff`, where the
walk is followed through them in order.
-/

namespace ChartSchema

open Yaml (Value)
open Relation (ReflTransGen)

/-! ## What is read in a document -/

namespace Yaml.Value

/-- The entries of a mapping, tags aside. -/
def entries (v : Value) : List (Value × Value) :=
  match v.untagged with
  | .mapping entries => entries
  | _ => []

/-- The items of a list, tags aside. -/
def items (v : Value) : List Value :=
  match v.untagged with
  | .sequence items => items
  | _ => []

/-- The entries of those items that are mappings, each with the index of its item. The first item
has the given index. -/
def entriesOfItems (position : Nat) : List Value → List (Nat × Value × Value)
  | [] => []
  | item :: rest => item.entries.map (position, ·) ++ entriesOfItems (position + 1) rest

/-- The entries that become the fields of one struct, if the value is a list that starts with a
mapping. -/
def mergedEntries (v : Value) : List (Nat × Value × Value) :=
  if startsWithMapping v.items then entriesOfItems 0 v.items else []

/-- **From a value that is read to one that is read below it**, each at its path. -/
inductive Below : SourcePath × Value → SourcePath × Value → Prop
  /-- The value of a key of a mapping. -/
  | entry {path : SourcePath} {v k w : Value} {key : String} :
    (k, w) ∈ v.entries → ChartSchema.keyText? k = some key →
      Below (path, v) (path ++ [PathSegment.key key], w)
  /-- The value of a key of the items of a list, where the key occurs first. -/
  | item {path : SourcePath} {v k w : Value} {key : String} {position : Nat}
      {before after : List (Nat × Value × Value)} :
    v.mergedEntries = before ++ (position, k, w) :: after → ChartSchema.keyText? k = some key →
      (∀ entry ∈ before, ChartSchema.keyText? entry.2.1 ≠ some key) →
        Below (path, v) (path ++ [PathSegment.index position, PathSegment.key key], w)

/-- **A value is read** at a path of a document with these entries at its root: it stands under a key
that is not reserved, or below such a value. -/
def IsRead (root : List (Value × Value)) (path : SourcePath) (v : Value) : Prop :=
  ∃ k w key, (k, w) ∈ root ∧ ChartSchema.keyText? k = some key ∧ key ∉ reservedKeys ∧
    ReflTransGen Below ([.key key], w) (path, v)

theorem untagged_ne_tagged (v : Value) (tag : String) (inner : Value) :
    v.untagged ≠ .tagged tag inner := by
  match v with
  | .tagged _ v => exact untagged_ne_tagged v tag inner
  | .null | .bool _ | .number _ | .string _ | .sequence _ | .mapping _ => exact nofun
termination_by structural v

theorem sizeOf_untagged_le (v : Value) : sizeOf v.untagged ≤ sizeOf v := by
  match v with
  | .tagged tag v =>
    have := sizeOf_untagged_le v
    rw [tagged.sizeOf_spec]
    exact this.trans (by omega)
  | .null | .bool _ | .number _ | .string _ | .sequence _ | .mapping _ => exact Nat.le_refl _
termination_by structural v

theorem sizeOf_lt_of_entries {v k w : Value} (h : (k, w) ∈ v.entries) : sizeOf w < sizeOf v := by
  have hle := sizeOf_untagged_le v
  unfold entries at h
  split at h
  · next entries hv =>
    have hlt := List.sizeOf_lt_of_mem h
    rw [hv, mapping.sizeOf_spec] at hle
    rw [Prod.mk.sizeOf_spec] at hlt
    omega
  · exact absurd h List.not_mem_nil

theorem sizeOf_lt_of_items {v item : Value} (h : item ∈ v.items) : sizeOf item < sizeOf v := by
  have hle := sizeOf_untagged_le v
  unfold items at h
  split at h
  · next items hv =>
    have hlt := List.sizeOf_lt_of_mem h
    rw [hv, sequence.sizeOf_spec] at hle
    omega
  · exact absurd h List.not_mem_nil

theorem exists_of_mem_entriesOfItems {position : Nat} {list : List Value} {e : Nat × Value × Value}
    (h : e ∈ entriesOfItems position list) : ∃ item ∈ list, e.2 ∈ item.entries := by
  induction list generalizing position with
  | nil => exact absurd h List.not_mem_nil
  | cons item rest ih =>
    rcases List.mem_append.mp h with h | h
    · obtain ⟨entry, hmem, rfl⟩ := List.mem_map.mp h
      exact ⟨item, List.mem_cons_self, hmem⟩
    · obtain ⟨other, hmem, hentry⟩ := ih h
      exact ⟨other, List.mem_cons_of_mem _ hmem, hentry⟩

theorem sizeOf_lt_of_below {path path' : SourcePath} {v w : Value}
    (h : Below (path, v) (path', w)) : sizeOf w < sizeOf v := by
  cases h with
  | entry hmem _ => exact sizeOf_lt_of_entries hmem
  | item hsplit _ _ =>
    have hmem := hsplit ▸ List.mem_append_right _ List.mem_cons_self
    unfold mergedEntries at hmem
    split at hmem
    · obtain ⟨item, hitem, hentry⟩ := exists_of_mem_entriesOfItems hmem
      exact (sizeOf_lt_of_entries hentry).trans (sizeOf_lt_of_items hitem)
    · exact absurd hmem List.not_mem_nil

end Yaml.Value

/-! ## What is refused in a document -/

/-- What the comments above the key at a path say: their lines with content. -/
def DocumentContext.saidAt (ctx : DocumentContext) (path : SourcePath) : List String :=
  (CommentBlock.ofLines ctx.options.markerTool (ctx.sources.comments path)).lines

/-- The comments above the keys of two entries of a list's items agree, if the keys are the same. -/
def DocumentContext.AgreeAbove (ctx : DocumentContext) (path : SourcePath)
    (entry other : Nat × Value × Value) : Prop :=
  ∀ key, keyText? entry.2.1 = some key → keyText? other.2.1 = some key →
    Comment.Agree (ctx.saidAt (path ++ [PathSegment.index entry.1, PathSegment.key key]))
      (ctx.saidAt (path ++ [PathSegment.index other.1, PathSegment.key key]))

/-- **A value can be read** at a path, whatever becomes of the values below it. -/
structure DocumentContext.IsReadable (ctx : DocumentContext) (path : SourcePath) (v : Value) :
    Prop where
  /-- The keys of a mapping are scalars. -/
  keys : ∀ entry ∈ v.entries, Walk.isScalar entry.1.untagged = true
  /-- So are the keys of the items of a list of mappings. -/
  itemKeys : ∀ entry ∈ v.mergedEntries, Walk.isScalar entry.2.1.untagged = true
  /-- The comments above one key in several items agree. -/
  comments : ∀ entry ∈ v.mergedEntries, ∀ other ∈ v.mergedEntries, ctx.AgreeAbove path entry other

/-- The root says a version that can be read, or none: null, or a text with at most one slash. -/
def Schema.SaysVersion (root : List (Value × Value)) : Prop :=
  ∀ v, valueOfKey? "apiVersion" root = some v →
    v.untagged = .null ∨ ∃ s, v.untagged = .string s ∧ s.toList.count '/' ≤ 1

/-- The root says a kind: a text that is not blank. -/
def Schema.SaysKind (root : List (Value × Value)) : Prop :=
  ∃ v s, valueOfKey? "kind" root = some v ∧ v.untagged = .string s ∧
    ∃ c ∈ s.toList, Text.isBlank c = false

/-! ## Keys and versions -/

/-- A key has a text if it is a scalar. -/
theorem isSome_keyText?_iff (k : Value) :
    (keyText? k).isSome ↔ Walk.isScalar k.untagged = true := by
  unfold keyText?
  cases hk : k.untagged with
  | null | bool _ | number _ | string _ => exact iff_of_true rfl rfl
  | sequence _ | mapping _ | tagged _ _ => exact iff_of_false Bool.false_ne_true Bool.false_ne_true

theorem exists_keyText? {k : Value} (h : Walk.isScalar k.untagged = true) :
    ∃ key, keyText? k = some key :=
  Option.isSome_iff_exists.mp ((isSome_keyText?_iff k).mpr h)

theorem Text.length_splitOn (sep : Char → Bool) (s : List Char) :
    (splitOn sep s).length = s.countP sep + 1 := by
  induction s with
  | nil => rfl
  | cons c r ih =>
    rw [splitOn, List.countP_cons]
    split
    · rw [List.length_cons, ih]
    · cases hpieces : splitOn sep r with
      | nil => exact absurd hpieces (splitOn_ne_nil sep r)
      | cons piece pieces => rw [← ih, hpieces]; rfl

/-- A text names a group and a version if at most one slash stands in it. -/
theorem GroupVersion.isSome_parse?_iff (s : String) :
    (parse? s).isSome ↔ s.toList.count '/' ≤ 1 := by
  have hpieces : (Text.splitOn (· == '/') s.toList).length = s.toList.count '/' + 1 :=
    Text.length_splitOn _ _
  unfold parse?
  split
  · next hempty => rcases hempty with rfl | rfl <;> decide
  · split
    · next version heq =>
      rw [heq, List.length_singleton] at hpieces
      exact iff_of_true rfl (by omega)
    · next group version heq =>
      rw [heq, List.length_cons, List.length_singleton] at hpieces
      exact iff_of_true rfl (by omega)
    · next hone htwo =>
      refine iff_of_false Bool.false_ne_true fun hle => ?_
      match hlist : Text.splitOn (· == '/') s.toList with
      | [] => exact Text.splitOn_ne_nil _ _ hlist
      | [version] => exact hone version hlist
      | [group, version] => exact htwo group version hlist
      | _ :: _ :: _ :: _ =>
        rw [hlist, List.length_cons, List.length_cons, List.length_cons] at hpieces
        omega

namespace Schema

variable {root : List (Value × Value)}

/-- The version is read if the root says one that can be, or none. -/
theorem exists_apiVersionOf_iff : (∃ gv, apiVersionOf root = .ok gv) ↔ SaysVersion root := by
  unfold apiVersionOf SaysVersion
  cases hvalue : valueOfKey? "apiVersion" root with
  | none => exact iff_of_true ⟨_, rfl⟩ nofun
  | some v =>
    have hreading : (∀ w, some v = some w →
        w.untagged = .null ∨ ∃ s, w.untagged = .string s ∧ s.toList.count '/' ≤ 1) ↔
          (v.untagged = .null ∨ ∃ s, v.untagged = .string s ∧ s.toList.count '/' ≤ 1) :=
      ⟨fun h => h v rfl, fun h w hw => Option.some.inj hw ▸ h⟩
    rw [hreading, Option.map_some]
    cases hv : v.untagged with
    | null => exact iff_of_true ⟨_, rfl⟩ (.inl rfl)
    | string s =>
      have hparse := GroupVersion.isSome_parse?_iff s
      dsimp only
      cases hgv : GroupVersion.parse? s with
      | some gv =>
        rw [hgv] at hparse
        exact iff_of_true ⟨gv, rfl⟩ (.inr ⟨s, rfl, hparse.mp rfl⟩)
      | none =>
        rw [hgv] at hparse
        refine iff_of_false nofun ?_
        rintro (heq | ⟨other, heq, hcount⟩)
        · cases heq
        · obtain rfl := Value.string.inj heq
          exact Bool.false_ne_true (hparse.mpr hcount)
    | _ => exact iff_of_false nofun (by rintro (heq | ⟨_, heq, -⟩) <;> cases heq)

theorem exists_kindOf_iff : (∃ kind, kindOf root = .ok kind) ↔ SaysKind root := by
  unfold kindOf SaysKind
  cases hvalue : valueOfKey? "kind" root with
  | none => exact iff_of_false nofun (by rintro ⟨_, _, heq, -⟩; cases heq)
  | some v =>
    have hreading : (∃ w s, some v = some w ∧ w.untagged = .string s ∧
        ∃ c ∈ s.toList, Text.isBlank c = false) ↔
          ∃ s, v.untagged = .string s ∧ ∃ c ∈ s.toList, Text.isBlank c = false :=
      ⟨fun ⟨_, s, hw, h⟩ => ⟨s, Option.some.inj hw ▸ h⟩, fun ⟨s, h⟩ => ⟨v, s, rfl, h⟩⟩
    rw [hreading, Option.map_some]
    cases hv : v.untagged with
    | string s =>
      have hblank : Text.allBlank s = false ↔ ∃ c ∈ s.toList, Text.isBlank c = false := by
        rw [Text.allBlank, List.all_eq_false]
        exact exists_congr fun c => and_congr_right fun _ => Bool.not_eq_true _ ▸ Iff.rfl
      dsimp only
      cases hall : Text.allBlank s with
      | true =>
        refine iff_of_false nofun ?_
        rintro ⟨other, heq, hother⟩
        obtain rfl := Value.string.inj heq
        rw [hall] at hblank
        exact Bool.false_ne_true (hblank.mpr hother).symm
      | false => exact iff_of_true ⟨_, rfl⟩ ⟨s, rfl, hblank.mp hall⟩
    | _ => exact iff_of_false nofun (by rintro ⟨_, heq, -⟩; cases heq)

end Schema

namespace Outline

/-! ## Occurrences -/

variable {ctx : DocumentContext}

/-- The key of an entry with the comments above it and its value. -/
def occurrenceOf (ctx : DocumentContext) (place : Place) (entry : Value × Value) : Occurrence :=
  let key := (keyText? entry.1).getD ""
  Walk.occurrence ctx key (place.key key) entry.2

/-- The same if the key is a scalar. -/
def occurrenceOf? (ctx : DocumentContext) (place : Place) (entry : Value × Value) :
    Option Occurrence :=
  (keyText? entry.1).map fun key => Walk.occurrence ctx key (place.key key) entry.2

theorem occurrences?_eq (place : Place) (entries : List (Value × Value)) :
    occurrences? ctx place entries = entries.mapM (occurrenceOf? ctx place) := by
  induction entries with
  | nil => rfl
  | cons entry rest ih =>
    rw [mapM_cons_option, ← ih, Walk.occurrences?_cons, occurrenceOf?, Option.bind_map]
    rfl

/-- An item that is no mapping has no occurrences, and one that is has those of its entries. -/
theorem occurrencesOfItem?_eq (place : Place) (item : Value) :
    occurrencesOfItem? ctx place item = item.entries.mapM (occurrenceOf? ctx place) := by
  fun_induction Value.untagged item with
  | case1 tag inner ih =>
    rw [occurrencesOfItem?]
    exact ih
  | case2 item huntagged =>
    cases item with
    | tagged tag inner => exact (huntagged tag inner rfl).elim
    | mapping entries =>
      rw [occurrencesOfItem?]
      exact occurrences?_eq place entries
    | _ => rfl

theorem occurrencesOfItems?_eq (place : Place) (position : Nat) (items : List Value) :
    occurrencesOfItems? ctx place position items =
      (Value.entriesOfItems position items).mapM fun entry =>
        occurrenceOf? ctx (place.index entry.1) entry.2 := by
  induction items generalizing position with
  | nil => rfl
  | cons item rest ih =>
    rw [occurrencesOfItems?, Value.entriesOfItems, occurrencesOfItem?_eq, ih, List.mapM_append,
      List.mapM_map]
    simp only [Option.map_eq_bind]
    rfl

/-- The key of an entry has an occurrence if it is a scalar. -/
theorem isSome_occurrenceOf?_iff (place : Place) (entry : Value × Value) :
    (occurrenceOf? ctx place entry).isSome ↔ Walk.isScalar entry.1.untagged = true := by
  rw [occurrenceOf?, Option.isSome_map]
  exact isSome_keyText?_iff entry.1

theorem occurrenceOf_eq (place : Place) {entry : Value × Value} {key : String}
    (h : keyText? entry.1 = some key) :
    occurrenceOf ctx place entry = Walk.occurrence ctx key (place.key key) entry.2 := by
  rw [occurrenceOf, h]
  rfl

/-- Something is made of occurrences if their keys are scalars and it can be made of them. -/
theorem isSome_bind_occurrences_iff {α β : Type} {place : α → Place} {entry : α → Value × Value}
    {xs : List α} {f : List Occurrence → Option β} :
    ((xs.mapM fun x => occurrenceOf? ctx (place x) (entry x)).bind f).isSome ↔
      (∀ x ∈ xs, Walk.isScalar (entry x).1.untagged = true) ∧
        (f (xs.map fun x => occurrenceOf ctx (place x) (entry x))).isSome := by
  have hsome : (xs.mapM fun x => occurrenceOf? ctx (place x) (entry x)).isSome ↔
      ∀ x ∈ xs, Walk.isScalar (entry x).1.untagged = true :=
    isSome_mapM_iff.trans (forall₂_congr fun x _ => isSome_occurrenceOf?_iff (place x) (entry x))
  rw [← hsome]
  cases hos : xs.mapM fun x => occurrenceOf? ctx (place x) (entry x) with
  | none => exact iff_of_false Bool.false_ne_true fun h => Bool.false_ne_true h.1
  | some os =>
    have heq : os = xs.map fun x => occurrenceOf ctx (place x) (entry x) := by
      refine eq_map_of_mapM (fun x o ho => ?_) hos
      obtain ⟨key, hkey, rfl⟩ := Option.map_eq_some_iff.mp ho
      exact (occurrenceOf_eq _ hkey).symm
    rw [Option.bind_some, heq]
    exact (and_iff_right rfl).symm

theorem lines_comments (place : Place) (position : Nat) (key : String) :
    (ctx.comments ((place.index position).key key)).lines =
      ctx.saidAt (place.segments ++ [PathSegment.index position, PathSegment.key key]) := by
  show ctx.saidAt (place.segments ++ [PathSegment.index position] ++ [PathSegment.key key]) = _
  rw [List.append_assoc]
  rfl

/-- Agreement does not depend on which of two entries comes first, so all pairs are meant. -/
theorem pairwise_agree_iff {place : Place} {es : List (Nat × Value × Value)}
    (hscalar : ∀ e ∈ es, Walk.isScalar e.2.1.untagged = true) :
    (es.map fun e => occurrenceOf ctx (place.index e.1) e.2).Pairwise
        (fun o other => o.key = other.key → Comment.Agree o.block.lines other.block.lines) ↔
      ∀ e ∈ es, ∀ other ∈ es, ctx.AgreeAbove place.segments e other := by
  have hsymm : Std.Symm (ctx.AgreeAbove place.segments) :=
    ⟨fun _ _ h key hkey hother => (h key hother hkey).symm⟩
  have hrefl : ∀ e ∈ es, ctx.AgreeAbove place.segments e e := fun _ _ _ _ _ => .refl _
  have hagree : ∀ {e other : Nat × Value × Value}, e ∈ es → other ∈ es →
      (((occurrenceOf ctx (place.index e.1) e.2).key =
          (occurrenceOf ctx (place.index other.1) other.2).key →
        Comment.Agree (occurrenceOf ctx (place.index e.1) e.2).block.lines
          (occurrenceOf ctx (place.index other.1) other.2).block.lines) ↔
        ctx.AgreeAbove place.segments e other) := by
    intro e other he hother
    obtain ⟨key, hkey⟩ := exists_keyText? (hscalar e he)
    obtain ⟨key', hkey'⟩ := exists_keyText? (hscalar other hother)
    rw [occurrenceOf_eq _ hkey, occurrenceOf_eq _ hkey']
    show (key = key' → Comment.Agree (ctx.comments ((place.index e.1).key key)).lines
      (ctx.comments ((place.index other.1).key key')).lines) ↔ _
    rw [lines_comments, lines_comments]
    constructor
    · intro h same hsame hsame'
      obtain rfl := Option.some.inj (hkey.symm.trans hsame)
      obtain rfl := Option.some.inj (hkey'.symm.trans hsame')
      exact h rfl
    · rintro h rfl
      exact h key hkey hkey'
  rw [List.pairwise_map, List.Pairwise.iff_of_mem hagree]
  exact ⟨fun h _ he _ hother => h.forall_of_forall hrefl he hother, List.pairwise_of_forall_mem_list⟩

/-- **Entries can be merged** if the comments above each key agree, and the value that stands where a
key occurs first can be read. -/
theorem canMerge_iff {place : Place} {es : List (Nat × Value × Value)}
    (hscalar : ∀ e ∈ es, Walk.isScalar e.2.1.untagged = true) :
    CanMerge (fun _ => none) (es.map fun e => occurrenceOf ctx (place.index e.1) e.2) ↔
      (∀ e ∈ es, ∀ other ∈ es, ctx.AgreeAbove place.segments e other) ∧
      ∀ before e after, es = before ++ e :: after → ∀ key, keyText? e.2.1 = some key →
        (∀ earlier ∈ before, keyText? earlier.2.1 ≠ some key) →
          (Outline.ofValue? ctx ((place.index e.1).key key) e.2.2).isSome := by
  constructor
  · rintro ⟨-, hagree, hfirst⟩
    refine ⟨(pairwise_agree_iff hscalar).mp hagree, fun before e after hes key hkey hearlier => ?_⟩
    have hread := hfirst (before.map fun e => occurrenceOf ctx (place.index e.1) e.2) _ _
      (by rw [hes, List.map_append, List.map_cons]) rfl (List.forall_mem_map.mpr fun x hx => ?_)
    · rw [occurrenceOf_eq _ hkey] at hread
      exact hread
    · obtain ⟨other, hother⟩ := exists_keyText? (hscalar x (hes ▸ List.mem_append_left _ hx))
      rw [occurrenceOf_eq _ hkey, occurrenceOf_eq _ hother]
      exact fun heq => hearlier x hx (hother.trans (congrArg some heq))
  · rintro ⟨hagree, hfirst⟩
    refine ⟨nofun, (pairwise_agree_iff hscalar).mpr hagree, fun before o after hos _ hearlier => ?_⟩
    obtain ⟨front, back, hes, rfl, hback⟩ := List.map_eq_append_iff.mp hos
    obtain ⟨e, back, rfl, rfl, rfl⟩ := List.map_eq_cons_iff.mp hback
    have hmem : e ∈ es := hes ▸ List.mem_append_right _ List.mem_cons_self
    obtain ⟨key, hkey⟩ := exists_keyText? (hscalar e hmem)
    rw [occurrenceOf_eq _ hkey] at hearlier ⊢
    refine hfirst front e back hes key hkey fun x hx hsame => ?_
    refine hearlier _ (List.mem_map_of_mem hx) ?_
    rw [occurrenceOf_eq _ hsame]
    rfl

/-! ## Values that are read -/

theorem ofValue?_untagged (place : Place) (v : Value) :
    Outline.ofValue? ctx place v.untagged = Outline.ofValue? ctx place v := by
  match v with
  | .tagged tag inner =>
    rw [Outline.ofValue?]
    exact ofValue?_untagged place inner
  | .null | .bool _ | .number _ | .string _ | .sequence _ | .mapping _ => rfl
termination_by structural v

/-- **A value is read** if the entries of a mapping are, one by one, and those of the items of a list
of mappings are merged. -/
theorem isSome_ofValue?_iff (place : Place) (v : Value) :
    (Outline.ofValue? ctx place v).isSome ↔
      ((v.entries.mapM (occurrenceOf? ctx place)).bind (List.mapM Occurrence.field?)).isSome ∧
        ((v.mergedEntries.mapM fun e => occurrenceOf? ctx (place.index e.1) e.2).bind
          (merge? [])).isSome := by
  have hfields (entries : List (Value × Value)) :
      ((occurrences? ctx place entries).bind fun os =>
          (os.mapM Occurrence.field?).map (Outline.struct false)).isSome ↔
        ((entries.mapM (occurrenceOf? ctx place)).bind (List.mapM Occurrence.field?)).isSome := by
    rw [Walk.bind_map, Option.isSome_map, occurrences?_eq]
  have hmerged (items : List Value) :
      ((occurrencesOfItems? ctx place 0 items).bind fun os =>
          (merge? [] os).map (Outline.struct true)).isSome ↔
        (((Value.entriesOfItems 0 items).mapM fun e =>
          occurrenceOf? ctx (place.index e.1) e.2).bind (merge? [])).isSome := by
    rw [Walk.bind_map, Option.isSome_map, occurrencesOfItems?_eq]
  rw [← ofValue?_untagged]
  unfold Value.mergedEntries Value.entries Value.items
  cases hv : v.untagged with
  | mapping entries =>
    refine Iff.trans ?_ (and_iff_left rfl).symm
    rw [Outline.ofValue?]
    cases (ctx.comments place).typeHint with
    | none => cases entries <;> exact hfields _
    | some hint =>
      cases entries with
      | nil => exact iff_of_true rfl rfl
      | cons entry rest => exact hfields _
  | sequence items =>
    refine Iff.trans ?_ (and_iff_right rfl).symm
    rw [Outline.ofValue?]
    dsimp only
    split
    · exact hmerged items
    · exact iff_of_true rfl rfl
  | null | bool _ | number _ | string _ => exact iff_of_true rfl ⟨rfl, rfl⟩
  | tagged tag inner => exact absurd hv (Value.untagged_ne_tagged v tag inner)

/-- Everything that is read from a value on can be read. -/
def ReadableFrom (ctx : DocumentContext) (path : SourcePath) (v : Value) : Prop :=
  ∀ path' w, ReflTransGen Value.Below (path, v) (path', w) → ctx.IsReadable path' w

/-- A value can be read, and so can everything that is read from the values right below it. -/
theorem readableFrom_iff {path : SourcePath} {v : Value} :
    ReadableFrom ctx path v ↔ ctx.IsReadable path v ∧
      ∀ path' w, Value.Below (path, v) (path', w) → ReadableFrom ctx path' w := by
  constructor
  · exact fun h => ⟨h path v .refl, fun _ _ hbelow _ _ hreach => h _ _ (.head hbelow hreach)⟩
  · rintro ⟨hown, hbelow⟩ path' w hreach
    rcases hreach.cases_head with heq | ⟨⟨path₁, v₁⟩, hstep, hreach⟩
    · obtain ⟨rfl, rfl⟩ := Prod.mk.inj heq
      exact hown
    · exact hbelow _ _ hstep _ _ hreach

/-- **A value is read exactly if everything can be that is read from it on.** The induction is on the
value: what is read right below it is smaller. -/
theorem isSome_ofValue?_iff_readable (place : Place) (v : Value) :
    (Outline.ofValue? ctx place v).isSome ↔ ReadableFrom ctx place.segments v := by
  have hbelow {path : SourcePath} {w : Value} (h : Value.Below (place.segments, v) (path, w))
      {place' : Place} (hplace : place'.segments = path) :
      (Outline.ofValue? ctx place' w).isSome ↔ ReadableFrom ctx path w := by
    have hsmaller := Value.sizeOf_lt_of_below h
    rw [← hplace]
    exact isSome_ofValue?_iff_readable place' w
  have hentry {k w : Value} {key : String} (hmem : (k, w) ∈ v.entries)
      (hkey : keyText? k = some key) :
      (Outline.ofValue? ctx (place.key key) w).isSome ↔
        ReadableFrom ctx (place.segments ++ [PathSegment.key key]) w :=
    hbelow (.entry hmem hkey) rfl
  have hitem {k w : Value} {key : String} {position : Nat} {before after}
      (hsplit : v.mergedEntries = before ++ (position, k, w) :: after)
      (hkey : keyText? k = some key)
      (hfirst : ∀ entry ∈ before, keyText? entry.2.1 ≠ some key) :
      (Outline.ofValue? ctx ((place.index position).key key) w).isSome ↔
        ReadableFrom ctx (place.segments ++ [PathSegment.index position, PathSegment.key key]) w :=
    hbelow (.item hsplit hkey hfirst) (List.append_assoc _ _ _)
  rw [isSome_ofValue?_iff, isSome_bind_occurrences_iff, isSome_bind_occurrences_iff,
    readableFrom_iff, isSome_mapM_iff, List.forall_mem_map, isSome_merge?_iff]
  constructor
  · rintro ⟨⟨hkeys, hfields⟩, hitemKeys, hmerge⟩
    obtain ⟨hagree, hfirsts⟩ := (canMerge_iff hitemKeys).mp hmerge
    refine ⟨⟨hkeys, hitemKeys, hagree⟩, fun path w hstep => ?_⟩
    cases hstep with
    | entry hmem hkey =>
      have hfield := hfields _ hmem
      rw [Occurrence.field?, Option.isSome_map, occurrenceOf_eq _ hkey] at hfield
      exact (hentry hmem hkey).mp hfield
    | item hsplit hkey hfirst =>
      exact (hitem hsplit hkey hfirst).mp (hfirsts _ _ _ hsplit _ hkey hfirst)
  · rintro ⟨⟨hkeys, hitemKeys, hagree⟩, hsteps⟩
    refine ⟨⟨hkeys, fun entry hmem => ?_⟩, hitemKeys, (canMerge_iff hitemKeys).mpr
      ⟨hagree, fun before e after hsplit key hkey hfirst => ?_⟩⟩
    · obtain ⟨key, hkey⟩ := exists_keyText? (hkeys entry hmem)
      rw [Occurrence.field?, Option.isSome_map, occurrenceOf_eq _ hkey]
      exact (hentry hmem hkey).mpr (hsteps _ _ (.entry hmem hkey))
    · exact (hitem hsplit hkey hfirst).mpr (hsteps _ _ (.item hsplit hkey hfirst))
termination_by sizeOf v

end Outline

namespace Schema

variable {ctx : DocumentContext} {v : Value}

/-- The fields of a resource are read exactly if the keys of its root are scalars and everything can be
read that is. -/
theorem isSome_ofRoot?_iff {kind : String} {root : List (Value × Value)} :
    (Outline.ofRoot? ctx kind root).isSome ↔
      (∀ entry ∈ root, Walk.isScalar entry.1.untagged = true) ∧
        ∀ path w, Value.IsRead root path w → ctx.IsReadable path w := by
  have hfield {k w : Value} {key : String} (hkey : keyText? k = some key) :
      (Outline.occurrenceOf ctx (Place.root kind) (k, w)).field?.isSome ↔
        Outline.ReadableFrom ctx [.key key] w := by
    rw [Occurrence.field?, Option.isSome_map, Outline.occurrenceOf_eq _ hkey]
    exact Outline.isSome_ofValue?_iff_readable ((Place.root kind).key key) w
  rw [Outline.ofRoot?, Outline.occurrences?_eq, Outline.isSome_bind_occurrences_iff,
    isSome_mapM_iff]
  refine and_congr_right fun hscalar => ⟨?_, ?_⟩
  · rintro hfields path w ⟨k, v, key, hmem, hkey, hown, hreach⟩
    refine (hfield hkey).mp (hfields _ (List.mem_filter.mpr ⟨List.mem_map_of_mem hmem, ?_⟩)) path w
      hreach
    rw [Outline.occurrenceOf_eq _ hkey]
    have hown : reservedKeys.contains key = false :=
      Bool.eq_false_iff.mpr (mt List.contains_iff_mem.mp hown)
    show (!reservedKeys.contains key) = true
    rw [hown, Bool.not_false]
  · intro hread o ho
    obtain ⟨ho, hown⟩ := List.mem_filter.mp ho
    obtain ⟨⟨k, w⟩, hmem, rfl⟩ := List.mem_map.mp ho
    obtain ⟨key, hkey⟩ := exists_keyText? (hscalar _ hmem)
    rw [Outline.occurrenceOf_eq _ hkey] at hown
    have hnew : key ∉ reservedKeys := fun hmem => by
      have hown : (!reservedKeys.contains key) = true := hown
      rw [List.contains_iff_mem.mpr hmem] at hown
      exact Bool.false_ne_true hown
    exact (hfield hkey).mpr fun path' w' hreach => hread path' w' ⟨k, w, key, hmem, hkey, hnew, hreach⟩

/-- **A document has a schema exactly if it says what it describes and nothing in it is refused**: it
is a mapping that says a version that can be read, or none, and a kind; its keys are scalars; and
every value that is read in it can be. -/
theorem exists_ofValue_iff (ctx : DocumentContext) (v : Value) :
    (∃ schema, ofValue ctx v = .ok schema) ↔
      ∃ root, v.untagged = .mapping root ∧ SaysVersion root ∧ SaysKind root ∧
        (∀ entry ∈ root, Walk.isScalar entry.1.untagged = true) ∧
        ∀ path w, Value.IsRead root path w → ctx.IsReadable path w := by
  constructor
  · rintro ⟨schema, h⟩
    obtain ⟨root, kind, apiVersion, fields, -, -, hroot, hkind, hversion, hfields, -⟩ :=
      ofValue_realises h
    exact ⟨root, hroot, exists_apiVersionOf_iff.mp ⟨_, hversion⟩, exists_kindOf_iff.mp ⟨_, hkind⟩,
      isSome_ofRoot?_iff.mp (Option.isSome_of_eq_some hfields)⟩
  · rintro ⟨root, hroot, hversion, hkind, hread⟩
    obtain ⟨apiVersion, hversion⟩ := exists_apiVersionOf_iff.mpr hversion
    obtain ⟨kind, hkind⟩ := exists_kindOf_iff.mpr hkind
    obtain ⟨fields, hfields⟩ := Option.isSome_iff_exists.mp (isSome_ofRoot?_iff.mpr hread)
    exact exists_ofValue hroot hkind hversion hfields

end Schema
end ChartSchema
