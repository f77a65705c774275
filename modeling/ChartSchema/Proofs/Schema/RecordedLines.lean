import ChartSchema.Proofs.Schema.ScanBelow
/-!
# What is recorded stands in the text

The scanner looks at single lines and takes no note of scalars that go on over several of them, so a
line within a quoted text that looks like the line of a key is recorded as one. What holds of every
text is that nothing comes from anywhere else (`SourceMap.scan_isReadFrom`):

* the last key of a recorded path is what `splitKey` finds on the recorded line, behind its
  indentation and dashes;
* the comments are those of lines directly above, with nothing between them but dashes;
* every key that the path leads through is recorded too, on a line further up.

The state between two lines needs three facts more to keep this: the keys on the stack are recorded,
the comments that wait are those directly above the next line, and none waits while a block scalar is
open.
-/

namespace ChartSchema

namespace LineScan

open Text BlockStyle

/-! ## What a line holds -/

/-- What a line holds behind its indentation. -/
def contentOf (raw : List Char) : List Char :=
  Text.trimEnd (raw.dropWhile (· == ' '))

/-- **What stands behind dashes** that a text starts with, or behind none of them. -/
inductive BehindDashes : List Char → List Char → Prop
  /-- Before all dashes. -/
  | here (content : List Char) : BehindDashes content content
  /-- Behind a dash and the spaces that follow it. -/
  | dash {content after rest : List Char} : afterDash? content = some after →
      BehindDashes (after.dropWhile (· == ' ')) rest → BehindDashes content rest

/-- Whether a line has the form of a line with this key. -/
def HasKey (raw : List Char) (name : String) : Prop :=
  ∃ rest key value, BehindDashes (contentOf raw) rest ∧ splitKey rest = some (key, value) ∧
    name = String.ofList key

/-- Whether a line has the form of a line with this comment and nothing else. -/
def HasComment (raw : List Char) (comment : String) : Prop :=
  ∃ text, BehindDashes (contentOf raw) ('#' :: text) ∧ comment = String.ofList ('#' :: text)

/-- **Lines that leave comments for a key**: each holds a comment, or nothing behind dashes. -/
inductive LeaveComments : List (List Char) → List String → Prop
  /-- No line. -/
  | nil : LeaveComments [] []
  /-- A line with a comment. -/
  | comment {run : List (List Char)} {comments : List String} {raw : List Char} {comment : String} :
      LeaveComments run comments → HasComment raw comment →
      LeaveComments (run ++ [raw]) (comments ++ [comment])
  /-- A line with dashes alone. -/
  | dashes {run : List (List Char)} {comments : List String} {raw : List Char} :
      LeaveComments run comments → contentOf raw ≠ [] → BehindDashes (contentOf raw) [] →
      LeaveComments (run ++ [raw]) comments

/-- Lines that leave comments stand at the end of others. -/
def CommentsAbove (lines : List (List Char)) (comments : List String) : Prop :=
  ∃ earlier run, lines = earlier ++ run ∧ LeaveComments run comments

theorem CommentsAbove.none (lines : List (List Char)) : CommentsAbove lines [] :=
  ⟨lines, [], (List.append_nil lines).symm, .nil⟩

theorem CommentsAbove.comment {lines : List (List Char)} {comments : List String} {raw : List Char}
    {comment : String} (h : CommentsAbove lines comments) (hraw : HasComment raw comment) :
    CommentsAbove (lines ++ [raw]) (comments ++ [comment]) := by
  obtain ⟨earlier, run, rfl, hrun⟩ := h
  exact ⟨earlier, run ++ [raw], List.append_assoc .., hrun.comment hraw⟩

theorem CommentsAbove.dashes {lines : List (List Char)} {comments : List String} {raw : List Char}
    (h : CommentsAbove lines comments) (hne : contentOf raw ≠ [])
    (hraw : BehindDashes (contentOf raw) []) : CommentsAbove (lines ++ [raw]) comments := by
  obtain ⟨earlier, run, rfl, hrun⟩ := h
  exact ⟨earlier, run ++ [raw], List.append_assoc .., hrun.dashes hne hraw⟩

end LineScan

/-! ## What is recorded -/

open LineScan

/-- **An entry that was read from lines**: its path ends with a key, which its line has, and its
comments stand directly above that line. -/
def SourceEntry.IsReadFrom (lines : List (List Char)) (path : SourcePath)
    (entry : SourceEntry) : Prop :=
  ∃ above raw below parents name, lines = above ++ raw :: below ∧
    entry.line = above.length + 1 ∧ path = parents ++ [PathSegment.key name] ∧ HasKey raw name ∧
    CommentsAbove above entry.comments

/-- **A map that was read from lines**, latest entries first. -/
structure SourceMap.IsReadFrom (lines : List (List Char)) (map : SourceMap) : Prop where
  /-- Every entry was read from them. -/
  entry : ∀ place ∈ map.entries, place.2.IsReadFrom lines place.1
  /-- No two entries have one path, and later ones stand further down. -/
  ordered : map.entries.Pairwise fun later earlier =>
    later.1 ≠ earlier.1 ∧ earlier.2.line < later.2.line
  /-- The keys on the way to an entry are recorded above it. -/
  parents : ∀ place ∈ map.entries, ∀ outer name, outer ++ [PathSegment.key name] <+: place.1 →
    outer ++ [PathSegment.key name] ≠ place.1 →
      ∃ above, (outer ++ [PathSegment.key name], above) ∈ map.entries ∧ above.line < place.2.line

section

variable {lines : List (List Char)} {map : SourceMap} {path : SourcePath} {entry : SourceEntry}

theorem SourceEntry.IsReadFrom.line_le (h : entry.IsReadFrom lines path) :
    entry.line ≤ lines.length := by
  obtain ⟨above, raw, below, _, _, rfl, hline, -⟩ := h
  rw [hline, List.length_append, List.length_cons]
  omega

/-- With another line below, an entry is read as it was. -/
theorem SourceEntry.IsReadFrom.more (h : entry.IsReadFrom lines path) (last : List Char) :
    entry.IsReadFrom (lines ++ [last]) path := by
  obtain ⟨above, raw, below, parents, name, rfl, hrest⟩ := h
  exact ⟨above, raw, below ++ [last], parents, name, List.append_assoc .., hrest⟩

theorem SourceMap.IsReadFrom.more (h : map.IsReadFrom lines) (last : List Char) :
    map.IsReadFrom (lines ++ [last]) :=
  ⟨fun place hplace => (h.entry place hplace).more last, h.ordered, h.parents⟩

end

namespace LineScan

namespace State

variable {lines : List (List Char)} {s : State} {column : Nat} {raw content : List Char}

/-- **The keys on a stack are recorded.** -/
def IsRecorded (map : SourceMap) (stack : List Frame) : Prop :=
  ∀ frame outer name, frame :: outer <:+ stack → frame.segment = .key name →
    ∃ entry, (pathOf (frame :: outer), entry) ∈ map.entries

/-- **The state behind lines.** -/
structure HasRead (lines : List (List Char)) (s : State) : Prop where
  /-- What is recorded was read from them. -/
  map : s.map.IsReadFrom lines
  /-- The keys around the next line are recorded. -/
  stack : IsRecorded s.map s.stack
  /-- The comments that wait stand directly above the next line. -/
  waiting : CommentsAbove lines s.pending
  /-- None waits while a block scalar is open. -/
  scalar : s.scalarOwner? ≠ none → s.pending = []

theorem IsRecorded.suffix {map : SourceMap} {stack inner : List Frame} (h : IsRecorded map stack)
    (hinner : inner <:+ stack) : IsRecorded map inner :=
  fun frame outer name hsuffix => h frame outer name (hsuffix.trans hinner)

/-- A frame that is entered leaves the others recorded. -/
theorem IsRecorded.cons {map : SourceMap} {stack : List Frame} (h : IsRecorded map stack)
    {frame : Frame} (hframe : ∀ name, frame.segment = .key name →
      ∃ entry, (pathOf (frame :: stack), entry) ∈ map.entries) :
    IsRecorded map (frame :: stack) := by
  intro other outer name hsuffix hname
  rcases List.suffix_cons_iff.mp hsuffix with heq | hsuffix
  · obtain ⟨rfl, rfl⟩ := List.cons.inj heq
    exact hframe name hname
  · exact h other outer name hsuffix hname

/-! ## Dashes -/

/-- To enter an item puts an item in front of some of the frames. -/
theorem exists_itemStack (stack : List Frame) (column : Nat) :
    ∃ position outer, itemStack stack column = ⟨column, .index position⟩ :: outer ∧
      outer <:+ stack := by
  have hdrop : stack.dropWhile (fun frame => decide (column < frame.column)) <:+ stack :=
    List.dropWhile_suffix _
  unfold itemStack
  split
  · next c previous outer heq =>
    rw [heq] at hdrop
    split
    · exact ⟨_, outer, rfl, (List.suffix_cons _ _).trans hdrop⟩
    · exact ⟨_, _, rfl, hdrop⟩
  · exact ⟨_, _, rfl, hdrop⟩

/-- What starts a block scalar does not start with a dash, nor with a comment sign. -/
theorem head_of_opensBlockScalar (h : opensBlockScalar content = true) :
    content ≠ [] ∧ content.head? ≠ some '#' ∧ afterDash? content = none := by
  refine ⟨?_, fun hhead => ?_, ?_⟩
  · rintro rfl
    exact absurd h (by decide)
  · obtain ⟨text, rfl⟩ := List.head?_eq_some_iff.mp hhead
    exact absurd h (by rw [opensBlockScalar_cons (by decide) (by decide)]; exact Bool.false_ne_true)
  · cases hdash : afterDash? content with
    | none => rfl
    | some after =>
      have hnode : StartsNode content := .inl (by rw [hdash]; rfl)
      exact absurd (hnode.opensBlockScalar.symm.trans h) Bool.false_ne_true

/-- **Past the dashes** at the start of a text: only the stack changes, its keys stay recorded, and a
block scalar is opened if one starts behind them. -/
structure PastDashes (s : State) (content : List Char) (t : State) (rest : List Char) : Prop where
  /-- What is left of the text. -/
  behind : BehindDashes content rest
  /-- Nothing is recorded. -/
  map : t.map = s.map
  /-- The comments go on waiting. -/
  pending : t.pending = s.pending
  /-- The keys around are recorded. -/
  stack : IsRecorded t.map t.stack
  /-- A block scalar may start. -/
  scalar : t.scalarOwner? = s.scalarOwner? ∨ opensBlockScalar rest = true

theorem enterItems_past (hstack : IsRecorded s.map s.stack) (column : Nat) (content : List Char)
    (dashes : Nat) :
    ∃ t column' rest, s.enterItems column content dashes = (t, column', rest) ∧
      s.PastDashes content t rest := by
  induction dashes generalizing s column content with
  | zero => exact ⟨s, column, content, rfl, .here content, rfl, rfl, hstack, .inl rfl⟩
  | succ dashes ih =>
    rw [enterItems]
    cases hafter : afterDash? content with
    | none => exact ⟨s, column, content, rfl, .here content, rfl, rfl, hstack, .inl rfl⟩
    | some after =>
      dsimp only
      obtain ⟨position, outer, hitem, houter⟩ := exists_itemStack s.stack column
      have hentered : IsRecorded s.map (⟨column, .index position⟩ :: outer) :=
        (hstack.suffix houter).cons fun _ hname => by cases hname
      have hbehind {rest : List Char} (h : BehindDashes (after.dropWhile (· == ' ')) rest) :
          BehindDashes content rest := .dash hafter h
      rw [enterItem_eq, hitem]
      generalize after.dropWhile (· == ' ') = inner at hbehind ⊢
      generalize column + (content.length - inner.length) = column'
      by_cases hopens : opensBlockScalar inner = true
      · -- A block scalar starts here, so no dash follows.
        have hstop (t : State) : t.enterItems column' inner dashes = (t, column', inner) := by
          cases dashes with
          | zero => rfl
          | succ dashes => rw [enterItems, (head_of_opensBlockScalar hopens).2.2]
        rw [if_pos hopens, hstop]
        exact ⟨_, column', inner, rfl, hbehind (.here _), rfl, rfl, hentered, .inr hopens⟩
      · rw [if_neg hopens]
        obtain ⟨t, column', rest, heq, hpast⟩ :=
          ih (s := { s with stack := ⟨column, .index position⟩ :: outer }) hentered column' inner
        exact ⟨t, column', rest, heq, hbehind hpast.behind, hpast.map, hpast.pending,
          hpast.stack, hpast.scalar⟩

/-! ## Keys -/

/-- A path on the way to a frame is that of a frame around it. -/
theorem exists_of_prefix {path : SourcePath} {stack : List Frame} (h : path <+: pathOf stack) :
    ∃ outer, outer <:+ stack ∧ pathOf outer = path := by
  have hsegments : path.reverse <:+ stack.map (·.segment) := by
    rw [← List.reverse_prefix, List.reverse_reverse]
    exact h
  obtain ⟨inner, hinner⟩ := hsegments
  obtain ⟨first, outer, rfl, -, houter⟩ := List.map_eq_append_iff.mp hinner.symm
  refine ⟨outer, List.suffix_append _ _, ?_⟩
  rw [pathOf, houter, List.reverse_reverse]

/-- What leads to a key is recorded, since it is the path of a frame around it. -/
theorem IsRecorded.exists_mem_of_prefix {map : SourceMap} {stack : List Frame}
    (h : IsRecorded map stack) {frame : Frame} {outer : SourcePath} {name : String}
    (houter : outer ++ [PathSegment.key name] <+: pathOf (frame :: stack))
    (hne : outer ++ [PathSegment.key name] ≠ pathOf (frame :: stack)) :
    ∃ entry, (outer ++ [PathSegment.key name], entry) ∈ map.entries := by
  rw [pathOf_cons] at houter hne
  obtain ⟨frames, hframes, hpath⟩ :=
    exists_of_prefix ((List.prefix_concat_iff.mp houter).resolve_left hne)
  cases frames with
  | nil => exact absurd hpath.symm (by simp [pathOf])
  | cons around frames =>
    rw [pathOf_cons] at hpath
    have hname := List.singleton_inj.mp (List.append_inj_right' hpath rfl)
    obtain ⟨entry, hentry⟩ := h around frames name hframes hname
    rw [pathOf_cons, hpath] at hentry
    exact ⟨entry, hentry⟩

/-- **A key is recorded** on the line below those that were read. If its path is there already, the
first one counts and nothing changes. -/
theorem isReadFrom_record {map : SourceMap} {stack : List Frame} {comments : List String}
    (hmap : map.IsReadFrom lines) (hstack : IsRecorded map stack)
    (hcomments : CommentsAbove lines comments) {name : String} (hkey : HasKey raw name)
    (column : Nat) :
    (map.record (pathOf (⟨column, .key name⟩ :: stack)) ⟨lines.length + 1, comments⟩).IsReadFrom
      (lines ++ [raw]) := by
  unfold SourceMap.record
  split
  · exact hmap.more raw
  · next hnew =>
    have hbelow : ∀ place ∈ map.entries, place.2.line < lines.length + 1 := fun place hplace =>
      Nat.lt_succ_of_le (hmap.entry place hplace).line_le
    -- A path that is new is none of those that are there.
    have hother : ∀ place ∈ map.entries, pathOf (⟨column, .key name⟩ :: stack) ≠ place.1 :=
      fun place hplace => bne_iff_ne.mp (List.lookup_eq_none_iff.mp hnew place hplace)
    refine {
      entry := List.forall_mem_cons.mpr ⟨?_, (hmap.more raw).entry⟩
      ordered := List.pairwise_cons.mpr
        ⟨fun place hplace => ⟨hother place hplace, hbelow place hplace⟩, hmap.ordered⟩
      parents := List.forall_mem_cons.mpr ⟨fun outer above houter hne => ?_,
        fun place hplace outer above houter hne => ?_⟩ }
    · exact ⟨lines, raw, [], pathOf stack, name, rfl, rfl, pathOf_cons _ _, hkey, hcomments⟩
    · obtain ⟨entry, hentry⟩ := hstack.exists_mem_of_prefix houter hne
      exact ⟨entry, List.mem_cons_of_mem _ hentry, hbelow _ hentry⟩
    · obtain ⟨entry, hentry, hline⟩ := hmap.parents place hplace outer above houter hne
      exact ⟨entry, List.mem_cons_of_mem _ hentry, hline⟩

/-- What is recorded stays recorded, and a path that is recorded is found. -/
theorem mem_record (map : SourceMap) (path : SourcePath) (entry : SourceEntry) :
    map.entries ⊆ (map.record path entry).entries ∧
      ∃ found, (path, found) ∈ (map.record path entry).entries := by
  unfold SourceMap.record
  split
  · next found hfound =>
    obtain ⟨before, after, heq, -⟩ := List.lookup_eq_some_iff.mp hfound
    exact ⟨List.Subset.refl _, found, by rw [heq]; exact List.mem_append_right _ List.mem_cons_self⟩
  · exact ⟨List.subset_cons_self _ _, entry, List.mem_cons_self⟩

theorem HasRead.enterKey (hmap : s.map.IsReadFrom lines) (hstack : IsRecorded s.map s.stack)
    (hcomments : CommentsAbove lines s.pending) {name : String} (hkey : HasKey raw name)
    (column : Nat) (value : List Char) :
    HasRead (lines ++ [raw]) (s.enterKey (lines.length + 1) column name value) := by
  have houter := hstack.suffix (List.dropWhile_suffix (fun frame => decide (column ≤ frame.column)))
  unfold State.enterKey
  generalize s.stack.dropWhile (fun frame => decide (column ≤ frame.column)) = outer at houter
  obtain ⟨hkept, found, hfound⟩ := mem_record s.map (pathOf (⟨column, .key name⟩ :: outer))
    ⟨lines.length + 1, s.pending⟩
  exact {
    map := isReadFrom_record hmap houter hcomments hkey column
    stack := IsRecorded.cons
      (fun frame frames name hsuffix hname =>
        (houter frame frames name hsuffix hname).imp fun _ hentry => hkept hentry)
      fun _ _ => ⟨found, hfound⟩
    waiting := .none _
    scalar := fun _ => rfl }

/-! ## Lines -/

/-- **A line that is no part of a block scalar** is blank, a comment, or has a key, dashes or text,
and each of these leaves what was recorded true. -/
theorem HasRead.scanContent (h : HasRead lines s) (hscalar : s.scalarOwner? = none)
    (column : Nat) (raw : List Char) :
    HasRead (lines ++ [raw]) (s.scanContent (lines.length + 1) column (contentOf raw)) := by
  have hmore : s.map.IsReadFrom (lines ++ [raw]) := h.map.more raw
  unfold State.scanContent
  split
  · exact ⟨hmore, h.stack, .none _, fun _ => rfl⟩
  · next text hcontent =>
    have hcomment : HasComment raw (String.ofList (contentOf raw)) :=
      ⟨text, by rw [hcontent]; exact .here _, by rw [hcontent]⟩
    exact ⟨hmore, h.stack, h.waiting.comment hcomment, fun hopen => absurd hscalar hopen⟩
  · next hne _ =>
    split
    · exact ⟨hmore, fun frame outer _ hsuffix => by simp at hsuffix, .none _, fun _ => rfl⟩
    · obtain ⟨t, column', rest, heq, hpast⟩ :=
        enterItems_past h.stack column (contentOf raw) (contentOf raw).length
      have hmap : t.map.IsReadFrom (lines ++ [raw]) := hpast.map ▸ hmore
      rw [heq]
      dsimp only
      split
      · have hclosed : t.scalarOwner? = none :=
          (hpast.scalar.resolve_right (by decide)).trans hscalar
        exact ⟨hmap, hpast.stack, hpast.pending ▸ h.waiting.dashes hne hpast.behind,
          fun hopen => absurd hclosed hopen⟩
      · next text =>
        have hclosed : t.scalarOwner? = none := by
          refine (hpast.scalar.resolve_right fun hopens => ?_).trans hscalar
          exact (head_of_opensBlockScalar hopens).2.1 rfl
        exact ⟨hmap, hpast.stack, hpast.pending ▸ h.waiting.comment ⟨text, hpast.behind, rfl⟩,
          fun hopen => absurd hclosed hopen⟩
      · split
        · exact ⟨hmap, hpast.stack, .none _, fun _ => rfl⟩
        · next key value hkey =>
          exact .enterKey (hpast.map ▸ h.map) hpast.stack (hpast.pending ▸ h.waiting)
            ⟨rest, key, value, hpast.behind, hkey, rfl⟩ column' value

/-- **Every line** is read like this, or skipped as a part of a block scalar. What waits above a key
is forgotten where such a scalar starts. -/
theorem HasRead.scanLine (h : HasRead lines s) (raw : List Char) :
    HasRead (lines ++ [raw]) (s.scanLine (lines.length + 1) raw) := by
  unfold State.scanLine
  dsimp only
  split
  · next owner howner =>
    have hpending : s.pending = [] := h.scalar (by rw [howner]; exact Option.some_ne_none owner)
    split
    · exact ⟨h.map.more raw, h.stack, hpending ▸ .none _, h.scalar⟩
    · exact HasRead.scanContent (s := { s with scalarOwner? := none })
        ⟨h.map, h.stack, h.waiting, fun hopen => absurd rfl hopen⟩ rfl _ raw
  · next hnone => exact h.scanContent hnone _ raw

/-- **Reading lines keeps what was recorded true**, one after the other. -/
theorem HasRead.scanLines (h : HasRead lines s) (raws : List (List Char)) :
    HasRead (lines ++ raws) (s.scanLines (lines.length + 1) raws) := by
  induction raws generalizing lines s with
  | nil => rwa [List.append_nil]
  | cons raw raws ih =>
    have hstep := ih (h.scanLine raw)
    rwa [List.append_assoc, List.length_append] at hstep

theorem HasRead.start : HasRead [] {} where
  map :=
    { entry := fun _ hplace => absurd hplace List.not_mem_nil
      ordered := .nil
      parents := fun _ hplace => absurd hplace List.not_mem_nil }
  stack := fun _ _ _ hsuffix => by simp at hsuffix
  waiting := .none []
  scalar := fun hopen => absurd rfl hopen

end State
end LineScan

/-- **Nothing is recorded that does not stand in the text.** Each entry has its key on its line and
its comments directly above, every path is recorded once and further down than the keys that lead to
it, and the entries come in the order of their lines. -/
theorem SourceMap.scan_isReadFrom (text : String) :
    (SourceMap.scan text).IsReadFrom (Text.lines text.toList) :=
  (LineScan.State.HasRead.start.scanLines (Text.lines text.toList)).map

/-- That the line has the form of a line with a key does not make it one: here it is the end of a
quoted text, and the document has no such key. -/
example : (SourceMap.scan "a: \"x\n  b: y\"\n").entries =
    [([.key "a", .key "b"], ⟨2, []⟩), ([.key "a"], ⟨1, []⟩)] := by
  decide +kernel

/-! ## Comments -/

namespace LineScan

open Text

theorem suffix_of_afterDash? {content after : List Char} (h : afterDash? content = some after) :
    after <:+ content := by
  unfold afterDash? at h
  split at h
  · obtain rfl := Option.some.inj h
    exact List.nil_suffix
  · obtain rfl := Option.some.inj h
    exact (List.suffix_cons _ _).trans (List.suffix_cons _ _)
  · exact nomatch h

theorem BehindDashes.suffix {content rest : List Char} (h : BehindDashes content rest) :
    rest <:+ content := by
  induction h with
  | here content => exact List.suffix_rfl
  | dash hafter _ ih => exact (ih.trans (List.dropWhile_suffix _)).trans (suffix_of_afterDash? hafter)

theorem contentOf_subset (raw : List Char) : contentOf raw ⊆ raw :=
  fun _ hc => (List.dropWhile_suffix _).subset ((isPrefix_trimEnd _).subset hc)

theorem HasComment.mem {raw : List Char} {comment : String} (h : HasComment raw comment) :
    '#' ∈ raw := by
  obtain ⟨text, hbehind, -⟩ := h
  exact contentOf_subset raw (hbehind.suffix.subset List.mem_cons_self)

theorem LeaveComments.eq_nil {run : List (List Char)} {comments : List String}
    (h : LeaveComments run comments) (hrun : ∀ raw ∈ run, '#' ∉ raw) : comments = [] := by
  induction h with
  | nil => rfl
  | comment _ hcomment => exact absurd hcomment.mem (hrun _ (by simp))
  | dashes _ _ _ ih => exact ih fun raw hraw => hrun raw (List.mem_append_left _ hraw)

theorem subset_of_mem_splitOn {sep : Char → Bool} {s piece : List Char}
    (h : piece ∈ splitOn sep s) : piece ⊆ s := by
  induction s generalizing piece with
  | nil =>
    rw [splitOn, List.mem_singleton] at h
    rw [h]
    exact List.Subset.refl _
  | cons c s ih =>
    rw [splitOn] at h
    split at h
    · rcases List.mem_cons.mp h with rfl | h
      · exact List.nil_subset _
      · exact List.subset_cons_of_subset _ (ih h)
    · split at h
      · next hnil => exact absurd hnil (splitOn_ne_nil sep s)
      · next first pieces hpieces =>
        rcases List.mem_cons.mp h with rfl | h
        · exact List.cons_subset_cons c (ih (hpieces ▸ List.mem_cons_self))
        · exact List.subset_cons_of_subset _ (ih (hpieces ▸ List.mem_cons_of_mem _ h))

theorem subset_of_mem_lines {s line : List Char} (h : line ∈ lines s) : line ⊆ s := by
  have hpieces (pieces : List (List Char)) (hline : line ∈ linesOfPieces pieces) :
      ∃ piece ∈ pieces, line ⊆ piece := by
    induction pieces with
    | nil => exact absurd hline List.not_mem_nil
    | cons piece rest ih =>
      cases rest with
      | nil =>
        rw [linesOfPieces] at hline
        split at hline
        · exact absurd hline List.not_mem_nil
        · exact ⟨piece, List.mem_cons_self, List.mem_singleton.mp hline ▸ List.Subset.refl _⟩
      | cons next rest =>
        rcases List.mem_cons.mp hline with rfl | hline
        · exact ⟨piece, List.mem_cons_self, (isPrefix_dropReturn piece).subset⟩
        · obtain ⟨found, hfound, hsubset⟩ := ih hline
          exact ⟨found, List.mem_cons_of_mem _ hfound, hsubset⟩
  obtain ⟨piece, hpiece, hsubset⟩ := hpieces _ h
  exact List.Subset.trans hsubset (subset_of_mem_splitOn hpiece)

end LineScan

/-- **A text without a comment sign has no comments.** -/
theorem SourceMap.comments_eq_nil {text : String} (h : '#' ∉ text.toList) (path : SourcePath) :
    (SourceMap.scan text).comments path = [] := by
  unfold SourceMap.comments
  split
  · next entry hentry =>
    obtain ⟨before, after, heq, -⟩ := List.lookup_eq_some_iff.mp hentry
    have hread := (SourceMap.scan_isReadFrom text).entry (path, entry)
      (by rw [heq]; exact List.mem_append_right _ List.mem_cons_self)
    obtain ⟨above, raw, below, -, -, hlines, -, -, -, earlier, run, rfl, hrun⟩ := hread
    refine hrun.eq_nil fun line hline hsign => h (LineScan.subset_of_mem_lines ?_ hsign)
    rw [hlines]
    exact List.mem_append_left _ (List.mem_append_right _ hline)
  · rfl

end ChartSchema
