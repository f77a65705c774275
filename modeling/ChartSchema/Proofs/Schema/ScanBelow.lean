import ChartSchema.Proofs.Schema.ScanDocument
import ChartSchema.Proofs.Yaml.ScanEntries
/-!
# Where keys stand below other lines

The line scanner knows nesting by columns alone, so lines in front of a document can only matter in
three ways: they record keys of their own, they move the other lines down, and what they leave open
may be taken for the parent of what follows. A key in column 0 leaves everything that was open, so
below it nothing of the lines before is left but their number and their records (`Tracks`).
-/

namespace ChartSchema

open BlockStyle (spaces Key isKeyChar)

/-- The path of an entry of the root. -/
def Yaml.WordEntry.path (e : Yaml.WordEntry) : SourcePath := [.key e.key.name]

/-- A place further down. -/
def SourceEntry.down (lines : Nat) (entry : SourceEntry) : SourceEntry :=
  { entry with line := entry.line + lines }

namespace SourceMap

theorem get?_record (map : SourceMap) (path : SourcePath) (entry : SourceEntry)
    (other : SourcePath) :
    (map.record path entry).get? other =
      (map.get? other).or (if other = path then some entry else none) := by
  unfold record
  split
  · next hsome =>
    split
    · next heq => rw [heq, hsome]; rfl
    · rw [Option.or_none]
  · next hnone =>
    show ((path, entry) :: map.entries).lookup other = _
    rw [List.lookup_cons]
    split
    · next heq =>
      obtain rfl := eq_of_beq heq
      rw [if_pos rfl, hnone]
      rfl
    · next hne =>
      rw [if_neg (by simpa using hne), Option.or_none]
      rfl

/-- **The same places further down**, under all paths but some that were added. -/
def Below (lines : Nat) (added : List SourcePath) (map below : SourceMap) : Prop :=
  ∀ path, path ∉ added → below.get? path = (map.get? path).map (·.down lines)

variable {lines : Nat} {added : List SourcePath} {map below : SourceMap}

theorem Below.record (h : map.Below lines added below) (path : SourcePath) (entry : SourceEntry) :
    (map.record path entry).Below lines added (below.record path (entry.down lines)) := by
  intro other hother
  rw [get?_record, get?_record, h other hother]
  cases map.get? other with
  | some place => rfl
  | none =>
    show (if other = path then _ else _) = Option.map _ (if other = path then _ else _)
    split <;> rfl

theorem Below.record_added (h : map.Below lines added below) {path : SourcePath}
    (hpath : path ∈ added) (entry : SourceEntry) :
    map.Below lines added (below.record path entry) := by
  intro other hother
  have hne : other ≠ path := by
    rintro rfl
    exact hother hpath
  rw [get?_record, if_neg hne, Option.or_none, h other hother]

end SourceMap

namespace LineScan.State

variable {lines : Nat} {added : List SourcePath} {s t : State}

/-- **Two scanners agree**, one of them further down, but for what is open around the line. -/
structure Agree (lines : Nat) (added : List SourcePath) (s t : State) : Prop where
  /-- The same comments wait for a key. -/
  pending : t.pending = s.pending
  /-- The same block scalar is open. -/
  scalarOwner : t.scalarOwner? = s.scalarOwner?
  /-- The same places are recorded. -/
  map : s.map.Below lines added t.map

/-- They agree also in what is open around the line. -/
structure Tracks (lines : Nat) (added : List SourcePath) (s t : State) : Prop
    extends Agree lines added s t where
  /-- The same keys and items are open. -/
  stack : t.stack = s.stack

theorem Tracks.enterItem (h : Tracks lines added s t) (column : Nat) :
    Tracks lines added (s.enterItem column) (t.enterItem column) := by
  rw [enterItem_eq, enterItem_eq, h.stack]
  exact { h with stack := rfl }

theorem Tracks.enterItems (h : Tracks lines added s t) (column : Nat) (content : List Char)
    (dashes : Nat) :
    (t.enterItems column content dashes).2 = (s.enterItems column content dashes).2 ∧
      Tracks lines added (s.enterItems column content dashes).1
        (t.enterItems column content dashes).1 := by
  induction dashes generalizing s t column content with
  | zero => exact ⟨rfl, h⟩
  | succ dashes ih =>
    unfold LineScan.State.enterItems
    split
    · exact ⟨rfl, h⟩
    · dsimp only
      refine ih ?_ _ _
      split
      · exact { h.enterItem column with scalarOwner := rfl }
      · exact h.enterItem column

/-- **A key closes what stands in its column or deeper**; where the rest agrees, so does all that
follows. -/
theorem Agree.enterKey (h : Agree lines added s t) {column : Nat}
    (hstack : t.stack.dropWhile (column ≤ ·.column) = s.stack.dropWhile (column ≤ ·.column))
    (line : Nat) (key : String) (value : List Char) :
    Tracks lines added (s.enterKey line column key value)
      (t.enterKey (line + lines) column key value) := by
  have hmap (u : State) (line : Nat) : (u.enterKey line column key value).map = u.map.record
      (pathOf (⟨column, .key key⟩ :: u.stack.dropWhile (column ≤ ·.column))) ⟨line, u.pending⟩ := rfl
  refine ⟨⟨rfl, ?_, ?_⟩, congrArg (List.cons (⟨column, .key key⟩ : Frame)) hstack⟩
  · show (if opensBlockScalar value then some column else t.scalarOwner?) = _
    rw [h.scalarOwner]
    rfl
  · rw [hmap, hmap, hstack, h.pending]
    exact h.map.record _ ⟨line, s.pending⟩

theorem Agree.clear (h : Agree lines added s t) :
    Agree lines added { s with pending := [] } { t with pending := [] } :=
  { h with pending := rfl }

theorem Agree.wait (h : Agree lines added s t) (comment : String) :
    Agree lines added { s with pending := s.pending ++ [comment] }
      { t with pending := t.pending ++ [comment] } :=
  { h with pending := congrArg (· ++ [comment]) h.pending }

theorem Tracks.scanContent (h : Tracks lines added s t) (line column : Nat) (content : List Char) :
    Tracks lines added (s.scanContent line column content)
      (t.scanContent (line + lines) column content) := by
  unfold LineScan.State.scanContent
  split
  · exact { h.clear with stack := h.stack }
  · exact { h.wait _ with stack := h.stack }
  · split
    · exact { h.clear with stack := rfl }
    · obtain ⟨hsame, hitems⟩ := h.enterItems column content content.length
      generalize s.enterItems column content content.length = entered at hsame hitems ⊢
      generalize t.enterItems column content content.length = entered' at hsame hitems ⊢
      obtain ⟨s, column, rest⟩ := entered
      obtain ⟨t, column', rest'⟩ := entered'
      obtain ⟨rfl, rfl⟩ := Prod.mk.inj hsame
      dsimp only at hitems ⊢
      split
      · exact hitems
      · exact { hitems.wait _ with stack := hitems.stack }
      · split
        · exact { hitems.clear with stack := hitems.stack }
        · exact hitems.enterKey (congrArg _ hitems.stack) _ _ _

/-- **A line is read in the same way further down.** What the scanner does depends on the frames
that are open, and not on the number of the line. -/
theorem Tracks.scanLine (h : Tracks lines added s t) (line : Nat) (raw : List Char) :
    Tracks lines added (s.scanLine line raw) (t.scanLine (line + lines) raw) := by
  have hclosed : Tracks lines added { s with scalarOwner? := none } { t with scalarOwner? := none } :=
    { h with scalarOwner := rfl }
  unfold LineScan.State.scanLine
  rw [h.scalarOwner]
  dsimp only
  split
  · split
    · exact h
    · exact hclosed.scanContent ..
  · exact h.scanContent ..

theorem Tracks.scanLines (h : Tracks lines added s t) (line : Nat) (raws : List (List Char)) :
    Tracks lines added (s.scanLines line raws) (t.scanLines (line + lines) raws) := by
  induction raws generalizing s t line with
  | nil => exact h
  | cons raw rest ih =>
    have hrest := ih (h.scanLine line raw) (line + 1)
    rwa [Nat.add_right_comm] at hrest

end LineScan.State

namespace LineScan

/-! ## Lines without a key -/

/-- Whether a line is blank or a comment. -/
def isBare (raw : List Char) : Bool :=
  match Text.trimEnd (raw.dropWhile (· == ' ')) with
  | [] | '#' :: _ => true
  | _ => false

/-- The comments that wait for a key behind a line without one. -/
def waiting (pending : List String) (raw : List Char) : List String :=
  match Text.trimEnd (raw.dropWhile (· == ' ')) with
  | [] => []
  | content => pending ++ [String.ofList content]

theorem State.scanLine_bare {s : State} (hs : s.scalarOwner? = none) {raw : List Char}
    (hraw : isBare raw = true) (line : Nat) :
    s.scanLine line raw = { s with pending := waiting s.pending raw } := by
  obtain ⟨map, stack, pending, owner⟩ := s
  obtain rfl : owner = none := hs
  unfold isBare at hraw
  unfold State.scanLine waiting
  dsimp only
  split at hraw
  · next hcontent =>
    rw [hcontent]
    rfl
  · next hcontent =>
    rw [hcontent]
    rfl
  · exact nomatch hraw

/-- Lines without a key change the comments that wait for one, and nothing else. -/
theorem State.scanLines_bare {s : State} (hs : s.scalarOwner? = none) {raws : List (List Char)}
    (hraws : ∀ raw ∈ raws, isBare raw = true) (line : Nat) :
    s.scanLines line raws = { s with pending := raws.foldl waiting s.pending } := by
  induction raws generalizing s line with
  | nil => rfl
  | cons raw rest ih =>
    rw [State.scanLines, s.scanLine_bare hs (hraws raw List.mem_cons_self)]
    exact ih (s := { s with pending := waiting s.pending raw }) hs
      (fun raw hraw => hraws raw (List.mem_cons_of_mem _ hraw)) (line + 1)

theorem isBare_of_all_isBlank {raw : List Char} (h : raw.all Text.isBlank = true) :
    isBare raw = true := by
  have hcontent : Text.trimEnd (raw.dropWhile (· == ' ')) = [] :=
    Text.trimEnd_of_all_isBlank (List.all_eq_true.mpr fun c hc =>
      List.all_eq_true.mp h c ((List.dropWhile_suffix _).subset hc))
  rw [isBare, hcontent]

theorem isBare_comment (indent : Nat) (remark : List Char) :
    isBare (spaces indent ++ '#' :: remark) = true := by
  rw [isBare, State.dropWhile_spaces indent (by simp), Text.trimEnd_cons_of_not_isBlank (by decide)]
  rfl

theorem not_lineFeed {s : List Char} (h : Yaml.InLine s) : ∀ c ∈ s, (c == '\n') = false := by
  intro c hc
  refine beq_eq_false_iff_ne.mpr ?_
  rintro rfl
  exact absurd (h _ hc) (by decide)

theorem lines_lineEnd {s : List Char} (h : Yaml.InLine s) (withReturn : Bool) (rest : List Char) :
    ∃ line, Text.lines (s ++ (Yaml.lineEnd withReturn ++ rest)) =
        Text.dropReturn line :: Text.lines rest ∧ (line = s ∨ line = s ++ ['\r']) := by
  cases withReturn with
  | false => exact ⟨s, Text.lines_append_cons (not_lineFeed h) rest, .inl rfl⟩
  | true =>
    have hall : ∀ c ∈ s ++ ['\r'], (c == '\n') = false := fun c hc =>
      (List.mem_append.mp hc).elim (not_lineFeed h c) fun hreturn => by
        rw [List.mem_singleton.mp hreturn]
        rfl
    have hlines := Text.lines_append_cons hall rest
    rw [List.append_assoc] at hlines
    exact ⟨_, hlines, .inr rfl⟩

/-- Lines without a token are lines without a key. -/
theorem lines_leads {text rest : List Char} (h : Yaml.Leads text rest) :
    ∃ raws, (∀ raw ∈ raws, isBare raw = true) ∧ Text.lines text = raws ++ Text.lines rest := by
  have hspaces (n : Nat) : (spaces n).all Text.isBlank = true :=
    List.all_eq_true.mpr fun c hc => by
      rw [List.eq_of_mem_replicate hc]
      rfl
  have hlast {s : List Char} (hin : Yaml.InLine s) (hbare : isBare s = true) :
      ∃ raws, (∀ raw ∈ raws, isBare raw = true) ∧ Text.lines s = raws ++ Text.lines [] := by
    refine ⟨if s.isEmpty then [] else [s], fun raw hraw => ?_, ?_⟩
    · split at hraw
      · exact absurd hraw List.not_mem_nil
      · rw [List.mem_singleton.mp hraw]
        exact hbare
    · rw [Text.lines_of_forall (not_lineFeed hin)]
      exact (List.append_nil _).symm
  have hline {s text rest : List Char} (hin : Yaml.InLine s) (withReturn : Bool)
      (hbare : isBare (Text.dropReturn s) = true ∧ isBare (Text.dropReturn (s ++ ['\r'])) = true)
      (ih : ∃ raws, (∀ raw ∈ raws, isBare raw = true) ∧ Text.lines text = raws ++ Text.lines rest) :
      ∃ raws, (∀ raw ∈ raws, isBare raw = true) ∧
        Text.lines (s ++ (Yaml.lineEnd withReturn ++ text)) = raws ++ Text.lines rest := by
    obtain ⟨raws, hraws, ih⟩ := ih
    obtain ⟨line, hlines, hline⟩ := lines_lineEnd hin withReturn text
    refine ⟨Text.dropReturn line :: raws, List.forall_mem_cons.mpr ⟨?_, hraws⟩, ?_⟩
    · rcases hline with rfl | rfl
      · exact hbare.1
      · exact hbare.2
    · rw [hlines, ih, List.cons_append]
  induction h with
  | token => exact ⟨[], by simp, rfl⟩
  | lastBlank indent => exact hlast (.spaces indent) (isBare_of_all_isBlank (hspaces indent))
  | lastComment indent hremark =>
    exact hlast ((Yaml.InLine.spaces indent).append (.cons rfl hremark)) (isBare_comment ..)
  | blank indent withReturn _ ih =>
    have hblank {s : List Char} (h : s.all Text.isBlank = true) :
        isBare (Text.dropReturn s) = true :=
      isBare_of_all_isBlank (List.all_eq_true.mpr fun c hc =>
        List.all_eq_true.mp h c ((Text.isPrefix_dropReturn s).subset hc))
    refine hline (.spaces indent) withReturn ⟨hblank (hspaces indent), hblank ?_⟩ ih
    rw [List.all_append, hspaces]
    rfl
  | comment indent withReturn hremark _ ih =>
    have hin := (Yaml.InLine.spaces indent).append (.cons (c := '#') rfl hremark)
    have hcomment := hline hin withReturn ⟨?_, ?_⟩ ih
    · rwa [List.append_assoc] at hcomment
    · rw [Text.dropReturn_append_cons _ (by decide)]
      exact isBare_comment ..
    · rw [List.append_assoc, List.cons_append, Text.dropReturn_append_cons _ (by decide)]
      exact isBare_comment ..

/-! ## The line of a key in column 0 -/

namespace State

/-- A key in column 0 is recorded, and closes an open block scalar. -/
theorem scanLine_key (s : State) (line : Nat) (key : Key) {value : List Char}
    (h : endsKey (Text.trimEnd value) = true) :
    s.scanLine line (key.text ++ ':' :: value) = { s with scalarOwner? := none }.enterKey line 0
      key.name (Text.trim (Text.trimEnd value)) := by
  obtain ⟨c, r, hcons, halpha⟩ := text_cons key
  have hnode : StartsNode (key.text ++ ':' :: value) :=
    .inr ⟨c, r ++ ':' :: value, by rw [hcons]; rfl, halpha⟩
  have htrim : Text.trimEnd (key.text ++ ':' :: value) = key.text ++ ':' :: Text.trimEnd value := by
    have hcolon : Text.trimEnd (':' :: value) = ':' :: Text.trimEnd value :=
      Text.trimEnd_cons_of_not_isBlank (by decide) value
    rw [Text.trimEnd_append_of_ne_nil _ (by rw [hcolon]; exact List.cons_ne_nil _ _), hcolon]
  have hline := scanLine_node (s := s) line 0 (fun _ _ => Nat.zero_le _) hnode
  rw [htrim, goOn_key _ line 0 key h] at hline
  exact hline

/-- No matter what is open, a key in column 0 closes it. -/
theorem dropWhile_zero (stack : List Frame) : stack.dropWhile (0 ≤ ·.column) = [] := by
  induction stack with
  | nil => rfl
  | cons frame rest ih => exact (List.dropWhile_cons_of_pos rfl).trans ih

variable {lines : Nat} {added : List SourcePath} {s t : State}

/-- **Below a key in column 0 nothing of the lines before is left.** Such a key closes all frames
that they left open. -/
theorem Agree.scanLine_key (h : Agree lines added s t) (line : Nat) (key : Key) {value : List Char}
    (hvalue : endsKey (Text.trimEnd value) = true) :
    Tracks lines added (s.scanLine line (key.text ++ ':' :: value))
      (t.scanLine (line + lines) (key.text ++ ':' :: value)) := by
  have hclosed : Agree lines added { s with scalarOwner? := none } { t with scalarOwner? := none } :=
    { h with scalarOwner := rfl }
  rw [State.scanLine_key s line key hvalue, State.scanLine_key t _ key hvalue]
  exact hclosed.enterKey ((dropWhile_zero _).trans (dropWhile_zero _).symm) ..

/-- An entry that was added leaves nothing but its record. -/
theorem Agree.scanLine_entry (h : Agree lines added {} t) (e : Yaml.WordEntry)
    (he : e.path ∈ added) (line : Nat) :
    Agree lines added {} (t.scanLine line (e.key.text ++ ':' :: ' ' :: e.value)) := by
  obtain ⟨hne, -, hletters⟩ := Yaml.isWord_iff.mp e.isWord
  obtain ⟨c, r, hcons⟩ := List.exists_cons_of_ne_nil hne
  have hblank : ∀ c ∈ e.value, Text.isBlank c = false := fun c hc => (isKeyChar_ne (hletters c hc)).1
  have hvalue : Text.trimEnd e.value = e.value := Text.trimEnd_of_all_not_isBlank hblank
  have hspace : Text.trimEnd (' ' :: e.value) = ' ' :: e.value := by
    have happend := Text.trimEnd_append_of_ne_nil [' '] (b := e.value)
      (by rwa [hvalue])
    rwa [hvalue] at happend
  have htrim : Text.trim (' ' :: e.value) = e.value := by
    have hstart : Text.trimStart (' ' :: e.value) = e.value := by
      rw [hcons] at hblank ⊢
      show (' ' :: c :: r).dropWhile Text.isBlank = c :: r
      rw [List.dropWhile_cons_of_pos rfl,
        List.dropWhile_cons_of_neg (by simp [hblank c List.mem_cons_self])]
    rw [Text.trim, hstart, hvalue]
  have hscalar : opensBlockScalar e.value = false := by
    rw [hcons]
    have hc := hletters c (hcons ▸ List.mem_cons_self)
    refine opensBlockScalar_cons (isKeyChar_ne hc).1 (fun hmem => ?_) r
    simp only [List.mem_cons, List.not_mem_nil, or_false] at hmem
    rcases hmem with rfl | rfl | rfl | rfl <;> exact absurd hc (by decide)
  rw [State.scanLine_key t line e.key (by rw [hspace]; rfl), hspace, htrim]
  refine ⟨rfl, ?_, ?_⟩
  · show (if opensBlockScalar e.value then _ else none) = none
    rw [hscalar]
    rfl
  · have hrecord := h.map.record_added he ⟨line, t.pending⟩
    show SourceMap.Below _ _ _ (t.map.record (pathOf (_ :: t.stack.dropWhile (0 ≤ ·.column))) _)
    rw [dropWhile_zero]
    exact hrecord

end State

/-- What stands behind the colon of a key, up to the end of the line. -/
theorem endsKey_of_opensValue {value tail : List Char}
    (h : Yaml.opensValue (value ++ tail) = true) (hvalue : ∀ c ∈ value, (c == '\n') = false) :
    endsKey (Text.trimEnd (Text.dropReturn value)) = true ∧
      (tail = [] → endsKey (Text.trimEnd value) = true) := by
  have hends {c : Char} (hc : c = ' ' ∨ c = '\t') (s : List Char) :
      endsKey (Text.trimEnd (c :: s)) = true := by
    rw [Text.trimEnd]
    split
    · rcases hc with rfl | rfl <;> rfl
    · rcases hc with rfl | rfl <;> rfl
  cases value with
  | nil => exact ⟨rfl, fun _ => rfl⟩
  | cons c s =>
    have hc : c ≠ '\n' := fun heq => absurd (hvalue c List.mem_cons_self) (by simp [heq])
    unfold Yaml.opensValue at h
    split at h
    · next hnil => exact absurd hnil (List.cons_ne_nil _ _)
    · next hcons =>
      obtain ⟨rfl, hfeed⟩ := List.cons.inj hcons
      clear hcons
      cases s with
      | nil =>
        refine ⟨rfl, ?_⟩
        rintro rfl
        exact absurd hfeed.symm (List.cons_ne_nil _ _)
      | cons d s =>
        obtain ⟨rfl, -⟩ := List.cons.inj hfeed
        exact absurd (hvalue '\n' (by simp)) (by decide)
    · next heq =>
      obtain ⟨rfl, -⟩ := List.cons.inj heq
      have hspace : c = ' ' ∨ c = '\t' := by simpa [hc] using h
      have hreturn : c ≠ '\r' := by rcases hspace with rfl | rfl <;> decide
      have hdrop := Text.dropReturn_append_cons [] hreturn s
      rw [List.nil_append, List.nil_append] at hdrop
      rw [hdrop]
      exact ⟨hends hspace _, fun _ => hends hspace _⟩

theorem lines_key (key : Key) {after : List Char} (h : Yaml.opensValue after = true) :
    ∃ value below, endsKey (Text.trimEnd value) = true ∧
      Text.lines (key.text ++ ':' :: after) = (key.text ++ ':' :: value) :: below := by
  obtain ⟨value, tail, rfl, hvalue, htail⟩ := Text.exists_line after
  obtain ⟨hreturn, hlast⟩ := endsKey_of_opensValue h hvalue
  have hline : ∀ c ∈ key.text ++ ':' :: value, (c == '\n') = false := by
    intro c hc
    rcases List.mem_append.mp hc with hc | hc
    · exact not_break_of_isOneLine key.isOneLine c hc
    · rcases List.mem_cons.mp hc with rfl | hc
      · rfl
      · exact hvalue c hc
  rcases htail with rfl | ⟨rest, rfl⟩
  · refine ⟨value, [], hlast rfl, ?_⟩
    rw [List.append_nil, Text.lines_of_forall hline, if_neg (by simp)]
  · refine ⟨Text.dropReturn value, Text.lines rest, hreturn, ?_⟩
    rw [← List.cons_append, ← List.append_assoc, Text.lines_append_cons hline,
      Text.dropReturn_append_cons _ (by decide)]

theorem lines_entry (e : Yaml.WordEntry) (below : List Char) :
    Text.lines (e.line ++ below) = (e.key.text ++ ':' :: ' ' :: e.value) :: Text.lines below := by
  obtain ⟨-, -, hletters⟩ := Yaml.isWord_iff.mp e.isWord
  have hvalue : BlockStyle.isOneLine e.value = true := List.all_eq_true.mpr fun c hc => by
    obtain ⟨hfeed, hreturn⟩ := BlockStyle.isKeyChar_not_break (hletters c hc)
    simp [hfeed, hreturn]
  have hone : BlockStyle.isOneLine (e.key.text ++ ':' :: ' ' :: e.value) = true := by
    rw [BlockStyle.isOneLine_append, e.key.isOneLine]
    exact hvalue
  have hlines := Text.lines_append_cons (not_break_of_isOneLine hone) below
  rw [dropReturn_of_isOneLine hone] at hlines
  simpa [Yaml.WordEntry.line] using hlines

theorem lines_entries (entries : List Yaml.WordEntry) (below : List Char) :
    Text.lines (entries.flatMap (·.line) ++ below) =
      entries.map (fun e => e.key.text ++ ':' :: ' ' :: e.value) ++ Text.lines below := by
  induction entries with
  | nil => rfl
  | cons e rest ih =>
    rw [List.flatMap_cons, List.append_assoc, lines_entry, ih, List.map_cons, List.cons_append]

namespace State

variable {lines : Nat} {added : List SourcePath} {s t : State}

/-- Lines without a key are read in the same way, whatever is open. -/
theorem Agree.scanLines_bare (h : Agree lines added s t) (hs : s.scalarOwner? = none)
    {raws : List (List Char)} (hraws : ∀ raw ∈ raws, isBare raw = true) (line line' : Nat) :
    Agree lines added (s.scanLines line raws) (t.scanLines line' raws) := by
  rw [State.scanLines_bare hs hraws, State.scanLines_bare (h.scalarOwner.trans hs) hraws]
  exact { h with pending := congrArg (raws.foldl waiting) h.pending }

/-- Entries that were added leave nothing but their records. -/
theorem Agree.scanLines_entries (h : Agree lines added {} t) {entries : List Yaml.WordEntry}
    (hentries : ∀ e ∈ entries, e.path ∈ added) (line : Nat) :
    Agree lines added {} (t.scanLines line
      (entries.map fun e => e.key.text ++ ':' :: ' ' :: e.value)) := by
  induction entries generalizing t line with
  | nil => exact h
  | cons e rest ih =>
    exact ih (h.scanLine_entry e (hentries e List.mem_cons_self) line)
      (fun e he => hentries e (List.mem_cons_of_mem _ he)) (line + 1)

/-- **A document that starts with a key is read in the same way**, wherever it stands. Blank lines
and comments may come before the key. -/
theorem Agree.scanLines_opening (h : Agree lines added {} t) {text : List Char}
    (hopening : Yaml.Opening text) (line : Nat) :
    (scanLines {} line (Text.lines text)).map.Below lines added
      (t.scanLines (line + lines) (Text.lines text)).map := by
  cases hopening with
  | empty hleads =>
    obtain ⟨raws, hraws, hlines⟩ := lines_leads hleads
    have hnil : Text.lines text = raws := hlines.trans (List.append_nil raws)
    rw [hnil]
    exact (h.scanLines_bare rfl hraws line (line + lines)).map
  | key key _ hafter hleads =>
    obtain ⟨raws, hraws, hlines⟩ := lines_leads hleads
    obtain ⟨value, below, hvalue, hkey⟩ := lines_key key hafter
    rw [hlines, hkey, scanLines_append, scanLines_append, Nat.add_right_comm]
    have hbare := h.scanLines_bare rfl hraws line (line + lines)
    have htracks := (hbare.scanLine_key (line + raws.length) key hvalue).scanLines
      (line + raws.length + 1) below
    rw [Nat.add_right_comm (line + raws.length)] at htracks
    exact htracks.map

end State

end LineScan

/-- **Below entries that were added every key stands under its path as before**, so many lines further
down, and with the same comments. -/
theorem SourceMap.scan_lines {text : List Char} (h : Yaml.Opening text) {below : List Char}
    (hbelow : Yaml.Below text below) (entries : List Yaml.WordEntry) :
    (scan (String.ofList text)).Below (entries.length + 1)
      (entries.map (·.path))
      (scan (String.ofList (entries.flatMap (·.line) ++ below))) := by
  have hstart : LineScan.State.Agree (entries.length + 1)
      (entries.map (·.path)) {} {} := ⟨rfl, rfl, fun _ _ => rfl⟩
  have hentries := hstart.scanLines_entries (fun _ he => List.mem_map_of_mem he) 1
  unfold scan
  rw [String.toList_ofList, String.toList_ofList, LineScan.lines_entries,
    LineScan.State.scanLines_append, List.length_map]
  cases hbelow with
  | line =>
    have hnone : ∀ c ∈ ([] : List Char), (c == '\n') = false := by simp
    have hline : Text.lines ('\n' :: text) = [] :: Text.lines text :=
      Text.lines_append_cons hnone text
    have hbare : ∀ raw ∈ [[]], LineScan.isBare raw = true := List.forall_mem_singleton.mpr rfl
    have hblank := hentries.scanLines_bare rfl hbare 1 (1 + entries.length)
    rw [hline]
    exact LineScan.State.Agree.scanLines_opening hblank h 1
  | nothing hleads =>
    obtain ⟨raws, hraws, hlines⟩ := LineScan.lines_leads hleads
    have hnil : Text.lines text = raws := hlines.trans (List.append_nil raws)
    rw [hnil, LineScan.State.scanLines_bare rfl hraws]
    exact hentries.map

end ChartSchema
