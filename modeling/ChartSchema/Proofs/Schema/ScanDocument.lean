import ChartSchema.Proofs.Schema.ScanLine
/-!
# The scanner recovers a document

`SourceMap.scan` sees characters and columns. Given the text of a document in block style it finds
the keys of the tree: each under its structural path, with the number of its line and the comments
above it, and nothing else (`SourceMap.scan_text`).

## What holds between two nodes

Let the stack of the scanner, above the frames `base` of the nodes around, hold only frames in some
column or deeper. Then a line in that column leaves exactly `base` behind. This is what
`State.Behind` says of the state behind a node, together with the two other things the scanner
could carry on: no comment waits for a key, and an open block scalar is closed by the next line in
that column.

The proof is one induction over the tree. Before a node the scanner *arrives* at its column, with
`base` as its stack; behind the node it has recorded the places of the node's lines, and it is
`Behind` the node again. A sequence needs one thing more: the dash of its next item counts on from
the item it has passed.
-/

namespace ChartSchema

/-- Record places, one after the other. -/
def SourceMap.recordAll (map : SourceMap) (places : List (SourcePath × SourceEntry)) : SourceMap :=
  places.foldl (fun map place => map.record place.1 place.2) map

theorem SourceMap.recordAll_append (map : SourceMap)
    (above below : List (SourcePath × SourceEntry)) :
    map.recordAll (above ++ below) = (map.recordAll above).recordAll below :=
  List.foldl_append

namespace LineScan

open Text BlockStyle

theorem endsKey_trimEnd_spaces (n : Nat) (content : List Char) :
    endsKey (Text.trimEnd (spaces (n + 1) ++ content)) = true := by
  obtain ⟨tail, htail⟩ := isPrefix_trimEnd (spaces (n + 1) ++ content)
  cases hkept : Text.trimEnd (spaces (n + 1) ++ content) with
  | nil => rfl
  | cons c kept =>
    rw [hkept] at htail
    injection htail with hc
    rw [hc]
    rfl

namespace State

variable {s t : State} {line indent : Nat} {marks : List Char}

theorem pathOf_cons (frame : Frame) (base : List Frame) :
    pathOf (frame :: base) = pathOf base ++ [frame.segment] :=
  List.reverse_cons

/-! ## Behind a node -/

/-- **Behind a node**: the stack is `base` below frames in a column or deeper, no comment waits,
and an open block scalar does not reach beyond a line in that column. -/
structure Behind (s : State) (column : Nat) (base : List Frame) : Prop where
  /-- No comment waits for a key. -/
  pending : s.pending = []
  /-- A line in the column closes an open block scalar. -/
  scalar : ∀ owner ∈ s.scalarOwner?, column ≤ owner
  /-- A line in the column leaves `base`. -/
  stack : ∃ inner, s.stack = inner ++ base ∧ ∀ frame ∈ inner, column ≤ frame.column

/-- Behind a node is behind the key or item it belongs to. -/
theorem Behind.outer {column column' : Nat} {frame : Frame} {base : List Frame}
    (h : s.Behind column' (frame :: base)) (hcolumn : column ≤ column')
    (hframe : column ≤ frame.column) : s.Behind column base := by
  obtain ⟨inner, hstack, hinner⟩ := h.stack
  refine ⟨h.pending, fun owner howner => Nat.le_trans hcolumn (h.scalar owner howner), inner ++ [frame],
    by rw [hstack, List.append_assoc]; rfl, fun f hf => ?_⟩
  rcases List.mem_append.mp hf with hf | hf
  · exact Nat.le_trans hcolumn (hinner f hf)
  · rwa [List.mem_singleton.mp hf]

theorem dropWhile_base {column : Nat} {base : List Frame}
    (hbase : ∀ frame ∈ base, frame.column < column) :
    base.dropWhile (fun frame => decide (column ≤ frame.column)) = base := by
  cases base with
  | nil => rfl
  | cons frame base =>
    have hframe := hbase frame List.mem_cons_self
    rw [List.dropWhile_cons, if_neg (by simpa using hframe)]

theorem Behind.dropWhile {column : Nat} {base : List Frame} (h : s.Behind column base)
    (hbase : ∀ frame ∈ base, frame.column < column) :
    s.stack.dropWhile (fun frame => decide (column ≤ frame.column)) = base := by
  obtain ⟨inner, hstack, hinner⟩ := h.stack
  rw [hstack, List.dropWhile_append_of_pos fun f hf => decide_eq_true (hinner f hf),
    dropWhile_base hbase]

/-- Behind what stands deeper than an item, the next dash counts on from it. -/
theorem Behind.next {column column' : Nat} {index : Nat} {base : List Frame}
    (h : s.Behind column' (⟨column, .index index⟩ :: base)) (hcolumn : column < column') :
    itemStack s.stack column = ⟨column, .index (index + 1)⟩ :: base := by
  obtain ⟨inner, hstack, hinner⟩ := h.stack
  rw [hstack]
  exact itemStack_next (fun frame hframe => Nat.lt_of_lt_of_le hcolumn (hinner frame hframe)) index base

/-- Behind a node the scanner arrives at the next line in its column. -/
theorem Behind.arrives {column : Nat} {base : List Frame} (h : s.Behind column base) (line : Nat) :
    s.Arrives line column [] { s with scalarOwner? := none } :=
  State.arrives h.pending line column h.scalar

/-- **Inside a key or item**: the frame has just been entered, and its value begins on the next
line. -/
structure Inside (s : State) (frame : Frame) (base : List Frame) : Prop where
  /-- No comment waits for a key. -/
  pending : s.pending = []
  /-- No block scalar is open. -/
  scalar : s.scalarOwner? = none
  /-- The frame is the innermost. -/
  stack : s.stack = frame :: base

/-- Before a value nothing stands above the frame it belongs to, in whatever column. -/
theorem Inside.behind {frame : Frame} {base : List Frame} (h : s.Inside frame base)
    (column : Nat) : s.Behind column (frame :: base) where
  pending := h.pending
  scalar := by rw [h.scalar]; simp
  stack := ⟨[], h.stack, by simp⟩

theorem Inside.arrives {frame : Frame} {base : List Frame} (h : s.Inside frame base)
    (line column : Nat) : s.Arrives line column [] s := by
  have harrives := (h.behind column).arrives line
  rwa [show { s with scalarOwner? := none } = s by rw [← h.scalar]] at harrives

/-- The scanner has read a node: it started in `t`, recorded the places it found and is behind
the node. -/
structure Reads (t s : State) (column : Nat) (base : List Frame)
    (found : List (SourcePath × SourceEntry)) : Prop where
  /-- The places are recorded. -/
  map : s.map = t.map.recordAll found
  /-- The node is passed. -/
  behind : s.Behind column base

/-! ## The line of a key and the line of a scalar item -/

/-- The line of a key, with what stands above it: the key is recorded under the path of the nodes
around it, and becomes the innermost of them. -/
theorem Arrives.keyLines (h : s.Arrives line indent marks t) (hscalar : t.scalarOwner? = none)
    {base : List Frame}
    (hstack : t.stack.dropWhile (fun f => decide (indent + marks.length ≤ f.column)) = base)
    (path : SourcePath) (hpath : path = pathOf base) (above : Above) (key : Key)
    {value : List Char} (hvalue : endsKey (Text.trimEnd value) = true) :
    s.scanLines line ((BlockStyle.keyLines path indent marks above key value).map (·.text)) =
      { map := t.map.recordAll (places line
          (BlockStyle.keyLines path indent marks above key value))
        stack := ⟨indent + marks.length, .key key.name⟩ :: base
        pending := []
        scalarOwner? := if opensBlockScalar (trim (Text.trimEnd value)) then
          some (indent + marks.length) else none } := by
  obtain ⟨c, rest, hcons, halpha⟩ := text_cons key
  have hstart : StartsNode (key.text ++ ':' :: value) :=
    .inr ⟨c, rest ++ ':' :: value, by rw [hcons]; rfl, halpha⟩
  have htrim : Text.trimEnd (key.text ++ ':' :: value) =
      key.text ++ ':' :: Text.trimEnd value := by
    have hcolon : Text.trimEnd (':' :: value) = ':' :: Text.trimEnd value :=
      trimEnd_cons_of_not_isBlank (by decide) value
    rw [trimEnd_append_of_ne_nil key.text (by rw [hcolon]; exact List.cons_ne_nil _ _), hcolon]
  rw [places_keyLines, BlockStyle.keyLines, List.map_append, List.map_singleton,
    h above _ hstart, htrim, goOn_key _ _ _ key hvalue]
  unfold enterKey
  dsimp only
  rw [hstack, hscalar, hpath,
    ← pathOf_cons ⟨indent + marks.length, .key key.name⟩ base]
  rfl

/-- The line of an item with a scalar: the scanner enters the item and finds nothing in it. -/
theorem Arrives.scalarItem (h : s.Arrives line indent marks t) (gap : Nat) (value : Scalar) :
    s.scanLines line [spaces indent ++ (marks ++ (BlockStyle.dash gap ++ value.head))] =
      { map := t.map
        stack := itemStack t.stack (indent + marks.length)
        pending := []
        scalarOwner? := if opensBlockScalar (Text.trimEnd value.head) then
          some (indent + marks.length) else t.scalarOwner? } := by
  have harrive := h {} (BlockStyle.dash gap ++ value.head) (.of_dash gap value.head)
  refine harrive.trans ?_
  by_cases hempty : Text.trimEnd value.head = []
  · have hdash : Text.trimEnd (BlockStyle.dash gap) = ['-'] := by
      rw [BlockStyle.dash, trimEnd_cons_of_not_isBlank (by decide),
        trimEnd_of_all_isBlank (List.all_eq_true.mpr fun c hc => by
          rw [List.eq_of_mem_replicate hc]; decide)]
    rw [trimEnd_append_of_eq_nil _ hempty, hdash, goOn_bare_dash, enterItem_eq, hempty]
    rfl
  · have hspace : (Text.trimEnd value.head).head? ≠ some ' ' := fun heq =>
      absurd (head?_trimEnd_head value ' ' heq) (by decide)
    rw [trimEnd_append_of_ne_nil _ hempty, goOn_dash _ _ _ gap hspace, enterItem_eq]
    split
    · exact goOn_scalar rfl _ _ value
    · exact goOn_scalar rfl _ _ value

/-- Behind a key with nothing else on its line the scanner is inside that key. -/
theorem Arrives.inside_key (h : s.Arrives line indent marks t) (hscalar : t.scalarOwner? = none)
    {base : List Frame}
    (hstack : t.stack.dropWhile (fun f => decide (indent + marks.length ≤ f.column)) = base)
    (above : Above) (key : Key) :
    (s.scanLines line ((BlockStyle.keyLines (pathOf base) indent marks above key []).map
      (·.text))).Inside ⟨indent + marks.length, .key key.name⟩ base := by
  rw [h.keyLines hscalar hstack _ rfl above key rfl]
  exact ⟨rfl, rfl, rfl⟩

theorem Arrives.map_key (h : s.Arrives line indent marks t) (hscalar : t.scalarOwner? = none)
    {base : List Frame}
    (hstack : t.stack.dropWhile (fun f => decide (indent + marks.length ≤ f.column)) = base)
    (above : Above) (key : Key) :
    (s.scanLines line ((BlockStyle.keyLines (pathOf base) indent marks above key []).map
      (·.text))).map = t.map.recordAll (places line
        (BlockStyle.keyLines (pathOf base) indent marks above key [])) := by
  rw [h.keyLines hscalar hstack _ rfl above key rfl]

/-- What is found in the value of a key or item adds to what was found before it. -/
theorem Reads.outer {u : State} {column column' : Nat} {frame : Frame} {base : List Frame}
    {above below : List (SourcePath × SourceEntry)} (hmap : u.map = t.map.recordAll above)
    (h : Reads u s column' (frame :: base) below) (hcolumn : column ≤ column')
    (hframe : column ≤ frame.column) : Reads t s column base (above ++ below) where
  map := by rw [h.map, hmap, SourceMap.recordAll_append]
  behind := h.behind.outer hcolumn hframe

/-- What is found behind the dash of an item is found in the item, and the next dash counts on. -/
theorem Reads.item {u : State} {column column' index : Nat} {base : List Frame}
    {found : List (SourcePath × SourceEntry)} (hmap : u.map = t.map)
    (h : Reads u s column' (⟨column, .index index⟩ :: base) found) (hcolumn : column < column') :
    Reads t s column base found ∧
      itemStack s.stack column = ⟨column, .index (index + 1)⟩ :: base :=
  ⟨⟨by rw [h.map, hmap], h.behind.outer (Nat.le_of_lt hcolumn) (Nat.le_refl _)⟩,
    h.behind.next hcolumn⟩

/-- Behind a dash with nothing else on its line the scanner is inside the item. -/
theorem Arrives.bare_dash (h : s.Arrives line indent marks t) (hscalar : t.scalarOwner? = none)
    {frame : Frame} {base : List Frame}
    (hstack : itemStack t.stack (indent + marks.length) = frame :: base) :
    (s.scanLine line (spaces indent ++ (marks ++ ['-']))).map = t.map ∧
      (s.scanLine line (spaces indent ++ (marks ++ ['-']))).Inside frame base := by
  have hline : s.scanLine line (spaces indent ++ (marks ++ ['-'])) =
      { t with pending := [] }.enterItem (indent + marks.length) := h {} ['-'] (.inl rfl)
  rw [hline, enterItem_eq]
  exact ⟨rfl, rfl, hscalar, hstack⟩

/-! ## Nodes -/

mutual

/-- **The entries of a mapping** that stands under `base` are read. Each one closes what the one
before it opened, so the next one finds the stack as the first one did. -/
theorem reads_entries (entries : Entries) {s t : State} {line indent : Nat} {marks : List Char}
    {base : List Frame} (h : s.Arrives line indent marks t) (hscalar : t.scalarOwner? = none)
    (hstack : t.stack.dropWhile (fun f => decide (indent + marks.length ≤ f.column)) = base)
    (hbase : ∀ frame ∈ base, frame.column < indent + marks.length) :
    Reads t
      (s.scanLines line ((entries.lines (pathOf base) indent marks).map (·.text)))
      (indent + marks.length) base
      (places line (entries.lines (pathOf base) indent marks)) := by
  cases entries with
  | one entry => exact reads_entry entry h hscalar hstack hbase
  | cons entry rest =>
    have hentry := reads_entry entry h hscalar hstack hbase
    have hrest := reads_entries rest
      (hentry.behind.arrives (line + (entry.lines (pathOf base) indent marks).length)) rfl
      (hentry.behind.dropWhile hbase) hbase
    rw [Entries.lines, List.map_append, scanLines_append, List.length_map, places_append]
    refine ⟨?_, hrest.behind⟩
    rw [hrest.map, SourceMap.recordAll_append, ← hentry.map]

/-- **An entry** of a mapping that stands under `base` is read. -/
theorem reads_entry (entry : Entry) {s t : State} {line indent : Nat} {marks : List Char}
    {base : List Frame} (h : s.Arrives line indent marks t) (hscalar : t.scalarOwner? = none)
    (hstack : t.stack.dropWhile (fun f => decide (indent + marks.length ≤ f.column)) = base)
    (hbase : ∀ frame ∈ base, frame.column < indent + marks.length) :
    Reads t
      (s.scanLines line ((entry.lines (pathOf base) indent marks).map (·.text)))
      (indent + marks.length) base
      (places line (entry.lines (pathOf base) indent marks)) := by
  cases entry with
  | scalar above key gap value =>
    have howns : Owns (if opensBlockScalar (trim (Text.trimEnd (spaces (gap + 1) ++ value.head)))
        then some (indent + marks.length) else none) (indent + marks.length) value :=
      .of_text _ value fun htail => trim_spaces_head_of_tail htail (gap + 1)
    rw [Entry.lines, List.map_append, scanLines_append, places_append, places_tail,
      List.append_nil, h.keyLines hscalar hstack _ rfl above key
        (endsKey_trimEnd_spaces gap value.head), scanLines_tail rfl _ howns]
    refine ⟨rfl, rfl, fun owner howner => Nat.le_of_eq (howns.owner owner howner).symm, ?_⟩
    exact ⟨[⟨indent + marks.length, .key key.name⟩], rfl, by simp⟩
  | mapping above key step value =>
    have hinside := h.inside_key hscalar hstack above key
    have hbelow : ∀ frame ∈ (⟨indent + marks.length, .key key.name⟩ :: base : List Frame),
        frame.column < indent + marks.length + step + 1 := by
      refine List.forall_mem_cons.mpr ⟨by dsimp only; omega, fun frame hframe => ?_⟩
      have := hbase frame hframe
      omega
    rw [Entry.lines, List.map_append, scanLines_append, List.length_map, places_append,
      ← pathOf_cons ⟨indent + marks.length, .key key.name⟩ base]
    refine .outer (h.map_key hscalar hstack above key)
      (reads_entries value (hinside.arrives _ _) hinside.scalar
        ((hinside.behind _).dropWhile hbelow) hbelow) ?_ (Nat.le_refl _)
    show indent + marks.length ≤ indent + marks.length + step + 1
    omega
  | sequence above key step value =>
    have hinside := h.inside_key hscalar hstack above key
    have hbelow : ∀ frame ∈ (⟨indent + marks.length, .key key.name⟩ :: base : List Frame),
        frame.column ≤ indent + marks.length + step := by
      refine List.forall_mem_cons.mpr ⟨Nat.le_add_right _ _, fun frame hframe => ?_⟩
      have := hbase frame hframe
      omega
    have hfirst : itemStack (⟨indent + marks.length, .key key.name⟩ :: base)
        (indent + marks.length + step) =
          ⟨indent + marks.length + step, .index 0⟩ :: ⟨indent + marks.length, .key key.name⟩ ::
            base :=
      itemStack_first (Nat.le_add_right _ step) (fun _ => by simp) base
    rw [Entry.lines, List.map_append, scanLines_append, List.length_map, places_append,
      ← pathOf_cons ⟨indent + marks.length, .key key.name⟩ base]
    refine .outer (h.map_key hscalar hstack above key)
      (reads_items value (hinside.arrives _ _) hinside.scalar ?_ hbelow) (Nat.le_add_right _ _)
      (Nat.le_refl _)
    exact (congrArg (itemStack · _) hinside.stack).trans hfirst

/-- **The items of a sequence** that stands under `base` are read. -/
theorem reads_items (items : Items) {s t : State} {line indent : Nat} {marks : List Char}
    {base : List Frame} {index : Nat} (h : s.Arrives line indent marks t)
    (hscalar : t.scalarOwner? = none)
    (hstack : itemStack t.stack (indent + marks.length) =
      ⟨indent + marks.length, .index index⟩ :: base)
    (hbase : ∀ frame ∈ base, frame.column ≤ indent + marks.length) :
    Reads t
      (s.scanLines line ((items.lines (pathOf base) index indent marks).map (·.text)))
      (indent + marks.length) base
      (places line (items.lines (pathOf base) index indent marks)) := by
  cases items with
  | one item => exact (reads_item item h hscalar hstack hbase).1
  | cons item rest =>
    obtain ⟨hitem, hnext⟩ := reads_item item h hscalar hstack hbase
    have hrest := reads_items rest (hitem.behind.arrives (line +
      (item.lines (pathOf base ++ [PathSegment.index index]) indent marks).length)) rfl hnext hbase
    rw [Items.lines, List.map_append, scanLines_append, List.length_map, places_append]
    refine ⟨?_, hrest.behind⟩
    rw [hrest.map, SourceMap.recordAll_append, ← hitem.map]

/-- **An item** of a sequence that stands under `base` is read, and the next dash counts on. -/
theorem reads_item (item : Item) {s t : State} {line indent : Nat} {marks : List Char}
    {base : List Frame} {index : Nat} (h : s.Arrives line indent marks t)
    (hscalar : t.scalarOwner? = none)
    (hstack : itemStack t.stack (indent + marks.length) =
      ⟨indent + marks.length, .index index⟩ :: base)
    (hbase : ∀ frame ∈ base, frame.column ≤ indent + marks.length) :
    Reads t
        (s.scanLines line
          ((item.lines (pathOf base ++ [PathSegment.index index]) indent marks).map (·.text)))
        (indent + marks.length) base
        (places line (item.lines (pathOf base ++ [PathSegment.index index]) indent marks)) ∧
      itemStack
          (s.scanLines line ((item.lines (pathOf base ++ [PathSegment.index index]) indent
            marks).map (·.text))).stack
          (indent + marks.length) =
        ⟨indent + marks.length, .index (index + 1)⟩ :: base := by
  rw [← pathOf_cons ⟨indent + marks.length, .index index⟩ base]
  have hbelow {column : Nat} (hcolumn : indent + marks.length < column) :
      ∀ frame ∈ (⟨indent + marks.length, .index index⟩ :: base : List Frame),
        frame.column < column := by
    refine List.forall_mem_cons.mpr ⟨hcolumn, fun frame hframe => ?_⟩
    have := hbase frame hframe
    omega
  have hdash (gap : Nat) : indent + marks.length < indent + (marks ++ dash gap).length := by
    simp [dash]
  have hentered : (t.enterItem (indent + marks.length)).stack =
      ⟨indent + marks.length, .index index⟩ :: base := by rw [enterItem_eq]; exact hstack
  have hinner {column : Nat} (hcolumn : indent + marks.length < column) :
      itemStack (⟨indent + marks.length, .index index⟩ :: base) column =
        ⟨column, .index 0⟩ :: ⟨indent + marks.length, .index index⟩ :: base := by
    refine itemStack_first (Nat.le_of_lt hcolumn) (fun previous heq => ?_) base
    injection heq with heq
    omega
  cases item with
  | scalar gap value =>
    have howns : Owns (if opensBlockScalar (Text.trimEnd value.head) then
        some (indent + marks.length) else none) (indent + marks.length) value :=
      .of_text _ value trimEnd_head_of_tail
    have hline : s.scanLine line (spaces indent ++ (marks ++ (dash gap ++ value.head))) = _ :=
      h.scalarItem gap value
    rw [Item.lines, List.map_cons, scanLines, hline, hstack, hscalar, scanLines_tail rfl _ howns,
      places, places_tail]
    refine ⟨⟨rfl, rfl, fun owner howner => Nat.le_of_eq (howns.owner owner howner).symm, ?_⟩,
      itemStack_next (List.forall_mem_nil _) index base⟩
    exact ⟨[⟨indent + marks.length, .index index⟩], rfl, by simp⟩
  | mapping gap value =>
    refine (reads_entries value (h.dash gap) ?_ ?_ (hbelow (hdash gap))).item ?_ (hdash gap)
    · rw [enterItem_eq]
      exact hscalar
    · rw [hentered]
      exact dropWhile_base (hbelow (hdash gap))
    · rw [enterItem_eq]
  | sequence gap value =>
    refine (reads_items value (h.dash gap) ?_ ?_ fun frame hframe =>
      Nat.le_of_lt (hbelow (hdash gap) frame hframe)).item ?_ (hdash gap)
    · rw [enterItem_eq]
      exact hscalar
    · rw [hentered]
      exact hinner (hdash gap)
    · rw [enterItem_eq]
  | sequenceBelow step value =>
    have hstep : indent + marks.length < indent + marks.length + step + 1 := by omega
    obtain ⟨hmap, hinside⟩ := h.bare_dash hscalar hstack
    rw [Item.lines, List.map_cons, scanLines, places]
    refine (reads_items value (hinside.arrives _ _) hinside.scalar ?_ fun frame hframe =>
      Nat.le_of_lt (hbelow hstep frame hframe)).item hmap hstep
    rw [hinside.stack]
    exact hinner hstep

end

/-- A plain scalar at the root is no key. -/
theorem scanLine_root (line column : Nat) {content : List Char} (hplain : isPlain content = true)
    (honeLine : isOneLine content = true) :
    (({} : State).scanLine line (spaces column ++ content)).map = {} := by
  obtain ⟨c, rest, hcons, hc, -⟩ := head_cons (.plain content hplain honeLine)
  have hspace : content.head? ≠ some ' ' := by
    rw [show content = c :: rest from hcons]
    intro heq
    obtain rfl := Option.some.inj heq
    exact hc List.mem_cons_self
  have hgoOn : ({} : State).goOn line column (Text.trimEnd content) = {} :=
    goOn_scalar rfl line column (.plain content hplain honeLine)
  unfold scanLine
  rw [dropWhile_spaces column hspace, length_takeWhile_spaces column hspace]
  show (({} : State).scanContent line column (Text.trimEnd content)).map = {}
  unfold scanContent
  split
  · rfl
  · rfl
  · split
    · rfl
    · exact congrArg (·.map) hgoOn

/-- **A document is read from the first state**: its places are recorded, one after the other, and
nothing else is. -/
theorem scanLines_document (doc : Document) :
    (({} : State).scanLines 1 (doc.lines.map (·.text))).map =
      ({} : SourceMap).recordAll doc.places := by
  have harrives (column : Nat) : ({} : State).Arrives 1 column [] {} :=
    State.arrives rfl 1 column (by simp)
  cases doc with
  | mapping column entries =>
    exact (reads_entries entries (harrives column) rfl rfl (by simp)).map
  | sequence column items => exact (reads_items items (harrives column) rfl rfl (by simp)).map
  | scalar column text hplain honeLine => exact scanLine_root 1 column hplain honeLine

end State

/-! ## The text of a document -/

theorem dropReturn_of_isOneLine {line : List Char} (h : isOneLine line = true) :
    dropReturn line = line := by
  unfold dropReturn
  rw [if_neg]
  intro hlast
  have hmem := List.mem_of_getLast? hlast
  exact absurd (List.all_eq_true.mp h _ hmem) (by decide)

theorem not_break_of_isOneLine {line : List Char} (h : isOneLine line = true) :
    ∀ c ∈ line, (c == '\n') = false := by
  intro c hc
  have hbreaks := List.all_eq_true.mp h c hc
  rw [Bool.and_eq_true] at hbreaks
  simpa using hbreaks.1

/-- The lines of a text are the lines it was put together from, except perhaps for an empty last
one that nothing ends. -/
theorem lines_unlines (closed : Bool) {lines : List (List Char)}
    (h : ∀ line ∈ lines, isOneLine line = true) :
    ∃ tail, (tail = [] ∨ tail = [[]]) ∧ lines = Text.lines (unlines closed lines) ++ tail := by
  induction lines with
  | nil => exact ⟨[], .inl rfl, rfl⟩
  | cons line rest ih =>
    have hline := h line List.mem_cons_self
    have hreturn := dropReturn_of_isOneLine hline
    have hbreak := not_break_of_isOneLine hline
    cases rest with
    | nil =>
      cases closed with
      | true =>
        refine ⟨[], .inl rfl, ?_⟩
        rw [unlines, Text.lines, if_pos rfl, splitOn_append_cons _ hbreak rfl]
        show [line] = [dropReturn line] ++ []
        rw [hreturn, List.append_nil]
      | false =>
        rw [unlines, Text.lines, if_neg Bool.false_ne_true, List.append_nil,
          splitOn_of_forall _ hbreak, linesOfPieces]
        cases line with
        | nil => exact ⟨[[]], .inr rfl, rfl⟩
        | cons c line => exact ⟨[], .inl rfl, rfl⟩
    | cons next rest =>
      obtain ⟨tail, htail, heq⟩ := ih fun line hline => h line (List.mem_cons_of_mem _ hline)
      refine ⟨tail, htail, ?_⟩
      have hunlines : unlines closed (line :: next :: rest) =
          line ++ '\n' :: unlines closed (next :: rest) := rfl
      obtain ⟨piece, pieces, hpieces⟩ := List.exists_cons_of_ne_nil
        (splitOn_ne_nil (· == '\n') (unlines closed (next :: rest)))
      rw [hunlines, Text.lines, splitOn_append_cons _ hbreak rfl, hpieces, linesOfPieces, hreturn,
        ← hpieces, List.cons_append]
      · exact congrArg (line :: ·) heq
      · exact List.cons_ne_nil _ _

theorem scanLines_empty_map (s : State) (line : Nat) {tail : List (List Char)}
    (h : tail = [] ∨ tail = [[]]) : (s.scanLines line tail).map = s.map := by
  rcases h with rfl | rfl
  · rfl
  · show (s.scanLine line []).map = s.map
    unfold State.scanLine
    dsimp only
    split <;> rfl

end LineScan

namespace SourceMap

/-! ## What is recorded -/

theorem get?_eq_none {map : SourceMap} {path : SourcePath}
    (h : path ∉ map.entries.map (·.1)) : map.get? path = none := by
  refine List.lookup_eq_none_iff.mpr fun p hp => ?_
  simp only [bne_iff_ne, ne_eq]
  rintro rfl
  exact h (List.mem_map_of_mem hp)

/-- Places under new, different paths are all recorded. -/
theorem recordAll_entries {map : SourceMap} {places : List (SourcePath × SourceEntry)}
    (hnodup : (places.map (·.1)).Nodup)
    (hnew : ∀ place ∈ places, place.1 ∉ map.entries.map (·.1)) :
    (map.recordAll places).entries = places.reverse ++ map.entries := by
  induction places generalizing map with
  | nil => rfl
  | cons place rest ih =>
    rw [List.map_cons, List.nodup_cons] at hnodup
    have hrecord : map.record place.1 place.2 = ⟨place :: map.entries⟩ := by
      unfold record
      rw [get?_eq_none (hnew place List.mem_cons_self)]
    show ((map.record place.1 place.2).recordAll rest).entries = _
    rw [hrecord, ih hnodup.2, List.reverse_cons, List.append_assoc]
    · rfl
    · intro other hother hmem
      rcases List.mem_cons.mp hmem with heq | hmem
      · refine hnodup.1 (List.mem_map.mpr ⟨other, hother, heq⟩)
      · exact hnew other (List.mem_cons_of_mem _ hother) hmem

theorem get?_eq_some_iff {map : SourceMap} (h : (map.entries.map (·.1)).Nodup)
    (path : SourcePath) (entry : SourceEntry) :
    map.get? path = some entry ↔ (path, entry) ∈ map.entries := by
  unfold get?
  rw [List.lookup_eq_some_iff]
  constructor
  · rintro ⟨before, after, heq, -⟩
    rw [heq]
    exact List.mem_append_right _ List.mem_cons_self
  · intro hmem
    obtain ⟨before, after, heq⟩ := List.append_of_mem hmem
    refine ⟨before, after, heq, fun place hplace => ?_⟩
    rw [heq, List.map_append, List.map_cons, List.nodup_append] at h
    have hne := h.2.2 place.1 (List.mem_map_of_mem hplace) path List.mem_cons_self
    exact bne_iff_ne.mpr (Ne.symm hne)

/-- The scanner records the places of a document. -/
theorem scan_eq_recordAll (doc : BlockStyle.Document) (closed : Bool) :
    scan (doc.text closed) = ({} : SourceMap).recordAll doc.places := by
  have honeLine : ∀ line ∈ doc.lines.map (·.text), BlockStyle.isOneLine line = true := by
    intro line hline
    obtain ⟨l, hl, rfl⟩ := List.mem_map.mp hline
    exact doc.allOneLine l hl
  obtain ⟨tail, htail, hlines⟩ := LineScan.lines_unlines closed honeLine
  rw [← LineScan.State.scanLines_document doc, hlines, LineScan.State.scanLines_append,
    LineScan.scanLines_empty_map _ _ htail, scan, BlockStyle.Document.text, String.toList_ofList]

/-- **The line scanner recovers a document in block style.** If no mapping has a key twice, the
scan of the text has one entry for each key of the tree and no other: the paths of the entries are
the structural paths of the keys, all different, and under each of them stand the number of the
key's line and the comments above it, as the document was written. -/
theorem scan_text (doc : BlockStyle.Document) (closed : Bool) (h : doc.distinctKeys = true) :
    (∀ path entry, (scan (doc.text closed)).get? path = some entry ↔
      (path, entry) ∈ doc.places) ∧
    (scan (doc.text closed)).entries.reverse.map (·.1) = doc.paths ∧
    doc.paths.Nodup := by
  have hnodup := doc.nodup_paths h
  have hentries : (scan (doc.text closed)).entries = doc.places.reverse := by
    rw [scan_eq_recordAll, recordAll_entries (doc.places_paths ▸ hnodup) (by simp)]
    exact List.append_nil _
  have hpaths : (scan (doc.text closed)).entries.reverse.map (·.1) = doc.paths := by
    rw [hentries, List.reverse_reverse, doc.places_paths]
  refine ⟨fun path entry => ?_, hpaths, hnodup⟩
  rw [get?_eq_some_iff, hentries, List.mem_reverse]
  rw [← List.nodup_reverse, ← List.map_reverse, hpaths]
  exact hnodup

end SourceMap

namespace BlockStyle

/-- A small document: a comment, a sequence at the column of its key, dashes on one line and on
two, and a block scalar that looks like a key. -/
def portsDocument : Document :=
  .mapping 0 (.one (.sequence ⟨[], [⟨" Ports".toList, by decide⟩]⟩ ⟨"ports".toList, by decide⟩ 0
    (.cons
      (.mapping 0 (.cons
        (.scalar ⟨[], []⟩ ⟨"name".toList, by decide⟩ 0 (.plain "a".toList (by decide) (by decide)))
        (.one (.scalar ⟨[], []⟩ ⟨"script".toList, by decide⟩ 0
          (.literal "-".toList (by decide) [.text " not: a key".toList (by decide)])))))
      (.one (.sequence 0 (.one (.sequenceBelow 1 (.one (.mapping 0 (.one
        (.scalar ⟨[], []⟩ ⟨"name".toList, by decide⟩ 0
          (.plain "b".toList (by decide) (by decide)))))))))))))

end BlockStyle

/-- The scan of the small document. -/
theorem SourceMap.scan_text_ports :
    BlockStyle.portsDocument.text true =
      "# Ports\nports:\n- name: a\n  script: |-\n    not: a key\n- -\n    - name: b\n" ∧
    (scan (BlockStyle.portsDocument.text true)).get? [.key "ports"] = some ⟨2, ["# Ports"]⟩ ∧
    (scan (BlockStyle.portsDocument.text true)).get?
      [.key "ports", .index 1, .index 0, .index 0, .key "name"] = some ⟨7, []⟩ ∧
    (scan (BlockStyle.portsDocument.text true)).entries.reverse.map (·.1) =
      BlockStyle.portsDocument.paths :=
  have hscan := scan_text BlockStyle.portsDocument true (by decide)
  ⟨by decide, (hscan.1 _ _).mpr (by decide), (hscan.1 _ _).mpr (by decide), hscan.2.1⟩

end ChartSchema
