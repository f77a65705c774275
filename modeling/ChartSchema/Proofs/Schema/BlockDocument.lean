import ChartSchema.Schema.SourceMap
import Mathlib.Data.List.Nodup
/-!
# Documents in block style, with their layout

A document in block style is a tree of mappings, sequences and scalars *together with* the choices
made when it was written: how far a value stands behind its key, whether the dash of an inner
sequence follows the outer dash on the same line, how deep a node is indented below its parent,
which comments stand above a key. `BlockStyle.Document` is that tree. Its types leave out what
could not be written – a node indented less than its parent, a key with a colon in it – so that
every document has a text, `Document.text`.

## Lines with what they bear

`Document.lines` writes the tree line by line, and says of each line whether it is the line of a
key: then it carries the path of the key and the comments above it. The text forgets these marks;
numbering the lines from one and keeping the marked ones gives `Document.places`, which is what a
reader of the text should find.

The first line of a node may already hold the dashes of the sequences around it, so a node is
written behind an *indentation* and *marks*: the spaces that the line starts with and the dashes
after them. The column of the node is their common length, and its later lines start with as many
spaces.
-/

namespace ChartSchema.BlockStyle

/-! ## The pieces of a document -/

/-- A run of spaces. -/
abbrev spaces (n : Nat) : List Char := List.replicate n ' '

/-- Whether a text holds no line break. -/
def isOneLine (text : List Char) : Bool :=
  text.all fun c => c != '\n' && c != '\r'

/-- A line with nothing but blanks on it. -/
structure BlankLine where
  /-- The blanks. -/
  text : List Char
  /-- There is nothing else. -/
  blank : text.all Text.isBlank = true
  /-- It is one line. -/
  oneLine : isOneLine text = true

/-- A comment line. -/
structure CommentLine where
  /-- What follows the comment sign. -/
  text : List Char
  /-- It is one line. -/
  oneLine : isOneLine text = true

/-- The comment as it stands behind the indentation, without blanks at its end. -/
def CommentLine.written (c : CommentLine) : String :=
  String.ofList (Text.trimEnd ('#' :: c.text))

/-- What stands directly above the line of a key: comment lines, blank lines before them. -/
structure Above where
  /-- The blank lines, which come first. -/
  blanks : List BlankLine := []
  /-- The comment lines. -/
  comments : List CommentLine := []

/-- The characters of a key: ASCII letters and digits, `_`, `-`, `.` and `/`. -/
def isKeyChar (c : Char) : Bool :=
  c.isAlphanum || ['_', '-', '.', '/'].contains c

/-- Whether a text is a key: key characters of which the first is a letter. -/
def isKey : List Char → Bool
  | [] => false
  | c :: rest => c.isAlpha && rest.all isKeyChar

/-- A key. -/
structure Key where
  /-- Its characters. -/
  text : List Char
  /-- They make up a key. -/
  wellFormed : isKey text = true

/-- The key as a string. -/
def Key.name (k : Key) : String := String.ofList k.text

/-- The characters that no plain scalar of a document starts with. -/
def startsNoPlain (c : Char) : Bool :=
  [' ', '"', '\'', '-', '|', '>', '&', '!'].contains c

/-- Whether a text is a plain scalar: not empty, without `:` and `#`. -/
def isPlain : List Char → Bool
  | [] => false
  | c :: rest => !startsNoPlain c && (c :: rest).all fun c => c != ':' && c != '#'

/-- The characters behind the bar of a literal block scalar. -/
def isIndicator (c : Char) : Bool :=
  c == '+' || c == '-' || c.isDigit

/-- A line of a literal block scalar. -/
inductive LiteralLine where
  /-- A blank line, as short as it may be. -/
  | blank (line : BlankLine)
  /-- A line that stands deeper than the key or dash that owns the scalar. -/
  | text (content : List Char) (oneLine : isOneLine content = true)

/-- A scalar, on the line of its key or dash. -/
inductive Scalar where
  /-- A plain scalar on one line. -/
  | plain (text : List Char) (wellFormed : isPlain text = true) (oneLine : isOneLine text = true)
  /-- A literal block scalar: its indicators and its lines. -/
  | literal (indicators : List Char) (wellFormed : indicators.all isIndicator = true)
      (lines : List LiteralLine)

/-! ## The tree -/

mutual

/-- The entries of a mapping, one at least. -/
inductive Entries where
  /-- The last entry. -/
  | one (entry : Entry)
  /-- An entry with others below it. -/
  | cons (entry : Entry) (rest : Entries)

/-- A key with its value. -/
inductive Entry where
  /-- A scalar, `gap + 1` spaces behind the colon. -/
  | scalar (above : Above) (key : Key) (gap : Nat) (value : Scalar)
  /-- A mapping, `step + 1` columns deeper than the key. -/
  | mapping (above : Above) (key : Key) (step : Nat) (value : Entries)
  /-- A sequence, `step` columns deeper than the key: at the column of the key if it is zero. -/
  | sequence (above : Above) (key : Key) (step : Nat) (value : Items)

/-- The items of a sequence, one at least. -/
inductive Items where
  /-- The last item. -/
  | one (item : Item)
  /-- An item with others below it. -/
  | cons (item : Item) (rest : Items)

/-- An item of a sequence, behind its dash. -/
inductive Item where
  /-- A scalar, `gap + 1` spaces behind the dash. -/
  | scalar (gap : Nat) (value : Scalar)
  /-- A mapping whose first key stands `gap + 1` spaces behind the dash. -/
  | mapping (gap : Nat) (value : Entries)
  /-- A sequence whose first dash stands `gap + 1` spaces behind the dash. -/
  | sequence (gap : Nat) (value : Items)
  /-- A sequence on the lines below the dash, `step + 1` columns deeper. -/
  | sequenceBelow (step : Nat) (value : Items)

end

/-- A document whose root stands in some column. A literal block scalar has no place at the root,
where no key or dash owns it. -/
inductive Document where
  /-- The root is a mapping. -/
  | mapping (column : Nat) (entries : Entries)
  /-- The root is a sequence. -/
  | sequence (column : Nat) (items : Items)
  /-- The root is a plain scalar. -/
  | scalar (column : Nat) (text : List Char) (wellFormed : isPlain text = true)
      (oneLine : isOneLine text = true)

/-! ## The keys of the tree -/

/-- The key of an entry. -/
def Entry.key : Entry → Key
  | .scalar _ key _ _ | .mapping _ key _ _ | .sequence _ key _ _ => key

/-- The names of the keys of a mapping. -/
def Entries.names : Entries → List String
  | .one entry => [entry.key.name]
  | .cons entry rest => entry.key.name :: rest.names

mutual

/-- Whether no mapping among the entries and below them has a key twice. -/
def Entries.distinctKeys : Entries → Bool
  | .one entry => entry.distinctKeys
  | .cons entry rest =>
    entry.distinctKeys && !rest.names.contains entry.key.name && rest.distinctKeys

/-- Whether no mapping below an entry has a key twice. -/
def Entry.distinctKeys : Entry → Bool
  | .scalar .. => true
  | .mapping _ _ _ value => value.distinctKeys
  | .sequence _ _ _ value => value.distinctKeys

/-- Whether no mapping among the items has a key twice. -/
def Items.distinctKeys : Items → Bool
  | .one item => item.distinctKeys
  | .cons item rest => item.distinctKeys && rest.distinctKeys

/-- Whether no mapping in an item has a key twice. -/
def Item.distinctKeys : Item → Bool
  | .scalar .. => true
  | .mapping _ value => value.distinctKeys
  | .sequence _ value => value.distinctKeys
  | .sequenceBelow _ value => value.distinctKeys

end

/-- Whether no mapping of a document has a key twice. -/
def Document.distinctKeys : Document → Bool
  | .mapping _ entries => entries.distinctKeys
  | .sequence _ items => items.distinctKeys
  | .scalar .. => true

mutual

/-- The paths of the keys of a mapping that stands at a path, and of the keys below them. -/
def Entries.paths (path : SourcePath) : Entries → List SourcePath
  | .one entry => entry.paths path
  | .cons entry rest => entry.paths path ++ rest.paths path

/-- The path of the key of an entry, and the paths of the keys below it. -/
def Entry.paths (path : SourcePath) : Entry → List SourcePath
  | .scalar _ key _ _ => [path ++ [.key key.name]]
  | .mapping _ key _ value =>
    (path ++ [.key key.name]) :: value.paths (path ++ [.key key.name])
  | .sequence _ key _ value =>
    (path ++ [.key key.name]) :: value.paths (path ++ [.key key.name]) 0

/-- The paths of the keys in the items of a sequence that stands at a path, the first of which
has the given index. -/
def Items.paths (path : SourcePath) (index : Nat) : Items → List SourcePath
  | .one item => item.paths (path ++ [.index index])
  | .cons item rest => item.paths (path ++ [.index index]) ++ rest.paths path (index + 1)

/-- The paths of the keys in an item that stands at a path. -/
def Item.paths (path : SourcePath) : Item → List SourcePath
  | .scalar .. => []
  | .mapping _ value => value.paths path
  | .sequence _ value => value.paths path 0
  | .sequenceBelow _ value => value.paths path 0

end

/-- The structural paths of the keys of a document. -/
def Document.paths : Document → List SourcePath
  | .mapping _ entries => entries.paths []
  | .sequence _ items => items.paths [] 0
  | .scalar .. => []

/-! ## The lines -/

/-- A line of a document, and for the line of a key its path and the comments above it. -/
structure Line where
  /-- The characters of the line. -/
  text : List Char
  /-- The key on the line. -/
  key? : Option (SourcePath × List String) := none

/-- The lines above the line of a key, whose indentation is given. -/
def Above.lines (above : Above) (indent : Nat) : List Line :=
  above.blanks.map (⟨·.text, none⟩) ++
    above.comments.map fun c => ⟨spaces indent ++ '#' :: c.text, none⟩

/-- The comments above the line of a key. -/
def Above.written (above : Above) : List String :=
  above.comments.map (·.written)

/-- What of a scalar stands on the line of its key or dash. -/
def Scalar.head : Scalar → List Char
  | .plain text _ _ => text
  | .literal indicators _ _ => '|' :: indicators

/-- A line of a literal block scalar that a key or dash in a column owns. -/
def LiteralLine.line (owner : Nat) : LiteralLine → Line
  | .blank line => ⟨line.text, none⟩
  | .text content _ => ⟨spaces (owner + 1) ++ content, none⟩

/-- The lines of a scalar below the line of its key or dash, which stands in a column. -/
def Scalar.tail (owner : Nat) : Scalar → List Line
  | .plain _ _ _ => []
  | .literal _ _ lines => lines.map (·.line owner)

/-- A dash with the spaces behind it. -/
def dash (gap : Nat) : List Char := '-' :: spaces (gap + 1)

/-- The line of a key, and the lines above it. -/
def keyLines (path : SourcePath) (indent : Nat) (marks : List Char) (above : Above) (key : Key)
    (value : List Char) : List Line :=
  above.lines indent ++
    [⟨spaces indent ++ (marks ++ (key.text ++ ':' :: value)),
      some (path ++ [.key key.name], above.written)⟩]

mutual

/-- The lines of the entries of a mapping. -/
def Entries.lines (path : SourcePath) (indent : Nat) (marks : List Char) : Entries → List Line
  | .one entry => entry.lines path indent marks
  | .cons entry rest =>
    entry.lines path indent marks ++ rest.lines path (indent + marks.length) []

/-- The lines of an entry. -/
def Entry.lines (path : SourcePath) (indent : Nat) (marks : List Char) : Entry → List Line
  | .scalar above key gap value =>
    keyLines path indent marks above key (spaces (gap + 1) ++ value.head) ++
      value.tail (indent + marks.length)
  | .mapping above key step value =>
    keyLines path indent marks above key [] ++
      value.lines (path ++ [.key key.name]) (indent + marks.length + step + 1) []
  | .sequence above key step value =>
    keyLines path indent marks above key [] ++
      value.lines (path ++ [.key key.name]) 0 (indent + marks.length + step) []

/-- The lines of the items of a sequence, the first of which has the given index. -/
def Items.lines (path : SourcePath) (index indent : Nat) (marks : List Char) :
    Items → List Line
  | .one item => item.lines (path ++ [.index index]) indent marks
  | .cons item rest =>
    item.lines (path ++ [.index index]) indent marks ++
      rest.lines path (index + 1) (indent + marks.length) []

/-- The lines of an item. -/
def Item.lines (path : SourcePath) (indent : Nat) (marks : List Char) : Item → List Line
  | .scalar gap value =>
    ⟨spaces indent ++ (marks ++ (dash gap ++ value.head)), none⟩ ::
      value.tail (indent + marks.length)
  | .mapping gap value => value.lines path indent (marks ++ dash gap)
  | .sequence gap value => value.lines path 0 indent (marks ++ dash gap)
  | .sequenceBelow step value =>
    ⟨spaces indent ++ (marks ++ ['-']), none⟩ ::
      value.lines path 0 (indent + marks.length + step + 1) []

end

/-- The lines of a document. -/
def Document.lines : Document → List Line
  | .mapping column entries => entries.lines [] column []
  | .sequence column items => items.lines [] 0 column []
  | .scalar column text _ _ => [⟨spaces column ++ text, none⟩]

/-- Lines as one text; `closed` says whether a line feed ends the last one. -/
def unlines (closed : Bool) : List (List Char) → List Char
  | [] => []
  | [last] => last ++ if closed then ['\n'] else []
  | line :: rest => line ++ '\n' :: unlines closed rest

/-- The text of a document. -/
def Document.text (doc : Document) (closed : Bool) : String :=
  String.ofList (unlines closed (doc.lines.map (·.text)))

/-- The places of the keys on lines, the first of which has the given number. -/
def places (number : Nat) : List Line → List (SourcePath × SourceEntry)
  | [] => []
  | ⟨_, some (path, comments)⟩ :: rest => (path, ⟨number, comments⟩) :: places (number + 1) rest
  | ⟨_, none⟩ :: rest => places (number + 1) rest

/-- The places of the keys of a document, in the order of its lines. -/
def Document.places (doc : Document) : List (SourcePath × SourceEntry) :=
  BlockStyle.places 1 doc.lines

/-! ## Places and paths -/

theorem places_append (number : Nat) (above below : List Line) :
    places number (above ++ below) = places number above ++ places (number + above.length) below := by
  induction above generalizing number with
  | nil => rfl
  | cons line rest ih =>
    rcases line with ⟨_, - | ⟨path, comments⟩⟩
    · rw [List.cons_append, places, places, ih, List.length_cons, Nat.add_assoc, Nat.add_comm 1]
    · rw [List.cons_append, places, places, ih, List.length_cons, Nat.add_assoc, Nat.add_comm 1,
        List.cons_append]

theorem places_eq_nil {lines : List Line} (h : ∀ line ∈ lines, line.key? = none) (number : Nat) :
    places number lines = [] := by
  induction lines generalizing number with
  | nil => rfl
  | cons line rest ih =>
    obtain ⟨text, key?⟩ := line
    obtain rfl : key? = none := h _ List.mem_cons_self
    exact ih (fun line hline => h line (List.mem_cons_of_mem _ hline)) (number + 1)

/-- The lines above a key bear no key themselves. -/
theorem Above.key?_of_mem_lines {above : Above} {indent : Nat} {line : Line}
    (h : line ∈ above.lines indent) : line.key? = none := by
  simp only [Above.lines, List.mem_append, List.mem_map] at h
  rcases h with ⟨blank, -, rfl⟩ | ⟨comment, -, rfl⟩ <;> rfl

theorem Scalar.key?_of_mem_tail {value : Scalar} {owner : Nat} {line : Line}
    (h : line ∈ value.tail owner) : line.key? = none := by
  cases value with
  | plain => simp [Scalar.tail] at h
  | literal indicators _ lines =>
    obtain ⟨part, -, rfl⟩ := List.mem_map.mp h
    cases part <;> rfl

/-- The line of a key is the one place of its group, below what stands above it. -/
theorem places_keyLines (number : Nat) (path : SourcePath) (indent : Nat) (marks : List Char)
    (above : Above) (key : Key) (value : List Char) :
    places number (keyLines path indent marks above key value) =
      [(path ++ [PathSegment.key key.name],
        ⟨number + (above.lines indent).length, above.written⟩)] := by
  rw [keyLines, places_append, places_eq_nil fun _ h => above.key?_of_mem_lines h]
  rfl

theorem places_tail (number : Nat) (value : Scalar) (owner : Nat) :
    places number (value.tail owner) = [] :=
  places_eq_nil (fun _ h => Scalar.key?_of_mem_tail h) number

mutual

/-- The lines of a mapping have the places of its keys, in the order of the tree. -/
theorem Entries.places_paths (entries : Entries) (number : Nat) (path : SourcePath) (indent : Nat)
    (marks : List Char) :
    (places number (entries.lines path indent marks)).map (·.1) = entries.paths path := by
  cases entries with
  | one entry => exact entry.places_paths number path indent marks
  | cons entry rest =>
    rw [Entries.lines, places_append, List.map_append, entry.places_paths, rest.places_paths,
      Entries.paths]

theorem Entry.places_paths (entry : Entry) (number : Nat) (path : SourcePath) (indent : Nat)
    (marks : List Char) :
    (places number (entry.lines path indent marks)).map (·.1) = entry.paths path := by
  cases entry with
  | scalar above key gap value =>
    rw [Entry.lines, places_append, places_keyLines, places_tail, Entry.paths]
    rfl
  | mapping above key step value =>
    rw [Entry.lines, places_append, places_keyLines, List.map_append, value.places_paths,
      Entry.paths]
    rfl
  | sequence above key step value =>
    rw [Entry.lines, places_append, places_keyLines, List.map_append, value.places_paths,
      Entry.paths]
    rfl

/-- The lines of a sequence have the places of the keys in its items. -/
theorem Items.places_paths (items : Items) (number : Nat) (path : SourcePath) (index indent : Nat)
    (marks : List Char) :
    (places number (items.lines path index indent marks)).map (·.1) = items.paths path index := by
  cases items with
  | one item => exact item.places_paths number _ indent marks
  | cons item rest =>
    rw [Items.lines, places_append, List.map_append, item.places_paths, rest.places_paths,
      Items.paths]

/-- The lines of an item have the places of the keys in it. -/
theorem Item.places_paths (item : Item) (number : Nat) (path : SourcePath) (indent : Nat)
    (marks : List Char) :
    (places number (item.lines path indent marks)).map (·.1) = item.paths path := by
  cases item with
  | scalar gap value => rw [Item.lines, places, places_tail, Item.paths]; rfl
  | mapping gap value => exact value.places_paths number path indent _
  | sequence gap value => exact value.places_paths number path 0 indent _
  | sequenceBelow step value =>
    rw [Item.lines, places, Item.paths]
    exact value.places_paths _ path 0 _ []

end

/-- **The marked lines are the keys of the tree**: a document has one place for each of its keys,
under the structural path of the key. -/
theorem Document.places_paths (doc : Document) : doc.places.map (·.1) = doc.paths := by
  cases doc with
  | mapping column entries => exact entries.places_paths 1 [] column []
  | sequence column items => exact items.places_paths 1 [] 0 column []
  | scalar => rfl

/-! ## No path twice -/

mutual

theorem Entries.paths_under (entries : Entries) {path p : SourcePath}
    (h : p ∈ entries.paths path) :
    ∃ name ∈ entries.names, ∃ tail, p = path ++ PathSegment.key name :: tail := by
  cases entries with
  | one entry =>
    obtain ⟨tail, rfl⟩ := entry.paths_under h
    exact ⟨entry.key.name, List.mem_singleton_self _, tail, rfl⟩
  | cons entry rest =>
    rw [Entries.paths, List.mem_append] at h
    rcases h with h | h
    · obtain ⟨tail, rfl⟩ := entry.paths_under h
      exact ⟨entry.key.name, List.mem_cons_self, tail, rfl⟩
    · obtain ⟨name, hname, tail, rfl⟩ := rest.paths_under h
      exact ⟨name, List.mem_cons_of_mem _ hname, tail, rfl⟩

theorem Entry.paths_under (entry : Entry) {path p : SourcePath} (h : p ∈ entry.paths path) :
    ∃ tail, p = path ++ PathSegment.key entry.key.name :: tail := by
  cases entry with
  | scalar above key gap value => exact ⟨[], List.mem_singleton.mp h⟩
  | mapping above key step value =>
    rcases List.mem_cons.mp h with rfl | h
    · exact ⟨[], rfl⟩
    · obtain ⟨name, -, tail, rfl⟩ := value.paths_under h
      exact ⟨.key name :: tail, by rw [List.append_assoc]; rfl⟩
  | sequence above key step value =>
    rcases List.mem_cons.mp h with rfl | h
    · exact ⟨[], rfl⟩
    · obtain ⟨j, -, tail, rfl⟩ := value.paths_under h
      exact ⟨.index j :: tail, by rw [List.append_assoc]; rfl⟩

theorem Items.paths_under (items : Items) {path p : SourcePath} {index : Nat}
    (h : p ∈ items.paths path index) :
    ∃ j, index ≤ j ∧ ∃ tail, p = path ++ PathSegment.index j :: tail := by
  cases items with
  | one item =>
    obtain ⟨tail, rfl⟩ := item.paths_under h
    exact ⟨index, Nat.le_refl _, tail, by rw [List.append_assoc]; rfl⟩
  | cons item rest =>
    rw [Items.paths, List.mem_append] at h
    rcases h with h | h
    · obtain ⟨tail, rfl⟩ := item.paths_under h
      exact ⟨index, Nat.le_refl _, tail, by rw [List.append_assoc]; rfl⟩
    · obtain ⟨j, hj, tail, rfl⟩ := rest.paths_under h
      exact ⟨j, by omega, tail, rfl⟩

theorem Item.paths_under (item : Item) {path p : SourcePath} (h : p ∈ item.paths path) :
    ∃ tail, p = path ++ tail := by
  cases item with
  | scalar => exact absurd h List.not_mem_nil
  | mapping gap value =>
    obtain ⟨name, -, tail, rfl⟩ := value.paths_under h
    exact ⟨_, rfl⟩
  | sequence gap value =>
    obtain ⟨j, -, tail, rfl⟩ := value.paths_under h
    exact ⟨_, rfl⟩
  | sequenceBelow step value =>
    obtain ⟨j, -, tail, rfl⟩ := value.paths_under h
    exact ⟨_, rfl⟩

end

mutual

/-- The keys of a mapping without a key twice, and the keys below them, have different paths. -/
theorem Entries.nodup_paths (entries : Entries) (h : entries.distinctKeys = true)
    (path : SourcePath) : (entries.paths path).Nodup := by
  cases entries with
  | one entry => exact entry.nodup_paths h path
  | cons entry rest =>
    simp only [Entries.distinctKeys, Bool.and_eq_true, Bool.not_eq_true', List.contains_eq_mem,
      decide_eq_false_iff_not] at h
    obtain ⟨⟨hentry, hname⟩, hrest⟩ := h
    refine (entry.nodup_paths hentry path).append (rest.nodup_paths hrest path) ?_
    intro p hp hp'
    -- A path of both would go through the same key in both, and the keys differ.
    obtain ⟨tail, rfl⟩ := entry.paths_under hp
    obtain ⟨name, hmem, tail', heq⟩ := rest.paths_under hp'
    injection List.append_cancel_left heq with hkey
    injection hkey with hkey
    exact hname (hkey ▸ hmem)

theorem Entry.nodup_paths (entry : Entry) (h : entry.distinctKeys = true) (path : SourcePath) :
    (entry.paths path).Nodup := by
  cases entry with
  | scalar => exact List.nodup_singleton _
  | mapping above key step value =>
    refine List.nodup_cons.mpr ⟨fun hmem => ?_, value.nodup_paths h _⟩
    obtain ⟨name, -, tail, heq⟩ := value.paths_under hmem
    simp at heq
  | sequence above key step value =>
    refine List.nodup_cons.mpr ⟨fun hmem => ?_, value.nodup_paths h _ 0⟩
    obtain ⟨j, -, tail, heq⟩ := value.paths_under hmem
    simp at heq

theorem Items.nodup_paths (items : Items) (h : items.distinctKeys = true) (path : SourcePath)
    (index : Nat) : (items.paths path index).Nodup := by
  cases items with
  | one item => exact item.nodup_paths h _
  | cons item rest =>
    rw [Items.distinctKeys, Bool.and_eq_true] at h
    refine (item.nodup_paths h.1 _).append (rest.nodup_paths h.2 path (index + 1)) ?_
    intro p hp hp'
    -- The first item has a smaller index than all others.
    obtain ⟨tail, rfl⟩ := item.paths_under hp
    obtain ⟨j, hj, tail', heq⟩ := rest.paths_under hp'
    rw [List.append_assoc] at heq
    injection List.append_cancel_left heq with hindex
    injection hindex with hindex
    omega

theorem Item.nodup_paths (item : Item) (h : item.distinctKeys = true) (path : SourcePath) :
    (item.paths path).Nodup := by
  cases item with
  | scalar => exact List.nodup_nil
  | mapping gap value => exact value.nodup_paths h path
  | sequence gap value => exact value.nodup_paths h path 0
  | sequenceBelow step value => exact value.nodup_paths h path 0

end

/-- **The keys of a document have different paths**, if no mapping has a key twice. Two keys of
different mappings differ in the path that leads to these. -/
theorem Document.nodup_paths (doc : Document) (h : doc.distinctKeys = true) : doc.paths.Nodup := by
  cases doc with
  | mapping column entries => exact entries.nodup_paths h []
  | sequence column items => exact items.nodup_paths h [] 0
  | scalar => exact List.nodup_nil

/-! ## One line for each line

No piece of a document holds a line break, so the lines of its text are the lines it was written
with. -/

theorem isOneLine_append (a b : List Char) :
    isOneLine (a ++ b) = (isOneLine a && isOneLine b) :=
  List.all_append

@[simp] theorem isOneLine_spaces (n : Nat) : isOneLine (spaces n) = true :=
  List.all_eq_true.mpr fun c hc => by rw [List.eq_of_mem_replicate hc]; decide

@[simp] theorem isOneLine_dash (gap : Nat) : isOneLine (dash gap) = true :=
  isOneLine_spaces (gap + 1)

theorem isKeyChar_not_break {c : Char} (h : isKeyChar c = true) : c ≠ '\n' ∧ c ≠ '\r' := by
  constructor <;> rintro rfl <;> exact absurd h (by decide)

theorem Key.isKeyChar_of_mem (key : Key) {c : Char} (h : c ∈ key.text) : isKeyChar c = true := by
  obtain ⟨text, hkey⟩ := key
  cases text with
  | nil => exact absurd h List.not_mem_nil
  | cons d rest =>
    rw [isKey, Bool.and_eq_true] at hkey
    rcases List.mem_cons.mp h with rfl | h
    · simp [isKeyChar, Char.isAlphanum, hkey.1]
    · exact List.all_eq_true.mp hkey.2 c h

theorem Key.isOneLine (key : Key) : isOneLine key.text = true :=
  List.all_eq_true.mpr fun c hc => by
    obtain ⟨hn, hr⟩ := isKeyChar_not_break (key.isKeyChar_of_mem hc)
    simp [hn, hr]

theorem Scalar.isOneLine_head (value : Scalar) : isOneLine value.head = true := by
  cases value with
  | plain text _ h => exact h
  | literal indicators h _ =>
    refine List.all_eq_true.mpr fun c hc => ?_
    rcases List.mem_cons.mp hc with rfl | hc
    · decide
    · have hc := List.all_eq_true.mp h c hc
      have hne : c ≠ '\n' ∧ c ≠ '\r' := by
        constructor <;> rintro rfl <;> exact absurd hc (by decide)
      simp [hne]

/-- Lines none of which holds a line break. -/
def AllOneLine (lines : List Line) : Prop := ∀ line ∈ lines, isOneLine line.text = true

theorem AllOneLine.append {above below : List Line} (h : AllOneLine above)
    (h' : AllOneLine below) : AllOneLine (above ++ below) :=
  List.forall_mem_append.mpr ⟨h, h'⟩

theorem AllOneLine.cons {line : Line} {below : List Line} (h : isOneLine line.text = true)
    (h' : AllOneLine below) : AllOneLine (line :: below) :=
  List.forall_mem_cons.mpr ⟨h, h'⟩

theorem Scalar.allOneLine_tail (value : Scalar) (owner : Nat) : AllOneLine (value.tail owner) := by
  intro line hline
  cases value with
  | plain => exact absurd hline List.not_mem_nil
  | literal indicators _ lines =>
    obtain ⟨part, -, rfl⟩ := List.mem_map.mp hline
    cases part with
    | blank blank => exact blank.oneLine
    | text content h =>
      show isOneLine (spaces (owner + 1) ++ content) = true
      rw [isOneLine_append, isOneLine_spaces, h]
      rfl

theorem allOneLine_keyLines (path : SourcePath) (indent : Nat) {marks : List Char}
    (hmarks : isOneLine marks = true) (above : Above) (key : Key) {value : List Char}
    (hvalue : isOneLine value = true) :
    AllOneLine (keyLines path indent marks above key value) := by
  have hline : isOneLine (spaces indent ++ (marks ++ (key.text ++ ':' :: value))) = true := by
    rw [isOneLine_append, isOneLine_append, isOneLine_append, isOneLine_spaces, hmarks,
      key.isOneLine]
    exact hvalue
  refine AllOneLine.append (fun line hline => ?_) (.cons hline fun _ h => absurd h List.not_mem_nil)
  simp only [Above.lines, List.mem_append, List.mem_map] at hline
  rcases hline with ⟨blank, -, rfl⟩ | ⟨comment, -, rfl⟩
  · exact blank.oneLine
  · show isOneLine (spaces indent ++ '#' :: comment.text) = true
    rw [isOneLine_append, isOneLine_spaces]
    exact comment.oneLine

mutual

theorem Entries.allOneLine (entries : Entries) (path : SourcePath) (indent : Nat)
    {marks : List Char} (h : isOneLine marks = true) :
    AllOneLine (entries.lines path indent marks) := by
  cases entries with
  | one entry => exact entry.allOneLine path indent h
  | cons entry rest => exact (entry.allOneLine path indent h).append (rest.allOneLine path _ rfl)

theorem Entry.allOneLine (entry : Entry) (path : SourcePath) (indent : Nat)
    {marks : List Char} (h : isOneLine marks = true) :
    AllOneLine (entry.lines path indent marks) := by
  cases entry with
  | scalar above key gap value =>
    have hvalue : isOneLine (spaces (gap + 1) ++ value.head) = true := by
      rw [isOneLine_append, isOneLine_spaces, value.isOneLine_head]
      rfl
    exact (allOneLine_keyLines path indent h above key hvalue).append (value.allOneLine_tail _)
  | mapping above key step value =>
    exact (allOneLine_keyLines path indent h above key rfl).append (value.allOneLine _ _ rfl)
  | sequence above key step value =>
    exact (allOneLine_keyLines path indent h above key rfl).append (value.allOneLine _ 0 _ rfl)

theorem Items.allOneLine (items : Items) (path : SourcePath) (index indent : Nat)
    {marks : List Char} (h : isOneLine marks = true) :
    AllOneLine (items.lines path index indent marks) := by
  cases items with
  | one item => exact item.allOneLine _ indent h
  | cons item rest =>
    exact (item.allOneLine _ indent h).append (rest.allOneLine path (index + 1) _ rfl)

theorem Item.allOneLine (item : Item) (path : SourcePath) (indent : Nat) {marks : List Char}
    (h : isOneLine marks = true) : AllOneLine (item.lines path indent marks) := by
  have hdash (gap : Nat) : isOneLine (marks ++ dash gap) = true := by
    rw [isOneLine_append, h, isOneLine_dash]
    rfl
  cases item with
  | scalar gap value =>
    refine .cons ?_ (value.allOneLine_tail _)
    rw [isOneLine_append, isOneLine_append, isOneLine_append, isOneLine_spaces, h,
      isOneLine_dash, value.isOneLine_head]
    rfl
  | mapping gap value => exact value.allOneLine path indent (hdash gap)
  | sequence gap value => exact value.allOneLine path 0 indent (hdash gap)
  | sequenceBelow step value =>
    refine .cons ?_ (value.allOneLine path 0 _ rfl)
    rw [isOneLine_append, isOneLine_append, isOneLine_spaces, h]
    rfl

end

/-- **No line of a document holds a line break.** -/
theorem Document.allOneLine (doc : Document) : AllOneLine doc.lines := by
  cases doc with
  | mapping column entries => exact entries.allOneLine [] column rfl
  | sequence column items => exact items.allOneLine [] 0 column rfl
  | scalar column text _ h =>
    refine .cons ?_ fun _ h => absurd h List.not_mem_nil
    rw [isOneLine_append, isOneLine_spaces, h]
    rfl

end ChartSchema.BlockStyle
