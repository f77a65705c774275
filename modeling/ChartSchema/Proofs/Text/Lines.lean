import ChartSchema.Text.Basic
import Mathlib.Data.List.DropRight
/-!
# Blanks, pieces and lines

What the text functions do with texts that are put together from parts: where the blanks at the ends
go, into which pieces and lines a text falls, and how many bytes its parts have.

A text has two kinds of lines, the pieces between line feeds and the lines in the proper sense. The
two are the same line by line, up to a carriage return that is a blank anyway
(`exists_piece_of_lines`), and each piece stands in the text behind the pieces before it with a line
feed behind each of them (`exists_rest_of_splitOn`).
-/

namespace ChartSchema.Text

/-! ## Blanks at the end of a text -/

theorem trimEnd_append_of_ne_nil (a : List Char) {b : List Char} (h : trimEnd b ≠ []) :
    trimEnd (a ++ b) = a ++ trimEnd b := by
  induction a with
  | nil => rfl
  | cons c a ih =>
    rw [List.cons_append, trimEnd, ih]
    split
    · next hnil => exact absurd (List.append_eq_nil_iff.mp hnil).2 h
    · rfl

theorem trimEnd_append_of_eq_nil (a : List Char) {b : List Char} (h : trimEnd b = []) :
    trimEnd (a ++ b) = trimEnd a := by
  induction a with
  | nil => exact h
  | cons c a ih => rw [List.cons_append, trimEnd, trimEnd, ih]

theorem trimEnd_of_all_isBlank {s : List Char} (h : s.all isBlank = true) : trimEnd s = [] := by
  induction s with
  | nil => rfl
  | cons c s ih =>
    rw [List.all_cons, Bool.and_eq_true] at h
    rw [trimEnd, ih h.2, h.1]
    rfl

theorem trimEnd_of_all_not_isBlank {s : List Char} (h : ∀ c ∈ s, isBlank c = false) :
    trimEnd s = s := by
  induction s with
  | nil => rfl
  | cons c s ih =>
    rw [trimEnd_cons_of_not_isBlank (h c List.mem_cons_self),
      ih fun c hc => h c (List.mem_cons_of_mem _ hc)]

theorem isPrefix_trimEnd (s : List Char) : trimEnd s <+: s := by
  induction s with
  | nil => exact List.prefix_rfl
  | cons c s ih =>
    rw [trimEnd]
    split
    · split
      · exact List.nil_prefix
      · exact (List.prefix_cons_inj c).mpr List.nil_prefix
    · exact (List.prefix_cons_inj c).mpr ih

/-! ## Blanks at both ends -/

theorem trimEnd_eq_rdropWhile (s : List Char) : trimEnd s = s.rdropWhile isBlank := by
  induction s with
  | nil => rfl
  | cons c s ih =>
    rw [trimEnd, ih, List.rdropWhile, List.rdropWhile, List.reverse_cons, List.dropWhile_append]
    cases h : s.reverse.dropWhile isBlank with
    | nil => cases hc : isBlank c <;> simp [hc]
    | cons d rest => simp

theorem trimEnd_trimEnd (s : List Char) : trimEnd (trimEnd s) = trimEnd s := by
  rw [trimEnd_eq_rdropWhile, trimEnd_eq_rdropWhile, List.rdropWhile_idempotent]

/-- It does not matter on which side the blanks are taken away first. -/
theorem trimStart_trimEnd (s : List Char) : trimStart (trimEnd s) = trim s := by
  induction s with
  | nil => rfl
  | cons c s ih =>
    unfold trim trimStart at *
    rw [List.dropWhile_cons]
    cases hc : isBlank c with
    | false =>
      rw [trimEnd_cons_of_not_isBlank hc, List.dropWhile_cons, hc]
      exact (trimEnd_cons_of_not_isBlank hc s).symm
    | true =>
      rw [if_pos rfl, ← ih, trimEnd]
      split
      · next hs => rw [hc, hs]; rfl
      · next hs => rw [List.dropWhile_cons, hc, if_pos rfl]

theorem trim_trimEnd (s : List Char) : trim (trimEnd s) = trim s := by
  rw [← trimStart_trimEnd, trimEnd_trimEnd, trimStart_trimEnd]

theorem trim_trim (s : List Char) : trim (trim s) = trim s := by
  rw [← trimStart_trimEnd, trim, trimEnd_trimEnd, ← trim, ← trimStart_trimEnd s]
  exact List.dropWhile_idempotent _ _

theorem exists_blanks (s : List Char) : ∃ lead tail, s = lead ++ (trim s ++ tail) ∧
    (∀ c ∈ lead, isBlank c = true) ∧ ∀ c ∈ tail, isBlank c = true := by
  refine ⟨s.takeWhile isBlank, (trimStart s).rtakeWhile isBlank, ?_,
    fun c hc => List.mem_takeWhile_imp hc, fun c hc => List.mem_rtakeWhile_imp hc⟩
  rw [trim, trimEnd_eq_rdropWhile, List.rdropWhile_append_rtakeWhile, trimStart,
    List.takeWhile_append_dropWhile]

theorem trim_blanks {lead tail : List Char} (hlead : ∀ c ∈ lead, isBlank c = true)
    (htail : ∀ c ∈ tail, isBlank c = true) (s : List Char) :
    trim (lead ++ (s ++ tail)) = trim s := by
  have hstart : trimStart (lead ++ (s ++ tail)) = trimStart (s ++ tail) :=
    List.dropWhile_append_of_pos hlead
  have hend : trimEnd tail = [] := trimEnd_of_all_isBlank (List.all_eq_true.mpr htail)
  rw [trim, hstart, ← trim, ← trimStart_trimEnd, trimEnd_append_of_eq_nil s hend, trimStart_trimEnd]

theorem trim_eq_nil_iff {s : List Char} : trim s = [] ↔ ∀ c ∈ s, isBlank c = true := by
  rw [trim, trimEnd_eq_rdropWhile, List.rdropWhile_eq_nil_iff, ← List.dropWhile_eq_nil_iff,
    trimStart, List.dropWhile_idempotent, List.dropWhile_eq_nil_iff]

/-- A carriage return at the end is a blank like others. -/
theorem trim_dropReturn (s : List Char) : trim (dropReturn s) = trim s := by
  unfold dropReturn
  split
  · next hlast =>
    obtain ⟨front, rfl⟩ := List.getLast?_eq_some_iff.mp hlast
    rw [List.dropLast_concat, ← trimStart_trimEnd, ← trimStart_trimEnd (front ++ ['\r']),
      trimEnd_append_of_eq_nil front rfl]
  · rfl

/-- Blanks behind a text without blanks go, and what follows it stays with it. -/
theorem trim_append {lead : List Char} (hlead : ∀ c ∈ lead, isBlank c = false) (hne : lead ≠ [])
    (s : List Char) : trim (lead ++ s) = lead ++ trimEnd s := by
  have hstart : trimStart (lead ++ s) = lead ++ s := by
    obtain ⟨c, rest, rfl⟩ := List.exists_cons_of_ne_nil hne
    rw [trimStart, List.cons_append, List.dropWhile_cons, hlead c List.mem_cons_self]
    rfl
  rw [trim, hstart]
  by_cases hs : trimEnd s = []
  · rw [trimEnd_append_of_eq_nil lead hs, trimEnd_of_all_not_isBlank hlead, hs, List.append_nil]
  · exact trimEnd_append_of_ne_nil lead hs

/-! ## What follows a lead -/

theorem after?_append (lead s : List Char) : after? lead (lead ++ s) = some s := by
  induction lead with
  | nil => rfl
  | cons c lead ih => rw [List.cons_append, after?, if_pos rfl, ih]

/-! ## Pieces -/

theorem splitOn_append_cons (sep : Char → Bool) {line : List Char}
    (h : ∀ c ∈ line, sep c = false) {c : Char} (hc : sep c = true) (rest : List Char) :
    splitOn sep (line ++ c :: rest) = line :: splitOn sep rest := by
  induction line with
  | nil => simp [splitOn, hc]
  | cons d line ih =>
    rw [List.cons_append, splitOn, h d List.mem_cons_self,
      ih fun c hc => h c (List.mem_cons_of_mem _ hc)]
    rfl

theorem splitOn_of_forall (sep : Char → Bool) {line : List Char}
    (h : ∀ c ∈ line, sep c = false) : splitOn sep line = [line] := by
  induction line with
  | nil => rfl
  | cons d line ih =>
    rw [splitOn, h d List.mem_cons_self, ih fun c hc => h c (List.mem_cons_of_mem _ hc)]
    rfl

theorem words_of_forall {s : List Char} (h : ∀ c ∈ s, isBlank c = false) (hs : s ≠ []) :
    words s = [s] := by
  rw [words, splitOn_of_forall isBlank h]
  cases s with
  | nil => exact absurd rfl hs
  | cons c s => rfl

/-- The first word of a text that starts with no blank starts with the first character. -/
theorem words_cons {c : Char} (h : isBlank c = false) (s : List Char) :
    ∃ word rest, words (c :: s) = (c :: word) :: rest := by
  obtain ⟨piece, pieces, hpieces⟩ := List.exists_cons_of_ne_nil (splitOn_ne_nil isBlank s)
  refine ⟨piece, pieces.filter (!·.isEmpty), ?_⟩
  rw [words, splitOn, h, hpieces]
  rfl

/-! ## Lines of a text -/

theorem dropReturn_append_cons (a : List Char) {c : Char} (hc : c ≠ '\r') (s : List Char) :
    dropReturn (a ++ c :: s) = a ++ c :: dropReturn s := by
  cases s with
  | nil => simp [dropReturn, hc]
  | cons d s =>
    have hlast : (a ++ c :: d :: s).getLast? = (d :: s).getLast? := by
      simp [List.getLast?_append, List.getLast?_cons]
    have hdrop : (a ++ c :: d :: s).dropLast = a ++ c :: (d :: s).dropLast := by
      rw [List.dropLast_append_of_ne_nil (List.cons_ne_nil _ _)]
      rfl
    unfold dropReturn
    rw [hlast, hdrop]
    split <;> rfl

theorem isPrefix_dropReturn (s : List Char) : dropReturn s <+: s := by
  unfold dropReturn
  split
  · exact List.dropLast_prefix s
  · exact List.prefix_rfl

/-- The lines of a text are its first one and those of the rest. -/
theorem lines_append_cons {line : List Char} (h : ∀ c ∈ line, (c == '\n') = false)
    (rest : List Char) : lines (line ++ '\n' :: rest) = dropReturn line :: lines rest := by
  unfold lines
  rw [splitOn_append_cons _ h rfl]
  obtain ⟨piece, pieces, hpieces⟩ := List.exists_cons_of_ne_nil (splitOn_ne_nil (· == '\n') rest)
  rw [hpieces, linesOfPieces]
  exact List.cons_ne_nil _ _

theorem exists_line (s : List Char) : ∃ line tail, s = line ++ tail ∧
    (∀ c ∈ line, (c == '\n') = false) ∧ (tail = [] ∨ ∃ rest, tail = '\n' :: rest) := by
  induction s with
  | nil => exact ⟨[], [], rfl, by simp, .inl rfl⟩
  | cons c s ih =>
    by_cases hc : c = '\n'
    · exact ⟨[], c :: s, rfl, by simp, .inr ⟨s, by rw [hc]⟩⟩
    · obtain ⟨line, tail, rfl, hline, htail⟩ := ih
      exact ⟨c :: line, tail, rfl, List.forall_mem_cons.mpr ⟨by simpa using hc, hline⟩, htail⟩

theorem lines_of_forall {line : List Char} (h : ∀ c ∈ line, (c == '\n') = false) :
    lines line = if line.isEmpty then [] else [line] := by
  rw [lines, splitOn_of_forall _ h, linesOfPieces]

/-- **A line is the piece between line feeds with its number**, but for a carriage return. Only a
last piece that is empty is no line. -/
theorem exists_piece_of_lines {pieces above below : List (List Char)} {raw : List Char}
    (h : linesOfPieces pieces = above ++ raw :: below) :
    ∃ (before : List (List Char)) (piece : List Char) (behind : List (List Char)),
      pieces = before ++ piece :: behind ∧ before.length = above.length ∧
        trim piece = trim raw := by
  have hnil (above : List (List Char)) : [] ≠ above ++ raw :: below :=
    (List.append_ne_nil_of_right_ne_nil _ (List.cons_ne_nil _ _)).symm
  induction pieces generalizing above with
  | nil => exact absurd h (hnil above)
  | cons piece rest ih =>
    cases rest with
    | nil =>
      rw [linesOfPieces] at h
      split at h
      · exact absurd h (hnil above)
      · cases above with
        | nil => exact ⟨[], piece, [], rfl, rfl, congrArg trim (List.cons.inj h).1⟩
        | cons _ above => exact absurd (List.cons.inj h).2 (hnil above)
    | cons next rest =>
      rw [linesOfPieces] at h
      · cases above with
        | nil =>
          exact ⟨[], piece, next :: rest, rfl, rfl,
            (trim_dropReturn piece).symm.trans (congrArg trim (List.cons.inj h).1)⟩
        | cons _ above =>
          obtain ⟨before, found, behind, hpieces, hlength, htrim⟩ := ih (List.cons.inj h).2
          exact ⟨piece :: before, found, behind, congrArg (piece :: ·) hpieces,
            congrArg Nat.succ hlength, htrim⟩
      · exact List.cons_ne_nil _ _

/-- **A piece stands behind the pieces before it**, each with a line feed behind it, and none of
them has another line feed. -/
theorem exists_rest_of_splitOn {s piece : List Char} {before behind : List (List Char)}
    (h : splitOn (· == '\n') s = before ++ piece :: behind) :
    ∃ rest, s = before.flatMap (· ++ ['\n']) ++ (piece ++ rest) ∧
      ∀ part ∈ piece :: before, '\n' ∉ part := by
  have hfree {line : List Char} (hline : ∀ c ∈ line, (c == '\n') = false) : '\n' ∉ line :=
    fun hmem => absurd (hline _ hmem) (by decide)
  induction before generalizing s with
  | nil =>
    obtain ⟨line, tail, rfl, hline, htail⟩ := exists_line s
    have hpiece : line = piece := by
      rcases htail with rfl | ⟨rest, rfl⟩
      · rw [List.append_nil, splitOn_of_forall _ hline] at h
        exact (List.cons.inj h).1
      · rw [splitOn_append_cons _ hline rfl] at h
        exact (List.cons.inj h).1
    exact ⟨tail, by rw [hpiece]; rfl, List.forall_mem_singleton.mpr (hpiece ▸ hfree hline)⟩
  | cons first before ih =>
    obtain ⟨line, tail, rfl, hline, rfl | ⟨rest, rfl⟩⟩ := exists_line s
    · rw [List.append_nil, splitOn_of_forall _ hline] at h
      exact absurd (List.cons.inj h).2.symm
        (List.append_ne_nil_of_right_ne_nil _ (List.cons_ne_nil _ _))
    · rw [splitOn_append_cons _ hline rfl] at h
      obtain ⟨rfl, hrest⟩ := List.cons.inj h
      obtain ⟨more, hmore, hparts⟩ := ih hrest
      refine ⟨more, ?_, ?_⟩
      · rw [List.flatMap_cons, hmore]
        simp only [List.append_assoc, List.cons_append, List.nil_append]
      · rw [List.forall_mem_cons] at hparts ⊢
        exact ⟨hparts.1, List.forall_mem_cons.mpr ⟨hfree hline, hparts.2⟩⟩

/-! ## Bytes -/

theorem byteLength_eq (s : List Char) : byteLength s = (String.ofList s).utf8ByteSize := by
  induction s with
  | nil => rfl
  | cons c s ih =>
    rw [byteLength, ih, String.ofList_cons, String.utf8ByteSize_append,
      String.utf8ByteSize_singleton]

theorem byteLength_append (s t : List Char) :
    byteLength (s ++ t) = byteLength s + byteLength t := by
  rw [byteLength_eq, String.ofList_append, String.utf8ByteSize_append, ← byteLength_eq,
    ← byteLength_eq]

end ChartSchema.Text
