import ChartSchema.Proofs.Outcome
import ChartSchema.Proofs.Schema.FieldData
import ChartSchema.Proofs.Schema.RecordedLines
import ChartSchema.Proofs.Text.Lines
/-!
# The lines of fields without a type

The report about fields without a type labels, in the text of the document, the line of every field
whose line is known (`Schema.infer_labels`). The line of a field is a number that the scanner found
by the lines of the text, and the label is found by another way of taking the text apart, into the
pieces between line feeds and their bytes. The two agree since line by line they differ in no more
than a carriage return (`exists_piece_of_lines`), which is a blank and so not labelled.

That there is something to label comes from the scanner: a line is recorded for a key that stands
on it (`SourceMap.scan_isReadFrom`), so it is not blank. That the report is about this text comes
from the walk, which never fails for the want of a type (`Walk.IsFault`).
-/

namespace ChartSchema

open Yaml (Value)
open Text

/-! ## What the walk fails with -/

namespace Walk

/-- **What can be wrong with a document for the walk.** -/
inductive IsFault : SchemaError → Prop
  /-- A key is a collection. -/
  | key (path : String) : IsFault (.invalidKey path)
  /-- Items of a list contradict each other. -/
  | conflict (conflict : CommentConflict) : IsFault (.commentConflict conflict)

/-- A step of the walk that fails only with these errors. -/
def FailsOnly {α : Type} (P : SchemaError → Prop) (x : Walk α) : Prop :=
  ∀ r, Outcome.FailsOnly P (x r)

section

variable {α β : Type} {P : SchemaError → Prop}

theorem FailsOnly.pure (a : α) : FailsOnly P (pure a) := fun _ => .ok _

theorem FailsOnly.bind {x : Walk α} {f : α → Walk β} (hx : FailsOnly P x)
    (hf : ∀ a, FailsOnly P (f a)) : FailsOnly P (x >>= f) :=
  fun r => (hx r).bind fun p => hf p.1 p.2

theorem FailsOnly.lift {x : Except SchemaError α} (hx : Outcome.FailsOnly P x) :
    FailsOnly P (liftM x : Walk α) :=
  fun _ => hx.bind fun _ => .ok _

end

variable {ctx : DocumentContext} {key : String} {place : Place}

theorem takeName_failsOnly : FailsOnly IsFault (takeName ctx key place) := fun _ => .ok _

theorem key_failsOnly (k : Value) : Outcome.FailsOnly IsFault (Walk.key place k) := by
  unfold Walk.key
  split
  · exact .ok _
  · exact .error (.key _)

theorem document_failsOnly (merged : Merged) (existing : MergedField) (block : CommentBlock)
    (line? : Option Nat) :
    Outcome.FailsOnly IsFault (merged.document existing key place block line?) := by
  unfold Merged.document
  split
  · exact .ok _
  split
  · exact .ok _
  split
  · exact .error (.conflict _)
  · exact .ok _

mutual

/-- **The walk fails with one of these** at a value. The recursion is that of the walk, through
values, entries and items. -/
theorem resolve_failsOnly (v : Value) {key : String} {place : Place} :
    FailsOnly IsFault (resolve ctx key place v) := by
  match v with
  | .tagged tag v =>
    rw [resolve_tagged]
    exact resolve_failsOnly v
  | .mapping entries =>
    rw [resolve]
    split
    · exact .pure _
    · exact takeName_failsOnly.bind fun _ => (resolveEntries_failsOnly entries).bind fun _ =>
        .pure _
  | .sequence items =>
    rw [resolve]
    split
    · exact takeName_failsOnly.bind fun _ => (resolveItems_failsOnly items).bind fun _ => .pure _
    · exact .pure _
  | .null | .bool _ | .number _ | .string _ =>
    rw [resolve]
    · exact .pure _
    all_goals intros; contradiction
termination_by structural v

theorem resolveEntries_failsOnly (entries : List (Value × Value)) {place : Place} :
    FailsOnly IsFault (resolveEntries ctx place entries) := by
  match entries with
  | [] =>
    rw [resolveEntries]
    exact .pure _
  | (k, v) :: rest =>
    rw [resolveEntries]
    exact (FailsOnly.lift (key_failsOnly k)).bind fun _ => (resolve_failsOnly v).bind fun _ =>
      (resolveEntries_failsOnly rest).bind fun _ => .pure _
termination_by structural entries

theorem resolveItems_failsOnly (items : List Value) {place : Place} {position : Nat}
    {merged : Merged} : FailsOnly IsFault (resolveItems ctx place position merged items) := by
  match items with
  | [] =>
    rw [resolveItems]
    exact .pure _
  | item :: rest =>
    rw [resolveItems]
    exact (resolveItem_failsOnly item).bind fun _ => resolveItems_failsOnly rest
termination_by structural items

theorem resolveItem_failsOnly (item : Value) {place : Place} {merged : Merged} :
    FailsOnly IsFault (resolveItem ctx place merged item) := by
  match item with
  | .tagged tag v =>
    rw [resolveItem_tagged]
    exact resolveItem_failsOnly v
  | .mapping entries =>
    rw [resolveItem_mapping]
    exact mergeEntries_failsOnly entries
  | .null | .bool _ | .number _ | .string _ | .sequence _ =>
    rw [resolveItem]
    · exact .pure _
    all_goals intros; contradiction
termination_by structural item

theorem mergeEntries_failsOnly (entries : List (Value × Value)) {place : Place} {merged : Merged} :
    FailsOnly IsFault (mergeEntries ctx place merged entries) := by
  match entries with
  | [] =>
    rw [mergeEntries]
    exact .pure _
  | (k, v) :: rest =>
    rw [mergeEntries]
    refine (FailsOnly.lift (key_failsOnly k)).bind fun key => ?_
    dsimp only
    split
    · exact (FailsOnly.lift (document_failsOnly merged _ _ _)).bind fun _ =>
        mergeEntries_failsOnly rest
    · exact (resolve_failsOnly v).bind fun _ => mergeEntries_failsOnly rest
termination_by structural entries

end

theorem resolveRoot_failsOnly (entries : List (Value × Value)) :
    FailsOnly IsFault (resolveRoot ctx place entries) := by
  induction entries with
  | nil => exact .pure _
  | cons entry rest ih =>
    refine (FailsOnly.lift (key_failsOnly entry.1)).bind fun key => ?_
    split
    · exact ih
    · exact (resolve_failsOnly entry.2).bind fun _ => ih.bind fun _ => .pure _

end Walk

/-- **An error that is found before types are looked for.** -/
def SchemaError.IsBeforeTypes (e : SchemaError) : Prop := ∀ report, e ≠ .unknownTypes report

namespace Schema

variable {options : BuildOptions} {text : String}

theorem apiVersionOf_failsOnly (root : List (Value × Value)) :
    Outcome.FailsOnly SchemaError.IsBeforeTypes (apiVersionOf root) := by
  unfold apiVersionOf
  split
  · exact .ok _
  · exact .ok _
  · split
    · exact .ok _
    · exact .error nofun
  · exact .error nofun

theorem kindOf_failsOnly (root : List (Value × Value)) :
    Outcome.FailsOnly SchemaError.IsBeforeTypes (kindOf root) := by
  unfold kindOf
  split
  · split
    · exact .error nofun
    · exact .ok _
  · exact .error nofun

/-- Building the schema of a text is not refused for the want of a type. -/
theorem ofText_failsOnly : Outcome.FailsOnly SchemaError.IsBeforeTypes (ofText options text) := by
  unfold ofText
  split
  · unfold ofValue
    split
    · refine (apiVersionOf_failsOnly _).bind fun _ => (kindOf_failsOnly _).bind fun kind =>
        Outcome.FailsOnly.bind (fun e he => ?_) fun _ => .ok _
      cases Walk.resolveRoot_failsOnly _ _ e he with
      | key _ => exact nofun
      | conflict _ => exact nofun
    · exact .error nofun
  · exact .error nofun

/-- **A text is refused for the want of a type** only where it has a schema, and what is reported
are the fields of this schema without a type. -/
theorem infer_eq_unknownTypes {report : UnknownReport}
    (h : infer options text = .error (.unknownTypes report)) :
    ∃ schema, ofText options text = .ok schema ∧
      report = ({ fields := schema.unknownFields, tool := options.markerTool } :
        UnknownReport).withText text := by
  unfold infer at h
  cases hschema : ofText options text with
  | error e =>
    rw [hschema] at h
    exact absurd (Except.error.inj h) (ofText_failsOnly e hschema report)
  | ok schema =>
    rw [hschema] at h
    refine ⟨schema, rfl, ?_⟩
    dsimp only [bind, Except.bind, unknownReport?] at h
    split at h
    · exact nomatch h
    · next found hfound =>
      split at hfound
      · exact nomatch hfound
      · obtain rfl := Option.some.inj hfound
        exact (SchemaError.unknownTypes.inj (Except.error.inj h)).symm

end Schema

/-! ## Lines that were found -/

/-- **A field has the line of its key**, at some place. -/
def Field.HasLineOf (ctx : DocumentContext) (f : Field) : Prop :=
  ∃ place : Place, f.sourceLine? = ctx.sources.line? (place.key f.sourceKey).segments

/-- The fields that the walk makes have the lines of their keys. -/
theorem Walk.holdsOfFields_hasLineOf (ctx : DocumentContext) :
    HoldsOfFields ctx (fun _ => True) (Field.HasLineOf ctx) where
  types := .of_forall fun _ => trivial
  read _ place _ _ := ⟨place, rfl⟩
  documented _ _ h := h

/-- **A line that is recorded for a key has the key.** The scanner goes from line to line and
records a key at most once, on the line where it reads it. -/
theorem SourceMap.exists_line_of_line? {text : String} {place : Place} {key : String} {n : ℕ}
    (h : (SourceMap.scan text).line? (place.key key).segments = some n) :
    ∃ (above : List (List Char)) (raw : List Char) (below : List (List Char)),
      lines text.toList = above ++ raw :: below ∧ n = above.length + 1 ∧
        LineScan.HasKey raw key := by
  obtain ⟨entry, hentry, rfl⟩ := Option.map_eq_some_iff.mp h
  obtain ⟨before, after, heq, -⟩ := List.lookup_eq_some_iff.mp hentry
  obtain ⟨above, raw, below, parents, name, hlines, hline, hpath, hkey, -⟩ :=
    (SourceMap.scan_isReadFrom text).entry ((place.key key).segments, entry)
      (by rw [heq]; exact List.mem_append_right _ List.mem_cons_self)
  obtain rfl := PathSegment.key.inj (List.singleton_inj.mp (List.append_inj_right' hpath rfl))
  exact ⟨above, raw, below, hlines, hline, hkey⟩

theorem LineScan.HasKey.trim_ne_nil {raw : List Char} {key : String} (h : HasKey raw key) :
    trim raw ≠ [] := by
  obtain ⟨rest, text, value, hbehind, hsplit, -⟩ := h
  intro hblank
  have hcontent : contentOf raw = [] := trimEnd_of_all_isBlank (List.all_eq_true.mpr fun c hc =>
    trim_eq_nil_iff.mp hblank c ((List.dropWhile_suffix _).subset hc))
  rw [hcontent] at hbehind
  rw [List.suffix_nil.mp hbehind.suffix] at hsplit
  exact nomatch hsplit

/-! ## Where the lines are -/

/-- **The span of a piece** starts behind the pieces before it, with their line feeds, and the
blanks that it starts with. It is as long as the piece without the blanks around it. -/
theorem lineSpan?_append_cons (before : List (List Char)) (piece : List Char)
    (behind : List (List Char)) (offset : ℕ) :
    lineSpan? offset (before.length + 1) (before ++ piece :: behind) =
      some (offset + byteLength (before.flatMap (· ++ ['\n']) ++ piece.takeWhile isBlank),
        byteLength (trim piece)) := by
  induction before generalizing offset with
  | nil =>
    have hsplit : byteLength piece = byteLength (piece.takeWhile isBlank) +
        byteLength (trimStart piece) := by
      rw [← byteLength_append, trimStart, List.takeWhile_append_dropWhile]
    rw [List.flatMap_nil, List.nil_append, List.nil_append, List.length_nil, lineSpan?, hsplit,
      Nat.add_sub_cancel, trim]
  | cons first before ih =>
    have hfirst : byteLength (first ++ ['\n']) = byteLength first + 1 := byteLength_append _ _
    rw [List.length_cons, List.cons_append, lineSpan?, ih, List.flatMap_cons, List.append_assoc,
      byteLength_append (first ++ ['\n']), hfirst]
    · congr 2
      omega
    · exact Nat.succ_ne_zero _

/-- As many line feeds stand behind pieces as there are pieces. -/
theorem count_flatMap_newline {before : List (List Char)} (h : ∀ part ∈ before, '\n' ∉ part) :
    (before.flatMap (· ++ ['\n'])).count '\n' = before.length := by
  induction before with
  | nil => rfl
  | cons first before ih =>
    obtain ⟨hfirst, hrest⟩ := List.forall_mem_cons.mp h
    rw [List.flatMap_cons, List.count_append, List.count_append, ih hrest,
      List.count_eq_zero_of_not_mem hfirst, List.count_singleton_self, List.length_cons]
    omega

/-- **A label covers a line**, but for the blanks around it. -/
structure Label.Covers (label : Label) (text : String) (number : ℕ) (line : List Char) : Prop where
  /-- The line has this number in the text. -/
  line_eq : ∃ above below, lines text.toList = above ++ line :: below ∧ above.length + 1 = number
  /-- The label starts between two characters. -/
  isValid_start : (String.Pos.Raw.mk label.offset).IsValid text
  /-- It ends between two characters, within the text. -/
  isValid_stop : (String.Pos.Raw.mk (label.offset + label.length)).IsValid text ∧
    label.offset + label.length ≤ text.utf8ByteSize
  /-- It covers the content of the line, behind one line feed for each line above, and no other line
  feed. -/
  parts : ∃ before content after, text = before ++ content ++ after ∧
    before.utf8ByteSize = label.offset ∧ content.utf8ByteSize = label.length ∧
    before.toList.count '\n' + 1 = number ∧ content.toList = trim line ∧ content ≠ "" ∧
    '\n' ∉ content.toList

/-- **The places between the parts of a text are places between characters.** -/
theorem isValid_of_append {text before content after : String}
    (htext : text = before ++ content ++ after) :
    (String.Pos.Raw.mk before.utf8ByteSize).IsValid text ∧
      (String.Pos.Raw.mk (before.utf8ByteSize + content.utf8ByteSize)).IsValid text ∧
      before.utf8ByteSize + content.utf8ByteSize ≤ text.utf8ByteSize := by
  refine ⟨String.Pos.Raw.isValid_iff_exists_append.mpr ⟨before, content ++ after, ?_, rfl⟩,
    String.Pos.Raw.isValid_iff_exists_append.mpr ⟨before ++ content, after, htext, ?_⟩, ?_⟩
  · rw [htext, String.append_assoc]
  · rw [← String.utf8ByteSize_append]
    rfl
  · rw [htext, String.utf8ByteSize_append, String.utf8ByteSize_append]
    exact Nat.le_add_right _ _

/-- **A piece stands in the text** behind the pieces before it and the blanks that it starts
with. -/
theorem exists_content_of_splitOn {s piece : List Char} {before behind : List (List Char)}
    (h : splitOn (· == '\n') s = before ++ piece :: behind) :
    ∃ lead after, s = lead ++ (trim piece ++ after) ∧ '\n' ∉ trim piece ∧
      lead.count '\n' = before.length ∧
      lineSpan? 0 (before.length + 1) (splitOn (· == '\n') s) =
        some (byteLength lead, byteLength (trim piece)) := by
  obtain ⟨rest, hs, hparts⟩ := exists_rest_of_splitOn h
  obtain ⟨hpiece, hbefore⟩ := List.forall_mem_cons.mp hparts
  obtain ⟨tail, htail⟩ := isPrefix_trimEnd (trimStart piece)
  have hsplit : piece = piece.takeWhile isBlank ++ (trim piece ++ tail) := by
    rw [trim, htail, trimStart, List.takeWhile_append_dropWhile]
  have hfree : '\n' ∉ piece.takeWhile isBlank ++ (trim piece ++ tail) := hsplit ▸ hpiece
  rw [List.mem_append, List.mem_append, not_or, not_or] at hfree
  refine ⟨before.flatMap (· ++ ['\n']) ++ piece.takeWhile isBlank, tail ++ rest, ?_,
    hfree.2.1, ?_, ?_⟩
  · rw [hs]
    conv_lhs => rw [hsplit]
    simp only [List.append_assoc]
  · rw [List.count_append, count_flatMap_newline hbefore, List.count_eq_zero_of_not_mem hfree.1,
      Nat.add_zero]
  · rw [h, lineSpan?_append_cons, Nat.zero_add]

/-- **A line that is not blank has a span**, and a label there covers it. The span counts bytes, and
the line is trimmed before, so both of its ends are places between characters. -/
theorem exists_lineSpan {text : String} {above below : List (List Char)} {line : List Char}
    (hlines : lines text.toList = above ++ line :: below) (hline : trim line ≠ []) :
    ∃ span, lineSpan? 0 (above.length + 1) (splitOn (· == '\n') text.toList) = some span ∧
      ∀ remark, Label.Covers ⟨span.1, span.2, remark⟩ text (above.length + 1) line := by
  obtain ⟨before, piece, behind, hpieces, hlength, htrim⟩ := exists_piece_of_lines hlines
  obtain ⟨lead, after, htext, hfree, hcount, hspan⟩ := exists_content_of_splitOn hpieces
  rw [htrim] at htext hfree hspan
  rw [hlength] at hspan hcount
  rw [byteLength_eq, byteLength_eq] at hspan
  have hparts : text = String.ofList lead ++ String.ofList (trim line) ++ String.ofList after := by
    rw [← String.ofList_append, ← String.ofList_append, List.append_assoc, ← htext,
      String.ofList_toList]
  obtain ⟨hstart, hstop⟩ := isValid_of_append hparts
  refine ⟨_, hspan, fun remark => ⟨⟨above, below, hlines, rfl⟩, hstart, hstop,
    _, _, _, hparts, rfl, rfl, ?_, String.toList_ofList, ?_, ?_⟩⟩
  · rw [String.toList_ofList, hcount]
  · exact mt String.ofList_eq_empty_iff.mp hline
  · rwa [String.toList_ofList]

/-! ## Labels -/

/-- A field without a type is that of a field of the schema, with its key and its line. -/
theorem Schema.exists_field_of_unknown {schema : Schema} {field : UnknownField}
    (h : field ∈ schema.unknownFields) :
    ∃ s ∈ schema.structs, ∃ f ∈ s.fields,
      field.sourceKey = f.sourceKey ∧ field.line? = f.sourceLine? := by
  obtain ⟨⟨owner, f⟩, hmem, hunknown⟩ := List.mem_filterMap.mp h
  obtain ⟨s, hs, hpair⟩ := List.mem_flatMap.mp hmem
  obtain ⟨g, hg, heq⟩ := List.mem_map.mp hpair
  obtain ⟨rfl, rfl⟩ := Prod.mk.inj heq
  obtain ⟨position, -, rfl⟩ := Option.map_eq_some_iff.mp hunknown
  exact ⟨s, hs, g, hg, rfl, rfl⟩

namespace UnknownField

variable {field : UnknownField} {text : String}

theorem label?_of_line?_eq_none (h : field.line? = none) : field.label? text = none := by
  rw [label?, h]
  rfl

theorem exists_label?_of_lineSpan? {n : ℕ} (hline : field.line? = some n) {span : ℕ × ℕ}
    (hspan : lineSpan? 0 n (splitOn (· == '\n') text.toList) = some span) :
    ∃ remark, field.label? text = some ⟨span.1, span.2, remark⟩ := by
  rw [label?, hline]
  dsimp only [bind, Option.bind]
  rw [hspan]
  exact ⟨_, rfl⟩

/-- **A field has its label**: one that covers its line, which has its key. -/
def IsLabelled (text : String) (field : UnknownField) (label : Label) : Prop :=
  ∃ n line, field.line? = some n ∧ label.Covers text n line ∧ LineScan.HasKey line field.sourceKey

/-- **Every field whose line was found has a label.** The line has the key of the field, so it is
not blank. -/
theorem exists_label {options : BuildOptions} {v : Value} {schema : Schema}
    (h : Schema.ofValue ⟨options, SourceMap.scan text⟩ v = .ok schema)
    (hfield : field ∈ schema.unknownFields) (hline : field.line?.isSome = true) :
    ∃ label, field.label? text = some label ∧ field.IsLabelled text label := by
  obtain ⟨n, hn⟩ := Option.isSome_iff_exists.mp hline
  obtain ⟨s, hs, f, hf, hsource, hsame⟩ := Schema.exists_field_of_unknown hfield
  obtain ⟨place, hplace⟩ :=
    (Schema.ofValue_isRead (Walk.holdsOfFields_hasLineOf _) h s hs).fields f hf
  obtain ⟨above, line, below, hlines, rfl, hkey⟩ :=
    SourceMap.exists_line_of_line? (hplace.symm.trans (hsame.symm.trans hn))
  obtain ⟨span, hspan, hcovers⟩ := exists_lineSpan hlines hkey.trim_ne_nil
  obtain ⟨remark, hlabel⟩ := exists_label?_of_lineSpan? hn hspan
  exact ⟨_, hlabel, _, line, hn, hcovers remark, hsource ▸ hkey⟩

end UnknownField

/-- What is found for some elements and for no others is found for them one by one. -/
theorem forall₂_filter_filterMap {α β : Type} {R : α → β → Prop} {p : α → Bool}
    {f : α → Option β} {xs : List α} (hsome : ∀ x ∈ xs, p x = true → ∃ y, f x = some y ∧ R x y)
    (hnone : ∀ x ∈ xs, p x = false → f x = none) :
    List.Forall₂ R (xs.filter p) (xs.filterMap f) := by
  induction xs with
  | nil => exact .nil
  | cons x rest ih =>
    obtain ⟨hfirst, hsome⟩ := List.forall_mem_cons.mp hsome
    obtain ⟨hother, hnone⟩ := List.forall_mem_cons.mp hnone
    cases hp : p x with
    | true =>
      obtain ⟨y, hy, hR⟩ := hfirst hp
      rw [List.filter_cons_of_pos hp, List.filterMap_cons_some hy]
      exact .cons hR (ih hsome hnone)
    | false =>
      rw [List.filter_cons_of_neg (by rw [hp]; exact Bool.false_ne_true),
        List.filterMap_cons_none (hother hp)]
      exact ih hsome hnone

/-- **The labels of a report are those of its fields whose lines are known**, one for each and in
their order. Each covers the line of its field without the blanks around it, between characters of
the text and on one line. -/
theorem Schema.infer_labels {options : BuildOptions} {text : String} {report : UnknownReport}
    (h : infer options text = .error (.unknownTypes report)) :
    List.Forall₂ (UnknownField.IsLabelled text) (report.fields.filter (·.line?.isSome))
      report.labels := by
  obtain ⟨schema, hschema, rfl⟩ := infer_eq_unknownTypes h
  obtain ⟨v, hv⟩ : ∃ v, ofValue ⟨options, SourceMap.scan text⟩ v = .ok schema := by
    unfold ofText at hschema
    split at hschema
    · next v _ => exact ⟨v, hschema⟩
    · exact nomatch hschema
  refine forall₂_filter_filterMap (fun field hfield hline => ?_) fun field _ hline => ?_
  · exact UnknownField.exists_label hv hfield hline
  · exact UnknownField.label?_of_line?_eq_none
      (Option.isNone_iff_eq_none.mp (Option.isSome_eq_false_iff.mp hline))

/-- A text with both line ends, with letters of two bytes and without a line feed at its end. -/
def sensorText : String :=
  "kind: F\u00fchler\r\n\u00dcber: ~ \r\na:\n  - b: []\r\n    c: [\x7bd: ~\x7d]\ne: "

/-- The report about it. The key in brackets has no line. -/
def sensorReport : UnknownReport where
  fields := [⟨"F\u00fchler", "\u00dcber", "\u00dcber", "F\u00fchler.\u00dcber", some 2, .field⟩,
    ⟨"F\u00fchler", "E", "e", "F\u00fchler.e", some 6, .field⟩,
    ⟨"ASpec", "B", "b", "F\u00fchler.a.b", some 4, .listElement⟩,
    ⟨"CSpec", "D", "d", "F\u00fchler.a.c.d", none, .field⟩]
  tool := "miaka"
  labels := [⟨15, 8, "type of '\u00dcber' is unknown"⟩, ⟨56, 2, "type of 'e' is unknown"⟩,
    ⟨31, 7, "element type of 'b' is unknown"⟩]

/-- Its labels cover the second, the last and the fourth line. -/
theorem Schema.infer_labels_sensor :
    infer {} sensorText = .error (.unknownTypes sensorReport) ∧
      List.Forall₂ (UnknownField.IsLabelled sensorText)
        (sensorReport.fields.filter (·.line?.isSome)) sensorReport.labels := by
  have herror : infer {} sensorText = .error (.unknownTypes sensorReport) := by decide +kernel
  exact ⟨herror, infer_labels herror⟩

end ChartSchema
