import ChartSchema.Proofs.Outcome
import ChartSchema.Proofs.Schema.FieldData
import ChartSchema.Proofs.Schema.Sites
import ChartSchema.Proofs.Text.Lines
/-!
# Every comment line is of one kind

Of a comment line the comment signs and the blanks around them are taken off (`Comment.Strips`).
What is left is nothing, or a line of exactly one kind: a hint of the tool, a marker, or
documentation. `CommentBlock.ofLines` sorts the lines by kind and leaves none out, and the hint that
it finds is the one that is found among the raw lines.

In a schema this stays so (`comment_lines_by_kind`). Where the items of a list are merged, a field
may get its lines from another item, but all of them from one place.
-/

namespace ChartSchema

open Text

namespace Comment

/-! ## Lines without their signs -/

/-- **A line is stripped**: in front of its content stand blanks, comment signs and blanks again,
and behind it blanks. All that stand there are taken off; where there are no signs, there is one run
of blanks. -/
structure Strips (line content : String) : Prop where
  /-- What is taken off. -/
  parts : ∃ lead signs gap tail : List Char,
    line.toList = lead ++ (signs ++ (gap ++ (content.toList ++ tail))) ∧
      (∀ c ∈ lead ++ gap ++ tail, isBlank c = true) ∧ (∀ c ∈ signs, c = '#') ∧
      (signs = [] → gap = []) ∧ (gap ++ content.toList).head? ≠ some '#'
  /-- No blanks are left around the content. -/
  trim_eq : trim content.toList = content.toList

theorem strips_content (line : String) : Strips line (content line) := by
  obtain ⟨lead, tail, hline, hlead, htail⟩ := exists_blanks line.toList
  have hsigns := List.takeWhile_append_dropWhile (p := (· == '#')) (l := trim line.toList)
  have hhead := List.head?_dropWhile_not (· == '#') (trim line.toList)
  have hcontent : (content line).toList = trim ((trim line.toList).dropWhile (· == '#')) := by
    rw [content, String.toList_ofList]
  generalize hrest : (trim line.toList).dropWhile (· == '#') = rest at hsigns hhead hcontent
  obtain ⟨gap, more, hgap, hblank, hmore⟩ := exists_blanks rest
  rw [← hcontent] at hgap
  refine ⟨⟨lead, (trim line.toList).takeWhile (· == '#'), gap, more ++ tail, ?_, ?_,
    fun c hc => beq_iff_eq.mp (List.mem_takeWhile_imp (p := (· == '#')) hc),
    fun hnone => ?_, fun hsign => ?_⟩, ?_⟩
  · conv_lhs => rw [hline, ← hsigns, hgap]
    simp only [List.append_assoc]
  · simp only [List.forall_mem_append]
    exact ⟨⟨hlead, hblank⟩, hmore, htail⟩
  · -- Without signs the rest is a text from which the blanks are taken off already.
    have hsame : rest = trim line.toList := by rw [← hsigns, hnone, List.nil_append]
    rw [hcontent, hsame, trim_trim, ← hsame] at hgap
    have hlength := congrArg List.length hgap
    simp only [List.length_append] at hlength
    exact List.length_eq_zero_iff.mp (by omega)
  · obtain ⟨after, hafter⟩ := List.head?_eq_some_iff.mp hsign
    rw [hgap, ← List.append_assoc, hafter] at hhead
    have hother : ('#' == '#') = false := hhead
    exact absurd hother (by decide)
  · rw [hcontent, trim_trim]

theorem Strips.content_eq {line stripped : String} (h : Strips line stripped) :
    content line = stripped := by
  obtain ⟨⟨lead, signs, gap, tail, hline, hblank, hsigns, hgap, hhead⟩, htrim⟩ := h
  simp only [List.forall_mem_append] at hblank
  obtain ⟨⟨hlead, hgapBlank⟩, htail⟩ := hblank
  generalize hrest : gap ++ stripped.toList = rest at hhead
  have hstart : trim line.toList = trim (signs ++ rest) := by
    rw [← trim_blanks hlead htail (signs ++ rest), hline, ← hrest]
    simp only [List.append_assoc]
  have hend : trim rest = stripped.toList := by
    rw [← hrest, ← List.append_nil stripped.toList,
      trim_blanks hgapBlank (List.forall_mem_nil _), htrim, List.append_nil]
  -- No sign is taken off what starts like the rest.
  have hkept (text : List Char) (hstarts : text <+: rest) :
      text.dropWhile (· == '#') = text := by
    cases text with
    | nil => rfl
    | cons c text =>
      obtain ⟨more, rfl⟩ := hstarts
      have hc : c ≠ '#' := fun heq => hhead (congrArg some heq)
      exact List.dropWhile_cons_of_neg (mt beq_iff_eq.mp hc)
  have hstripped : trim ((trim line.toList).dropWhile (· == '#')) = stripped.toList := by
    rw [hstart]
    cases hsign : signs with
    | nil =>
      have hsame : rest = stripped.toList := by rw [← hrest, hgap hsign, List.nil_append]
      rw [List.nil_append, hend, ← hsame, hkept rest List.prefix_rfl, hend, hsame]
    | cons c more =>
      have hnotBlank : ∀ c ∈ signs, isBlank c = false := fun c hc => by rw [hsigns c hc]; rfl
      rw [← hsign, trim_append hnotBlank (hsign ▸ List.cons_ne_nil c more),
        List.dropWhile_append_of_pos fun c hc => beq_iff_eq.mpr (hsigns c hc),
        hkept _ (isPrefix_trimEnd rest), trim_trimEnd, hend]
  rw [content, hstripped, String.ofList_toList]

/-- **What a line is stripped to** is its content. -/
theorem strips_iff {line stripped : String} : Strips line stripped ↔ content line = stripped :=
  ⟨Strips.content_eq, fun h => h ▸ strips_content line⟩

/-! ## Kinds -/

/-- The kinds of lines. -/
inductive Kind where
  /-- It says a type. -/
  | hint (type : String)
  /-- It is a rule for the values of the field. -/
  | marker
  /-- It describes the field. -/
  | documentation

/-- **A hint of a tool**: `+<tool>:type:<type>`, where something is written for the type. -/
def IsHint (tool line type : String) : Prop :=
  ∃ rest, line.toList = '+' :: (tool.toList ++ (":type:".toList ++ rest)) ∧
    trim rest = type.toList ∧ type ≠ ""

/-- **A line is of a kind**, where hints are those of a tool. -/
inductive IsOfKind (tool line : String) : Kind → Prop
  /-- A hint. -/
  | hint {type : String} : IsHint tool line type → IsOfKind tool line (.hint type)
  /-- Another line that starts with `+`. -/
  | marker : line.toList.head? = some '+' → (∀ type, ¬IsHint tool line type) →
      IsOfKind tool line .marker
  /-- Any other line. -/
  | documentation : line.toList.head? ≠ some '+' → IsOfKind tool line .documentation

variable {tool line type other : String}

theorem IsHint.head? (h : IsHint tool line type) : line.toList.head? = some '+' := by
  obtain ⟨rest, hline, -⟩ := h
  rw [hline]
  rfl

theorem hint?_eq_some_iff : hint? tool line = some type ↔ IsHint tool line type := by
  have hlead (rest : List Char) : hintLead tool ++ rest =
      '+' :: (tool.toList ++ (":type:".toList ++ rest)) := by
    rw [hintLead, List.cons_append, List.append_assoc]
  constructor
  · intro h
    unfold hint? at h
    split at h
    · cases h
    · next rest hrest =>
      dsimp only at h
      split at h
      · cases h
      · next hne =>
        obtain rfl := Option.some.inj h
        refine ⟨rest, (eq_append_of_after? hrest).trans (hlead rest), String.toList_ofList.symm, ?_⟩
        intro hempty
        exact hne (List.isEmpty_iff.mpr (String.ofList_eq_empty_iff.mp hempty))
  · rintro ⟨rest, hline, htype, hne⟩
    have hsome : after? (hintLead tool) line.toList = some rest := by
      rw [hline, ← hlead, after?_append]
    unfold hint?
    rw [hsome]
    dsimp only
    rw [htype, if_neg, String.ofList_toList]
    exact fun hempty => hne (String.toList_eq_nil_iff.mp (List.isEmpty_iff.mp hempty))

theorem IsHint.unique (h : IsHint tool line type) (h' : IsHint tool line other) : type = other :=
  Option.some.inj ((hint?_eq_some_iff.mpr h).symm.trans (hint?_eq_some_iff.mpr h'))

theorem isPlus_iff : isPlus line = true ↔ line.toList.head? = some '+' := beq_iff_eq

/-- **Every line is of one kind.** -/
theorem existsUnique_isOfKind (tool line : String) : ∃! kind, IsOfKind tool line kind := by
  by_cases hhint : ∃ type, IsHint tool line type
  · obtain ⟨type, htype⟩ := hhint
    refine ⟨.hint type, .hint htype, fun kind hkind => ?_⟩
    cases hkind with
    | hint hother => rw [hother.unique htype]
    | marker _ hnone => exact absurd htype (hnone type)
    | documentation hplus => exact absurd htype.head? hplus
  · by_cases hplus : line.toList.head? = some '+'
    · refine ⟨.marker, .marker hplus (not_exists.mp hhint), fun kind hkind => ?_⟩
      cases hkind with
      | hint hother => exact absurd ⟨_, hother⟩ hhint
      | marker _ _ => rfl
      | documentation hno => exact absurd hplus hno
    · refine ⟨.documentation, .documentation hplus, fun kind hkind => ?_⟩
      cases hkind with
      | hint hother => exact absurd ⟨_, hother⟩ hhint
      | marker hyes _ => exact absurd hyes hplus
      | documentation _ => rfl

theorem isOfKind_hint_iff : IsOfKind tool line (.hint type) ↔ hint? tool line = some type := by
  rw [hint?_eq_some_iff]
  exact ⟨fun h => by cases h; assumption, .hint⟩

theorem hint?_eq_none_iff : (hint? tool line).isNone = true ↔ ∀ type, ¬IsHint tool line type := by
  rw [Option.isNone_iff_eq_none, Option.eq_none_iff_forall_ne_some]
  exact forall_congr' fun _ => not_congr hint?_eq_some_iff

theorem isOfKind_marker_iff : IsOfKind tool line .marker ↔ isMarker tool line = true := by
  rw [isMarker, Bool.and_eq_true, isPlus_iff, hint?_eq_none_iff]
  exact ⟨fun h => by cases h with | marker hplus hnone => exact ⟨hnone, hplus⟩,
    fun h => .marker h.2 h.1⟩

theorem isOfKind_documentation_iff :
    IsOfKind tool line .documentation ↔ isDocumentation tool line = true := by
  rw [isDocumentation, Bool.and_eq_true, Bool.not_eq_true', ← Bool.not_eq_true, isPlus_iff,
    hint?_eq_none_iff]
  refine ⟨fun h => ?_, fun h => .documentation h.2⟩
  cases h with
  | documentation hplus => exact ⟨fun _ hhint => hplus hhint.head?, hplus⟩

/-- Of which kind a line is can be decided. -/
instance decidableIsOfKind (tool line : String) :
    (kind : Kind) → Decidable (IsOfKind tool line kind)
  | .hint _ => decidable_of_iff' _ isOfKind_hint_iff
  | .marker => decidable_of_iff' _ isOfKind_marker_iff
  | .documentation => decidable_of_iff' _ isOfKind_documentation_iff

end Comment

/-! ## Blocks -/

namespace CommentBlock

open Comment

/-- **Raw lines are sorted by kind**: of each the content is kept, unless there is none, and every
content goes to its kind. -/
structure IsSorted (tool : String) (raw : List String) (block : CommentBlock) : Prop where
  /-- The content of a line is what is left when it is stripped. -/
  strips : ∀ line ∈ raw, ∀ stripped, Strips line stripped ↔ content line = stripped
  /-- The lines are the contents in order, less those that are empty. -/
  lines_eq : block.lines = (raw.map content).filter (· ≠ "")
  /-- Every line is of one kind. -/
  kind : ∀ line ∈ block.lines, ∃! kind, IsOfKind tool line kind
  /-- The markers among them, as often as they stand there and in their order. -/
  markers_eq : block.markers = block.lines.filter (IsOfKind tool · .marker)
  /-- And so is the documentation. -/
  documentation_eq : block.documentation = block.lines.filter (IsOfKind tool · .documentation)
  /-- The type is what the first hint says. -/
  typeHint_iff : ∀ type, block.typeHint = some type ↔ ∃ before line after,
    block.lines = before ++ line :: after ∧ IsOfKind tool line (.hint type) ∧
      ∀ earlier ∈ before, ∀ other, ¬IsOfKind tool earlier (.hint other)

variable {tool line : String} {raw : List String} {block : CommentBlock}

theorem isSorted_ofLines (tool : String) (raw : List String) :
    (ofLines tool raw).IsSorted tool raw where
  strips _ _ _ := strips_iff
  lines_eq := List.filter_congr fun line _ => by
    rw [Bool.eq_iff_iff, Bool.not_eq_true', decide_eq_true_iff, ← Bool.not_eq_true, ne_eq,
      String.isEmpty_iff]
  kind line _ := existsUnique_isOfKind tool line
  markers_eq := List.filter_congr fun line _ => by
    rw [Bool.eq_iff_iff, decide_eq_true_iff, isOfKind_marker_iff]
  documentation_eq := List.filter_congr fun line _ => by
    rw [Bool.eq_iff_iff, decide_eq_true_iff, isOfKind_documentation_iff]
  typeHint_iff type := by
    simp only [isOfKind_hint_iff, ← Option.eq_none_iff_forall_ne_some]
    exact List.findSome?_eq_some_iff

/-- A hint that says nothing is a marker, and so is one of another tool. -/
example : ofLines "miaka"
      ["## A name. ", "#", "# +miaka:type:", "#+miaka:type: int", "+helm:type:a"] =
    { documentation := ["A name."], typeHint := some "int",
      markers := ["+miaka:type:", "+helm:type:a"],
      lines := ["A name.", "+miaka:type:", "+miaka:type: int", "+helm:type:a"] } := by
  decide +kernel

theorem IsSorted.isOfKind_marker (h : block.IsSorted tool raw) (hline : line ∈ block.markers) :
    IsOfKind tool line .marker := by
  rw [h.markers_eq] at hline
  exact of_decide_eq_true (List.mem_filter.mp hline).2

/-- The documentation of a sorted block is documentation. -/
theorem IsSorted.isOfKind_documentation (h : block.IsSorted tool raw)
    (hline : line ∈ block.documentation) : IsOfKind tool line .documentation := by
  rw [h.documentation_eq] at hline
  exact of_decide_eq_true (List.mem_filter.mp hline).2

end CommentBlock

/-! ## Schemas -/

/-- **A field has the lines of one place**, each with those of its kind. -/
def Field.HasLinesOf (ctx : DocumentContext) (f : Field) : Prop :=
  ∃ place, f.documentation = (ctx.comments place).documentation ∧
    f.markers = (ctx.comments place).markers

/-- The fields that the walk makes have the lines of one place. -/
theorem Walk.holdsOfFields_hasLinesOf (ctx : DocumentContext) :
    HoldsOfFields ctx (fun _ => True) (Field.HasLinesOf ctx) where
  types := .of_forall fun _ => trivial
  read key place _ _ := ⟨place.key key, rfl, rfl⟩
  documented _ place _ := ⟨place, rfl, rfl⟩

open Comment CommentBlock in
/-- **Comment lines are sorted by kind, and stay so in a schema.** A block has all lines with
content, each of one kind; its type is what the first hint says, which is found as well without the
block. In a schema every line of documentation is documentation and every marker a marker, also
where the items of a list were merged. -/
theorem comment_lines_by_kind :
    (∀ tool raw, (ofLines tool raw).IsSorted tool raw ∧
      (ofLines tool raw).typeHint = firstHint? tool raw) ∧
    ∀ ctx v schema, Schema.ofValue ctx v = .ok schema → ∀ s ∈ schema.structs,
      (∀ line ∈ s.documentation, IsOfKind ctx.options.markerTool line .documentation) ∧
      ∀ f ∈ s.fields,
        (∀ line ∈ f.documentation, IsOfKind ctx.options.markerTool line .documentation) ∧
        ∀ line ∈ f.markers, IsOfKind ctx.options.markerTool line .marker := by
  refine ⟨fun tool raw => ⟨isSorted_ofLines tool raw, typeHint_ofLines tool raw⟩,
    fun ctx v schema hbuilt s hs => ?_⟩
  have hsorted (place : Place) := isSorted_ofLines ctx.options.markerTool
    (ctx.sources.comments place.segments)
  obtain ⟨hfields, place, hdocumentation⟩ :=
    Schema.ofValue_isRead (Walk.holdsOfFields_hasLinesOf ctx) hbuilt s hs
  refine ⟨fun line hline => ?_, fun f hf => ?_⟩
  · rw [hdocumentation] at hline
    exact (hsorted place).isOfKind_documentation hline
  · obtain ⟨source, hlines, hmarkers⟩ := hfields f hf
    rw [hlines, hmarkers]
    exact ⟨fun line => (hsorted source).isOfKind_documentation,
      fun line => (hsorted source).isOfKind_marker⟩

/-- A list of ports, where only the second one has comments above its keys. -/
def hub : Yaml.Value :=
  .mapping [(.string "apiVersion", .string "a.io/v1"), (.string "kind", .string "Hub"),
    (.string "ports", .sequence [.mapping [(.string "name", .string "a")],
      .mapping [(.string "name", .string "b"), (.string "size", .number (.int 1))]])]

/-- The comments above its keys. -/
def hubComments : SourceMap :=
  ⟨[([.key "kind"], ⟨2, ["# A hub.", "# +shared"]⟩),
    ([.key "ports"], ⟨3, ["# Its ports."]⟩),
    ([.key "ports", .index 1, .key "name"],
      ⟨5, ["# The name.", "# +MinLength=1", "# +miaka:type:"]⟩),
    ([.key "ports", .index 1, .key "size"], ⟨6, ["# +miaka:type:int", "# +helm:type:int"]⟩)]⟩

/-- The lines of the schema of the hub, each where lines of its kind stand. -/
theorem comment_lines_by_kind_hub :
    ∃ schema, Schema.ofValue ⟨{}, hubComments⟩ hub = .ok schema ∧
      schema.structs.map (fun s => (s.documentation, s.fields.map fun f =>
        (f.documentation, f.markers))) =
        [(["A hub."], [(["Its ports."], [])]),
          (["Its ports."], [(["The name."], ["+MinLength=1", "+miaka:type:"]),
            ([], ["+helm:type:int"])])] ∧
      ∀ s ∈ schema.structs,
        (∀ line ∈ s.documentation, Comment.IsOfKind "miaka" line .documentation) ∧
        ∀ f ∈ s.fields,
          (∀ line ∈ f.documentation, Comment.IsOfKind "miaka" line .documentation) ∧
          ∀ line ∈ f.markers, Comment.IsOfKind "miaka" line .marker := by
  have hlines : (Schema.ofValue ⟨{}, hubComments⟩ hub).toOption.map (fun schema =>
      schema.structs.map fun s => (s.documentation, s.fields.map fun f =>
        (f.documentation, f.markers))) =
      some [(["A hub."], [(["Its ports."], [])]),
        (["Its ports."], [(["The name."], ["+MinLength=1", "+miaka:type:"]),
          ([], ["+helm:type:int"])])] := by decide +kernel
  obtain ⟨schema, hschema, hstructs⟩ := Option.map_eq_some_iff.mp hlines
  have hbuilt := Outcome.toOption_eq_some.mp hschema
  exact ⟨schema, hbuilt, hstructs, comment_lines_by_kind.2 _ _ schema hbuilt⟩

end ChartSchema
