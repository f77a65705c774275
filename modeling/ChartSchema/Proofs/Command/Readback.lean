import ChartSchema.Proofs.Command.Declaration
import ChartSchema.Proofs.Schema.RecordedLines
import ChartSchema.Schema.Infer
/-!
# What is declared is read back

A header is written without quotes, so its values have to survive being read as plain scalars. A group
and a version do: with the slash between them they are a text, and the slash is the only one. A kind
starts with a capital, so it is no number, but three words for null and the truth values have a capital
first and two spellings each (`mistakenKinds`). Those are accepted as kinds and read as something else,
and then the document has no kind.

This is the only exception. The schema of a header that was put into an empty chart has the group, the
version and the kind that it was made of and no fields, or there is no schema for lack of a kind
(`ofText_header`); so a run on a chart without a values document leaves one of which this is true
(`run_leaves_header`).
-/

namespace ChartSchema.Init

open Yaml (Value Scalar Opening)
open Arguments (InitRequest)

/-- The kinds that are read as null or as a truth value. -/
def mistakenKinds : List String := ["Null", "NULL", "True", "TRUE", "False", "FALSE"]

/-- The schema of a document that declares a resource and nothing else. -/
def emptySchema (group version kind : String) : Schema where
  apiVersion := ⟨group, version⟩
  kind := kind
  structs := [{ name := kind, documentation := [], fields := [] }]

variable {group version kind : String}

/-! ## The values of a header -/

/-- A kind that is not mistaken is read as a text, and one that is mistaken is not. -/
theorem kindScalar_eq (h : isKind kind = true) :
    (kind ∉ mistakenKinds → kindScalar kind = .string kind) ∧
      (kind ∈ mistakenKinds → ∀ text, kindScalar kind ≠ .string text) := by
  obtain ⟨c, rest, hcons, hupper, -⟩ := exists_cons_of_isKind h
  have hother (word : String) (hword : word.toList.head?.any Char.isUpper = false) :
      kind ≠ word := by
    rintro rfl
    rw [hcons, List.head?_cons, Option.any_some, hupper] at hword
    exact Bool.false_ne_true hword.symm
  refine ⟨fun hnot => ?_, fun hmem => ?_⟩
  · simp only [mistakenKinds, List.mem_cons, List.not_mem_nil, or_false, not_or] at hnot
    have hnull : Scalar.isNull kind = false := by
      simp [Scalar.isNull, hnot, hother "null" rfl, hother "~" rfl]
    have hbool : Scalar.bool? kind = none := by
      simp [Scalar.bool?, hnot, hother "true" rfl, hother "false" rfl]
    rw [kindScalar, hnull, hbool]
    rfl
  · simp only [mistakenKinds, List.mem_cons, List.not_mem_nil, or_false] at hmem
    rcases hmem with rfl | rfl | rfl | rfl | rfl | rfl <;>
      simp [kindScalar, Scalar.isNull, Scalar.bool?]

theorem not_slash_of_lower {c : Char} (h : c.isLower = true ∨ c.isDigit = true) : c ≠ '/' := by
  rintro rfl
  exact absurd h (by decide)

theorem ne_slash_of_isGroup (h : isGroup group = true) : ∀ c ∈ group.toList, (c == '/') = false := by
  intro c hc
  simp only [isGroup, Bool.and_eq_true, List.all_eq_true, Bool.or_eq_true, beq_iff_eq] at h
  refine beq_eq_false_iff_ne.mpr ?_
  rcases h.2 c hc with (hletter | rfl) | rfl
  · exact not_slash_of_lower hletter
  · decide
  · decide

theorem ne_slash_of_isVersion (h : isVersion version = true) :
    ∀ c ∈ version.toList, (c == '/') = false := by
  unfold isVersion at h
  split at h
  · next digit rest heq =>
    simp only [Bool.and_eq_true, List.all_eq_true, Bool.or_eq_true] at h
    rw [heq]
    refine List.forall_mem_cons.mpr ⟨rfl, List.forall_mem_cons.mpr ⟨?_, fun c hc => ?_⟩⟩
    · exact beq_eq_false_iff_ne.mpr (not_slash_of_lower (.inr h.1))
    · exact beq_eq_false_iff_ne.mpr (not_slash_of_lower (h.2 c hc))
  · exact nomatch h

/-- **A group and a version are read back.** Neither of them has a slash, so the text is cut where
they were put together. -/
theorem parse?_groupVersion (hgroup : isGroup group = true) (hversion : isVersion version = true) :
    GroupVersion.parse? (group ++ "/" ++ version) = some ⟨group, version⟩ := by
  have htext : (group ++ "/" ++ version).toList = group.toList ++ '/' :: version.toList := by simp
  have hpoint : '.' ∈ group.toList := by
    simp only [isGroup, Bool.and_eq_true] at hgroup
    exact List.contains_iff_mem.mp hgroup.1.1.1
  have hmem : '.' ∈ (group ++ "/" ++ version).toList := htext ▸ List.mem_append_left _ hpoint
  have hempty : group ++ "/" ++ version ≠ "" := fun heq => by
    rw [heq] at hmem
    exact absurd hmem (by decide)
  have hslash : group ++ "/" ++ version ≠ "/" := fun heq => by
    rw [heq] at hmem
    exact absurd hmem (by decide)
  rw [GroupVersion.parse?, if_neg (not_or.mpr ⟨hempty, hslash⟩), htext,
    Text.splitOn_append_cons _ (ne_slash_of_isGroup hgroup) rfl,
    Text.splitOn_of_forall _ (ne_slash_of_isVersion hversion)]
  dsimp only
  rw [String.ofList_toList, String.ofList_toList]

theorem trimmed_kind (h : isKind kind = true) :
    Text.allBlank kind = false ∧ Text.trimmed kind = kind := by
  obtain ⟨c, rest, hcons, -, hletters⟩ := exists_cons_of_isKind h
  have hblank : ∀ x ∈ kind.toList, Text.isBlank x = false := fun x hx =>
    (LineScan.isKeyChar_ne (isKeyChar_of_isAlphanum (hletters x hx))).1
  have hstart : Text.trimStart kind.toList = kind.toList := by
    rw [Text.trimStart, hcons, List.dropWhile_cons, hblank c (hcons ▸ List.mem_cons_self)]
    rfl
  refine ⟨?_, ?_⟩
  · rw [Text.allBlank, hcons, List.all_cons, hblank c (hcons ▸ List.mem_cons_self), Bool.false_and]
  · rw [Text.trimmed, Text.trim, hstart, Text.trimEnd_of_all_not_isBlank hblank,
      String.ofList_toList]

/-! ## The text of a header -/

/-- An empty document has no entries, and entries may stand in front of it. -/
theorem opening_empty : Opening "".toList ∧ Value.RootEntries "" [] :=
  ⟨.empty (.lastBlank 0), .inr ⟨rfl, rfl⟩⟩

/-- The entries that a header makes. -/
def headerEntries (group version kind : String) : List (Value × Value) :=
  [(.string "apiVersion", .string (group ++ "/" ++ version)),
    (.string "kind", .ofScalar (kindScalar kind))]

theorem parse?_header (hgroup : isGroup group = true) (hversion : isVersion version = true)
    (hkind : isKind kind = true) :
    Value.parse? (prepend (apiVersionLine group version ++ kindLine kind) "") =
      some (.mapping (headerEntries group version kind)) := by
  obtain ⟨first, hfirst⟩ := declares_apiVersionLine hgroup hversion
  obtain ⟨second, hsecond⟩ := declares_kindLine hkind
  exact (hfirst.append hsecond).parse?_prepend (List.cons_ne_nil _ _) (by decide) opening_empty.1
    opening_empty.2 fun _ _ => rfl

theorem not_commentSign_header (hgroup : isGroup group = true) (hversion : isVersion version = true)
    (hkind : isKind kind = true) :
    '#' ∉ (prepend (apiVersionLine group version ++ kindLine kind) "").toList := by
  obtain ⟨c, rest, -, -, hletters⟩ := exists_cons_of_isKind hkind
  have hgroup' : '#' ∉ group.toList := fun h => absurd (isKeyChar_of_isGroup hgroup _ h) (by decide)
  have hversion' : '#' ∉ version.toList := fun h =>
    absurd (isKeyChar_of_isVersion hversion _ h) (by decide)
  have hkind' : '#' ∉ kind.toList := fun h => absurd (hletters _ h) (by decide)
  have hprepend : prepend (apiVersionLine group version ++ kindLine kind) "" =
      apiVersionLine group version ++ kindLine kind := rfl
  rw [hprepend]
  simp only [apiVersionLine_eq, kindLine, String.toList_append, List.mem_append, hgroup', hversion',
    hkind', or_false]
  decide

theorem apiVersionOf_headerEntries (hgroup : isGroup group = true)
    (hversion : isVersion version = true) :
    Schema.apiVersionOf (headerEntries group version kind) = .ok ⟨group, version⟩ := by
  have hvalue : (valueOfKey? "apiVersion" (headerEntries group version kind)).map Value.untagged =
      some (.string (group ++ "/" ++ version)) := rfl
  unfold Schema.apiVersionOf
  rw [hvalue]
  dsimp only
  rw [parse?_groupVersion hgroup hversion]

theorem kindOf_headerEntries (hkind : isKind kind = true) :
    Schema.kindOf (headerEntries group version kind) =
      if kind ∈ mistakenKinds then .error .missingKind else .ok kind := by
  have hvalue : (valueOfKey? "kind" (headerEntries group version kind)).map Value.untagged =
      some (.ofScalar (kindScalar kind)) := by
    show some (Value.ofScalar (kindScalar kind)).untagged = _
    cases kindScalar kind <;> rfl
  obtain ⟨hread, hmistaken⟩ := kindScalar_eq hkind
  obtain ⟨hblank, htrimmed⟩ := trimmed_kind hkind
  unfold Schema.kindOf
  rw [hvalue]
  split_ifs with hmem
  · have hnot := hmistaken hmem
    cases hscalar : kindScalar kind with
    | string text => exact absurd hscalar (hnot text)
    | null => rfl
    | bool value => rfl
    | number value => rfl
  · rw [hread hmem]
    show (if Text.allBlank kind then Except.error SchemaError.missingKind
      else .ok (Text.trimmed kind)) = _
    rw [hblank, htrimmed]
    rfl

/-- Both keys are reserved, so there are no fields. -/
theorem resolveRoot_headerEntries (ctx : DocumentContext) (place : Place) (registry : NameRegistry) :
    (Walk.resolveRoot ctx place (headerEntries group version kind)).run registry =
      .ok (([], []), registry) := rfl

/-- **A header is read back.** A chart that declares nothing but a group, a version and a kind, all of
them accepted, has the schema with exactly these and no fields; only where the kind is a word for null
or a truth value, it has none. -/
theorem ofText_header (options : BuildOptions) (hgroup : isGroup group = true)
    (hversion : isVersion version = true) (hkind : isKind kind = true) :
    Schema.ofText options (prepend (apiVersionLine group version ++ kindLine kind) "") =
      if kind ∈ mistakenKinds then .error .missingKind else .ok (emptySchema group version kind) := by
  have hcomments := SourceMap.comments_eq_nil (not_commentSign_header hgroup hversion hkind)
  rw [Schema.ofText, parse?_header hgroup hversion hkind]
  dsimp only
  generalize SourceMap.scan _ = sources at hcomments
  have hroot : (Value.mapping (headerEntries group version kind)).untagged =
      .mapping (headerEntries group version kind) := rfl
  rw [Schema.ofValue, hroot]
  dsimp only
  rw [apiVersionOf_headerEntries hgroup hversion, kindOf_headerEntries hkind]
  split_ifs with hmem
  · rfl
  · refine Outcome.bind_eq_ok.mpr ⟨_, rfl, Outcome.bind_eq_ok.mpr ⟨kind, rfl, ?_⟩⟩
    refine Outcome.bind_eq_ok.mpr ⟨_, resolveRoot_headerEntries _ _ _, ?_⟩
    rw [DocumentContext.comments, hcomments]
    rfl

/-- **What a run leaves in a chart without a values document**: a header, for a group, a version and a
kind that are accepted, which is read back unless the kind is mistaken. -/
theorem run_leaves_header {request : InitRequest} {session later : Session}
    (h : (run request).on session = (.ok (), later))
    (hfound : found session.disk request.chart = .ok "") :
    ∃ group version kind text, isGroup group = true ∧ isVersion version = true ∧
      isKind kind = true ∧ found later.disk request.chart = .ok text ∧
      ∀ options, Schema.ofText options text =
        if kind ∈ mistakenKinds then .error .missingKind
        else .ok (emptySchema group version kind) := by
  have hempty : declared "" = .ok (false, false) := rfl
  have hran := ran_run request session
  rw [h] at hran
  cases hran with
  | complete hfound' hdeclared =>
    obtain rfl := Except.ok.inj (hfound.symm.trans hfound')
    exact nomatch hempty.symm.trans hdeclared
  | @wrote _ lines folder? hasVersion hasKind _ _ _ _ hfound' hdeclared _ hlines _ _ hfind =>
    obtain rfl := Except.ok.inj (hfound.symm.trans hfound')
    obtain ⟨rfl, rfl⟩ := Prod.mk.inj (Except.ok.inj (hempty.symm.trans hdeclared))
    rw [header_eq] at hlines
    obtain ⟨first, hfirst, hlines⟩ := Outcome.bind_eq_ok.mp hlines
    obtain ⟨second, hsecond, hlines⟩ := Outcome.bind_eq_ok.mp hlines
    obtain rfl := Outcome.pure_eq_ok.mp hlines
    obtain ⟨group, version, hgroup, hversion, rfl⟩ := apiVersionHeader_eq_ok hfirst
    obtain ⟨kind, hkind, rfl⟩ := kindHeader_eq_ok hsecond
    exact ⟨group, version, kind, _, hgroup, hversion, hkind, found_of_find hfind,
      fun options => ofText_header options hgroup hversion hkind⟩

/-- One of the mistaken kinds. -/
example : isKind "True" = true ∧ ∀ options,
    Schema.ofText options "apiVersion: a.io/v1\nkind: True\n" = .error .missingKind :=
  ⟨by decide, fun options => @ofText_header "a.io" "v1" "True" options (by decide) (by decide)
    (by decide)⟩

end ChartSchema.Init
