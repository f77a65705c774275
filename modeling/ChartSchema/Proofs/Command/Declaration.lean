import ChartSchema.Command.Init
import ChartSchema.Proofs.Command.Run
import ChartSchema.Proofs.Schema.ScanBelow
import ChartSchema.Proofs.Yaml.EntriesValue
/-!
# Declaring keeps the document

The declarations that a values document lacks are lines of text, and they are put in front of its
text. For this to be the same as to put entries in front of its entries, the text has to start as a
block mapping in column 0 (`Yaml.Opening`): a document marker, a directive, a flow mapping or an
indented mapping at the top would make two documents of it, or none. This is the one condition that
`declared` does not look at, and the only one that is missing.

Under it `Keeps.of_prepend` says all that declaring should do: the entries of the document are what
they were, behind those that were added; every comment stays with its key; and nothing is missing any
more. So a second run finds nothing to do (`run_keeps`).
-/

namespace ChartSchema.Init

open Yaml (Value Scalar WordEntry Opening Below)
open BlockStyle (isKeyChar)
open Arguments (InitRequest)

/-! ## The lines of a header -/

/-- **Lines that declare keys**: entries with a plain word as the value of each, in front of what they
mean. -/
structure Declares (names : List String) (lines : String) (entries : List WordEntry)
    (front : List (Value × Value)) : Prop where
  /-- The lines are those of the entries. -/
  text : lines.toList = entries.flatMap (·.line)
  /-- The entries have these keys in the text. -/
  paths : entries.map (·.path) = names.map fun name => [.key name]
  /-- The entries have a meaning. -/
  meaning : entries.mapM (·.meaning?) = some front
  /-- They have these keys in the meaning. -/
  keys : front.map (·.1) = names.map .string

namespace Declares

variable {names names' : List String} {lines lines' : String} {entries entries' : List WordEntry}
  {front front' : List (Value × Value)}

theorem nil : Declares [] "" [] [] := ⟨rfl, rfl, rfl, rfl⟩

theorem append (h : Declares names lines entries front)
    (h' : Declares names' lines' entries' front') :
    Declares (names ++ names') (lines ++ lines') (entries ++ entries') (front ++ front') where
  text := by rw [String.toList_append, h.text, h'.text, List.flatMap_append]
  paths := by rw [List.map_append, List.map_append, h.paths, h'.paths]
  meaning := by
    rw [List.mapM_append, h.meaning, h'.meaning]
    rfl
  keys := by rw [List.map_append, List.map_append, h.keys, h'.keys]

theorem line (key : BlockStyle.Key) {name word : String} {scalar : Scalar} (hname : key.name = name)
    (hshort : key.text.length ≤ 1024) (hkey : Scalar.ofPlain? name = some (.string name))
    (hword : Yaml.isWord word.toList = true) (hvalue : Scalar.ofPlain? word = some scalar) :
    Declares [name] (name ++ ": " ++ word ++ "\n") [⟨key, word.toList, hshort, hword⟩]
      [(.string name, .ofScalar scalar)] where
  text := by
    have htext : name.toList = key.text := by rw [← hname, BlockStyle.Key.name, String.toList_ofList]
    simp [WordEntry.line, htext]
  paths := by rw [← hname]; rfl
  meaning := by
    have hmeaning : (⟨key, word.toList, hshort, hword⟩ : WordEntry).meaning? =
        some (.string name, .ofScalar scalar) := by
      unfold BlockStyle.Key.name at hname
      rw [WordEntry.meaning?, hname, hkey, String.ofList_toList, hvalue]
      rfl
    rw [List.mapM_cons, hmeaning]
    rfl
  keys := rfl

end Declares

theorem require_eq_ok {holds : Bool} {message help : String} {result : Unit}
    (h : require holds message help = .ok result) : holds = true := by
  unfold require at h
  split at h
  · next hholds => exact hholds
  · exact nomatch h

theorem isKeyChar_of_isAlphanum {c : Char} (h : c.isAlphanum = true) : isKeyChar c = true := by
  rw [isKeyChar, h, Bool.true_or]

theorem isKeyChar_of_lower {c : Char} (h : c.isLower = true ∨ c.isDigit = true) :
    isKeyChar c = true := by
  refine isKeyChar_of_isAlphanum ?_
  show (c.isUpper || c.isLower || c.isDigit) = true
  rcases h with h | h <;> simp [h]

theorem isKeyChar_of_isGroup {group : String} (h : isGroup group = true) :
    ∀ c ∈ group.toList, isKeyChar c = true := by
  intro c hc
  simp only [isGroup, Bool.and_eq_true, List.all_eq_true, Bool.or_eq_true, beq_iff_eq] at h
  rcases h.2 c hc with ((hlower | hdigit) | rfl) | rfl
  · exact isKeyChar_of_lower (.inl hlower)
  · exact isKeyChar_of_lower (.inr hdigit)
  · rfl
  · rfl

theorem isKeyChar_of_isVersion {version : String} (h : isVersion version = true) :
    ∀ c ∈ version.toList, isKeyChar c = true := by
  unfold isVersion at h
  split at h
  · next digit rest heq =>
    simp only [Bool.and_eq_true, List.all_eq_true, Bool.or_eq_true] at h
    rw [heq]
    refine List.forall_mem_cons.mpr ⟨rfl, List.forall_mem_cons.mpr ⟨?_, fun c hc => ?_⟩⟩
    · exact isKeyChar_of_lower (.inr h.1)
    · exact isKeyChar_of_lower (h.2 c hc)
  · exact nomatch h

theorem apiVersionLine_eq (group version : String) :
    apiVersionLine group version = "apiVersion" ++ ": " ++ (group ++ "/" ++ version) ++ "\n" := by
  have hline : apiVersionLine group version =
      "apiVersion: " ++ group ++ "/" ++ version ++ "\n" := rfl
  have hkey : "apiVersion: " = "apiVersion" ++ ": " := by decide
  rw [hline, hkey]
  simp only [String.append_assoc]

/-- The line of an API version: its value is a text, since it has a slash. -/
theorem declares_apiVersionLine {group version : String} (hgroup : isGroup group = true)
    (hversion : isVersion version = true) :
    ∃ entries, Declares ["apiVersion"] (apiVersionLine group version) entries
      [(.string "apiVersion", .string (group ++ "/" ++ version))] := by
  have hletters : ∀ c ∈ (group ++ "/" ++ version).toList, isKeyChar c = true := by
    intro c hc
    simp only [String.toList_append, List.mem_append] at hc
    rcases hc with (hc | hc) | hc
    · exact isKeyChar_of_isGroup hgroup c hc
    · rw [List.mem_singleton.mp hc]
      rfl
    · exact isKeyChar_of_isVersion hversion c hc
  have hslash : '/' ∈ (group ++ "/" ++ version).toList := by simp
  have hword : Yaml.isWord (group ++ "/" ++ version).toList = true := by
    refine Yaml.isWord_iff.mpr ⟨List.ne_nil_of_mem hslash, fun hdash => ?_, hletters⟩
    rw [hdash] at hslash
    exact absurd hslash (by decide)
  have hline := Declares.line ⟨"apiVersion".toList, by decide⟩ rfl (by decide) rfl hword
    (Scalar.ofPlain?_of_mem hslash)
  exact ⟨_, apiVersionLine_eq group version ▸ hline⟩

/-- A kind starts with a capital, and it is a word. -/
theorem exists_cons_of_isKind {kind : String} (h : isKind kind = true) :
    ∃ c rest, kind.toList = c :: rest ∧ c.isUpper = true ∧
      ∀ x ∈ kind.toList, x.isAlphanum = true := by
  unfold isKind at h
  split at h
  · exact nomatch h
  · next c rest hcons =>
    rw [Bool.and_eq_true, List.all_eq_true] at h
    exact ⟨c, rest, hcons, h.1, hcons ▸ h.2⟩

/-- What a kind means where it stands without quotes: null or a truth value, or a text. -/
def kindScalar (kind : String) : Scalar :=
  if Scalar.isNull kind then .null else (Scalar.bool? kind).elim (.string kind) .bool

/-- The line of a kind: its value may be another word, but it is no number that is refused. -/
theorem declares_kindLine {kind : String} (h : isKind kind = true) :
    ∃ entries, Declares ["kind"] (kindLine kind) entries
      [(.string "kind", .ofScalar (kindScalar kind))] := by
  obtain ⟨c, rest, hcons, hupper, hletters⟩ := exists_cons_of_isKind h
  have hword : Yaml.isWord kind.toList = true := by
    refine Yaml.isWord_iff.mpr ⟨hcons ▸ List.cons_ne_nil c rest, fun hdash => ?_, fun x hx => ?_⟩
    · rw [hcons] at hdash
      obtain ⟨rfl, -⟩ := List.cons.inj hdash
      exact absurd hupper (by decide)
    · exact isKeyChar_of_isAlphanum (hletters x hx)
  have hline := Declares.line ⟨"kind".toList, by decide⟩ rfl (by decide) rfl hword
    (Scalar.ofPlain?_of_isUpper hcons hupper)
  exact ⟨_, hline⟩

/-- What declares an API version is its line, for a group and a version. -/
theorem apiVersionHeader_eq_ok {request : InitRequest} {lines : String}
    (h : apiVersionHeader request = .ok lines) :
    ∃ group version, isGroup group = true ∧ isVersion version = true ∧
      lines = apiVersionLine group version := by
  unfold apiVersionHeader at h
  obtain ⟨group, -, h⟩ := Outcome.bind_eq_ok.mp h
  obtain ⟨⟨⟩, hgroup, h⟩ := Outcome.bind_eq_ok.mp h
  obtain ⟨version, -, h⟩ := Outcome.bind_eq_ok.mp h
  obtain ⟨⟨⟩, hversion, h⟩ := Outcome.bind_eq_ok.mp h
  exact ⟨group, version, require_eq_ok hgroup, require_eq_ok hversion,
    (Outcome.pure_eq_ok.mp h).symm⟩

theorem kindHeader_eq_ok {request : InitRequest} {folder? : Option String} {lines : String}
    (h : kindHeader request folder? = .ok lines) :
    ∃ kind, isKind kind = true ∧ lines = kindLine kind := by
  unfold kindHeader at h
  obtain ⟨kind, -, h⟩ := Outcome.bind_eq_ok.mp h
  obtain ⟨⟨⟩, hkind, h⟩ := Outcome.bind_eq_ok.mp h
  exact ⟨kind, require_eq_ok hkind, (Outcome.pure_eq_ok.mp h).symm⟩

/-- The keys that a header adds. -/
def missing (hasVersion hasKind : Bool) : List String :=
  (if hasVersion then [] else ["apiVersion"]) ++ if hasKind then [] else ["kind"]

/-- A header has two parts, each of which may be empty. -/
theorem header_eq (request : InitRequest) (folder? : Option String) (hasVersion hasKind : Bool) :
    header request folder? hasVersion hasKind =
      (if hasVersion then .ok "" else apiVersionHeader request) >>= fun first =>
        (if hasKind then .ok "" else kindHeader request folder?) >>= fun second =>
          pure (first ++ second) := by
  cases hasVersion <;> cases hasKind <;> rfl

/-- **A header declares the keys that are missing**, each on a line of its own, and nothing else.
What it says of them was checked before, so that it is read back as it is written. -/
theorem declares_header {request : InitRequest} {folder? : Option String} {hasVersion hasKind : Bool}
    {lines : String} (h : header request folder? hasVersion hasKind = .ok lines) :
    ∃ entries front, Declares (missing hasVersion hasKind) lines entries front := by
  rw [header_eq] at h
  obtain ⟨first, hfirst, h⟩ := Outcome.bind_eq_ok.mp h
  obtain ⟨second, hsecond, h⟩ := Outcome.bind_eq_ok.mp h
  obtain rfl := Outcome.pure_eq_ok.mp h
  have hversion : ∃ entries front,
      Declares (if hasVersion then [] else ["apiVersion"]) first entries front := by
    cases hasVersion with
    | true => exact Except.ok.inj hfirst ▸ ⟨_, _, .nil⟩
    | false =>
      obtain ⟨group, version, hgroup, hversion, rfl⟩ := apiVersionHeader_eq_ok hfirst
      obtain ⟨entries, hline⟩ := declares_apiVersionLine hgroup hversion
      exact ⟨entries, _, hline⟩
  have hkind : ∃ entries front,
      Declares (if hasKind then [] else ["kind"]) second entries front := by
    cases hasKind with
    | true => exact Except.ok.inj hsecond ▸ ⟨_, _, .nil⟩
    | false =>
      obtain ⟨kind, hkind, rfl⟩ := kindHeader_eq_ok hsecond
      obtain ⟨entries, hline⟩ := declares_kindLine hkind
      exact ⟨entries, _, hline⟩
  obtain ⟨entries, front, hversion⟩ := hversion
  obtain ⟨entries', front', hkind⟩ := hkind
  exact ⟨_, _, hversion.append hkind⟩

/-! ## What a document declares -/

/-- Whether a key is this text. -/
def isText (name : String) : Value → Bool
  | .string s => s == name
  | _ => false

/-- Whether one of some entries has this text as its key. -/
def hasKey (name : String) (entries : List (Value × Value)) : Bool :=
  entries.any fun entry => isText name entry.1

variable {text : String} {names : List String} {front old : List (Value × Value)}

theorem declared_eq_ok {hasVersion hasKind : Bool}
    (h : declared text = .ok (hasVersion, hasKind)) :
    ∃ entries, Value.RootEntries text entries ∧
      hasKey "apiVersion" entries = hasVersion ∧ hasKey "kind" entries = hasKind := by
  unfold declared at h
  split at h
  · exact nomatch h
  · next hparse =>
    obtain ⟨rfl, rfl⟩ := Prod.mk.inj (Except.ok.inj h)
    exact ⟨[], .inr ⟨hparse, rfl⟩, rfl, rfl⟩
  · next entries hparse =>
    obtain ⟨rfl, rfl⟩ := Prod.mk.inj (Except.ok.inj h)
    exact ⟨entries, .inl hparse, rfl, rfl⟩
  · exact nomatch h

theorem declared_mapping {entries : List (Value × Value)}
    (h : Value.parse? text = some (.mapping entries)) :
    declared text = .ok (hasKey "apiVersion" entries, hasKey "kind" entries) := by
  unfold declared
  rw [h]
  rfl

/-- A text as a key is only like itself. -/
theorem isText_of_same {name : String} {v : Value} (h : (Value.string name).same v = true) :
    isText name v = true := by
  cases v with
  | string s =>
    have heq : (name == s) = true := h
    exact beq_iff_eq.mpr (beq_iff_eq.mp heq).symm
  | _ => exact nomatch h

/-- Entries with these texts as keys have one of them as a key if it is among the texts. -/
theorem hasKey_of_keys (h : front.map (·.1) = names.map .string) (name : String) :
    hasKey name front = names.contains name := by
  have hany : hasKey name front = (front.map (·.1)).any (isText name) := by
    rw [List.any_map]
    rfl
  rw [hany, h, List.any_map, List.contains_eq_any_beq]
  congr 1
  funext other
  exact Bool.beq_comm

/-- **Keys that were missing are no others' keys.** So entries with these keys may stand in front of
those of a document without giving one key twice. -/
theorem distinctKeys_front (hkeys : front.map (·.1) = names.map .string) (hnames : names.Nodup)
    (hold : Value.distinctKeys old = true) (hmissing : ∀ name ∈ names, hasKey name old = false) :
    Value.distinctKeys (front ++ old) = true := by
  induction names generalizing front with
  | nil =>
    rw [List.map_eq_nil_iff.mp hkeys]
    exact hold
  | cons name names ih =>
    obtain ⟨⟨key, value⟩, rest, rfl, hkey, hrest⟩ := List.map_eq_cons_iff.mp hkeys
    obtain rfl : key = .string name := hkey
    obtain ⟨hname, hnames⟩ := List.nodup_cons.mp hnames
    rw [List.forall_mem_cons] at hmissing
    rw [List.cons_append, Value.distinctKeys, ih hrest hnames hmissing.2, Bool.and_true,
      List.all_eq_true]
    have hnone : hasKey name (rest ++ old) = false := by
      rw [hasKey, List.any_append, Bool.or_eq_false_iff]
      refine ⟨(hasKey_of_keys hrest name).trans ?_, hmissing.1⟩
      simpa using hname
    intro entry hentry
    refine Bool.not_eq_true' _ |>.mpr (Bool.eq_false_iff.mpr fun hsame => ?_)
    exact List.any_eq_false.mp hnone entry hentry (isText_of_same hsame)

/-! ## The text with its header -/

/-- **What stands below a header**: an empty line and the text, or nothing where the text is blank. -/
theorem toList_prepend {existing : String} (h : Opening existing.toList) (lines : String) :
    ∃ below, (prepend lines existing).toList = lines.toList ++ below ∧
      Below existing.toList below := by
  unfold prepend
  split
  · next hblank =>
    refine ⟨[], (List.append_nil _).symm, .nothing ?_⟩
    cases h with
    | empty hleads => exact hleads
    | key key _ _ hleads =>
      -- The letter of a key is not blank.
      obtain ⟨c, r, hcons, -⟩ := LineScan.text_cons key
      have hletter := LineScan.isKeyChar_ne (key.isKeyChar_of_mem (hcons ▸ List.mem_cons_self))
      have hmem : c ∈ existing.toList := hleads.suffix.subset (by simp [hcons])
      exact absurd (List.all_eq_true.mp hblank c hmem) (Bool.eq_false_iff.mp hletter.1)
  · exact ⟨'\n' :: existing.toList, by simp, .line⟩

/-- **What a header in front of a document means**: entries in front of those that it has. The keys
of the header are missing from the document, so none of them occurs twice. -/
theorem Declares.parse?_prepend {existing lines : String} {entries : List WordEntry}
    (hheader : Declares names lines entries front) (hne : names ≠ []) (hnames : names.Nodup)
    (h : Opening existing.toList) (hroot : Value.RootEntries existing old)
    (hmissing : ∀ name ∈ names, hasKey name old = false) :
    Value.parse? (prepend lines existing) = some (.mapping (front ++ old)) := by
  obtain ⟨below, htext, hbelow⟩ := toList_prepend h lines
  have hprepend : prepend lines existing = String.ofList (entries.flatMap (·.line) ++ below) := by
    rw [← hheader.text, ← htext, String.ofList_toList]
  obtain ⟨e, rest, rfl⟩ : ∃ e rest, entries = e :: rest := by
    refine List.exists_cons_of_ne_nil ?_
    rintro rfl
    exact hne (List.map_eq_nil_iff.mp hheader.paths.symm)
  obtain ⟨hkeys, hmake⟩ := hroot.parse?_lines h
  rw [hprepend]
  exact hmake hbelow e rest hheader.meaning (distinctKeys_front hheader.keys hnames hkeys hmissing)

/-- **A text keeps a document and declares more keys.** -/
structure Keeps (existing : String) (added : List String) (text : String) : Prop where
  /-- Its root has the entries that the document had, behind those of the keys that were added. -/
  entries : ∃ old front, Value.RootEntries existing old ∧ front.map (·.1) = added.map .string ∧
    Value.parse? text = some (.mapping (front ++ old))
  /-- Every other key stands below the same comments as it did. -/
  comments : ∀ path, path ∉ added.map (fun name => [.key name]) →
    (SourceMap.scan text).comments path = (SourceMap.scan existing).comments path
  /-- Both keys are declared. -/
  declared : Init.declared text = .ok (true, true)

theorem nodup_missing (hasVersion hasKind : Bool) : (missing hasVersion hasKind).Nodup := by
  cases hasVersion <;> cases hasKind <;> decide

theorem contains_missing (hasVersion hasKind : Bool) :
    (missing hasVersion hasKind).contains "apiVersion" = !hasVersion ∧
      (missing hasVersion hasKind).contains "kind" = !hasKind := by
  cases hasVersion <;> cases hasKind <;> decide

/-- What is missing is one of the two keys, and it is not there. -/
theorem of_mem_missing {hasVersion hasKind : Bool} {name : String}
    (h : name ∈ missing hasVersion hasKind) :
    name = "apiVersion" ∧ hasVersion = false ∨ name = "kind" ∧ hasKind = false := by
  revert h
  cases hasVersion <;> cases hasKind <;> simp [missing]

/-- **Declaring keeps the document** where it starts as a block mapping in column 0. What is below
the header is read as before, by the reader of documents and by the scanner that records lines,
whose numbers grow by those of the header. -/
theorem Keeps.of_prepend {request : InitRequest} {folder? : Option String}
    {existing lines : String} {hasVersion hasKind : Bool} (h : Opening existing.toList)
    (hdeclared : Init.declared existing = .ok (hasVersion, hasKind))
    (hincomplete : (hasVersion && hasKind) = false)
    (hlines : header request folder? hasVersion hasKind = .ok lines) :
    Keeps existing (missing hasVersion hasKind) (prepend lines existing) := by
  obtain ⟨old, hroot, hversion, hkind⟩ := declared_eq_ok hdeclared
  obtain ⟨entries, front, hheader⟩ := declares_header hlines
  have hmeaning : Value.parse? (prepend lines existing) = some (.mapping (front ++ old)) := by
    refine hheader.parse?_prepend (fun hnil => ?_) (nodup_missing _ _) h hroot fun name hname => ?_
    · -- A key is missing.
      cases hasVersion <;> cases hasKind <;> simp [missing] at hnil hincomplete
    · rcases of_mem_missing hname with ⟨rfl, rfl⟩ | ⟨rfl, rfl⟩
      · exact hversion
      · exact hkind
  refine ⟨⟨old, front, hroot, hheader.keys, hmeaning⟩, fun path hpath => ?_, ?_⟩
  · obtain ⟨below, htext, hbelow⟩ := toList_prepend h lines
    have hplaces := SourceMap.scan_lines h hbelow entries path (hheader.paths ▸ hpath)
    rw [← hheader.text, ← htext, String.ofList_toList, String.ofList_toList] at hplaces
    unfold SourceMap.comments
    rw [hplaces]
    cases (SourceMap.scan existing).get? path <;> rfl
  · obtain ⟨hnew, hnew'⟩ := contains_missing hasVersion hasKind
    have hboth (name : String) :
        hasKey name (front ++ old) = (hasKey name front || hasKey name old) := List.any_append
    rw [declared_mapping hmeaning, hboth, hboth, hasKey_of_keys hheader.keys,
      hasKey_of_keys hheader.keys, hnew, hnew', hversion, hkind, Bool.not_or_self, Bool.not_or_self]

/-! ## Runs -/

/-- The values text of a chart on a disk, which is empty if there is no values document. -/
def found (disk : Disk) (chart : String) : Except FileFault String :=
  if disk.present (Path.join chart "values.yaml") then disk.read (Path.join chart "values.yaml")
  else .ok ""

variable {request : InitRequest} {session later : Session} {existing : String}

theorem on_existingText (chart : String) (session : Session) :
    (existingText (Path.join chart "values.yaml")).on session =
      ((found session.disk chart).mapError (.file (Path.join chart "values.yaml")), session) := by
  have hpresent : (Command.present (m := StateM Session) (Path.join chart "values.yaml")).on session =
      (.ok (session.disk.present (Path.join chart "values.yaml")), session) := rfl
  unfold existingText found
  rw [Command.on_bind_ok hpresent]
  split <;> rfl

/-- A text that stands where a path leads is found there. -/
theorem found_of_find {disk : Disk} {chart text : String} {place : Disk.Place}
    (h : disk.find (Path.join chart "values.yaml") = .ok (.file place text.toUTF8)) :
    found disk chart = .ok text := by
  have hpresent : disk.present (Path.join chart "values.yaml") = true := by
    rw [Disk.present, h]
  rw [found, if_pos hpresent, Disk.read_of_find h]

/-- **What comes of declaring.** Something fails and no file is changed, or there is nothing to do, or
the values document is written with what it lacks in front. Where this writing breaks off, a beginning
of the new text is all that is left of the values document, but every other file is as before. What was
done is told at the end, and this may fail when all else is done. -/
inductive Ran (request : InitRequest) (session : Session) :
    Except Failure Unit × Session → Prop
  /-- Something fails. -/
  | failed {failure : Failure} {later : Session} : later.disk.files = session.disk.files →
      Ran request session (.error failure, later)
  /-- Nothing is missing. -/
  | complete {existing : String} {later : Session} {told : Except Failure Unit} :
      found session.disk request.chart = .ok existing → declared existing = .ok (true, true) →
      later.disk = session.disk → Command.IsTold told → Ran request session (told, later)
  /-- What is missing is declared. -/
  | wrote {existing lines : String} {folder? : Option String} {hasVersion hasKind : Bool}
      {grown : Disk} {place : Disk.Place} {later : Session} {told : Except Failure Unit} :
      found session.disk request.chart = .ok existing →
      declared existing = .ok (hasVersion, hasKind) → (hasVersion && hasKind) = false →
      header request folder? hasVersion hasKind = .ok lines → session.disk.Grows grown →
      later.disk = grown.put place (prepend lines existing).toUTF8 →
      later.disk.find (Path.join request.chart "values.yaml") =
        .ok (.file place (prepend lines existing).toUTF8) →
      Command.IsTold told → Ran request session (told, later)
  /-- Declaring it breaks off. -/
  | broke {existing lines : String} {failure : Failure} {written : Nat} {grown : Disk}
      {place : Disk.Place} {later : Session} :
      found session.disk request.chart = .ok existing →
      written < (prepend lines existing).utf8ByteSize → session.disk.Grows grown →
      later.disk = grown.put place (Disk.beginning (prepend lines existing) written) →
      later.disk.find (Path.join request.chart "values.yaml") =
        .ok (.file place (Disk.beginning (prepend lines existing) written)) →
      Ran request session (.error failure, later)

/-- A run reads what is declared, and then it declares the rest. -/
def addMissing {m : Type → Type} [Monad m] [Host m] (request : InitRequest) (existing : String)
    (hasVersion hasKind : Bool) : Command m Unit := do
  let path := Path.join request.chart "values.yaml"
  if hasVersion && hasKind then
    Command.print ("✓ " ++ path ++ " already declares apiVersion and kind\n")
  else
    let folder? ← ExceptT.lift (Host.properName? request.chart)
    let lines ← Command.ofResult (header request folder? hasVersion hasKind)
    Command.write path (prepend lines existing)
    Command.print ("✓ Initialized " ++ path ++ "\n  Next: miaka generate " ++ request.chart ++ "\n")

theorem on_run {hasVersion hasKind : Bool} (hfound : found session.disk request.chart = .ok existing)
    (hdeclared : declared existing = .ok (hasVersion, hasKind)) :
    (run request).on session = (addMissing request existing hasVersion hasKind).on session := by
  have htext := on_existingText request.chart session
  rw [hfound] at htext
  unfold run
  rw [Command.on_bind_ok htext, Command.on_bind_ok (Command.on_ofResult hdeclared session)]
  rfl

theorem on_run_complete (hfound : found session.disk request.chart = .ok existing)
    (hdeclared : declared existing = .ok (true, true)) :
    Command.IsTold ((run request).on session).1 ∧
      ((run request).on session).2.disk = session.disk := by
  rw [on_run hfound hdeclared]
  exact Command.Tells.print _ session

/-- Where something is missing, it is written or something fails. -/
theorem ran_addMissing {hasVersion hasKind : Bool}
    (hfound : found session.disk request.chart = .ok existing)
    (hdeclared : declared existing = .ok (hasVersion, hasKind))
    (hincomplete : (hasVersion && hasKind) = false) :
    Ran request session ((addMissing request existing hasVersion hasKind).on session) := by
  unfold addMissing
  rw [hincomplete, if_neg Bool.false_ne_true]
  have hname : Command.on (ExceptT.lift (Host.properName? request.chart)) session =
      (.ok (session.disk.properName? request.chart), session) := rfl
  generalize session.disk.properName? request.chart = folder? at hname
  rw [Command.on_bind_ok hname]
  cases hlines : header request folder? hasVersion hasKind with
  | error failure =>
    rw [Command.on_bind_error (Command.on_ofResult rfl session)]
    exact .failed rfl
  | ok lines =>
    rw [Command.on_bind_ok (Command.on_ofResult rfl session)]
    have hwrote := Command.wrote_write (Path.join request.chart "values.yaml")
      (prepend lines existing) session
    generalize hwrite : (Command.write (Path.join request.chart "values.yaml")
      (prepend lines existing)).on session = ended at hwrote
    cases hwrote with
    | refused hgrows =>
      rw [Command.on_bind_error hwrite]
      exact .failed hgrows.files
    | broken hgrows hless hdisk hfind =>
      rw [Command.on_bind_error hwrite]
      exact .broke hfound hless hgrows hdisk hfind
    | @done _ _ later hgrows hdisk hfind =>
      rw [Command.on_bind_ok hwrite]
      have htell {c : Command (StateM Session) Unit} (h : c.Tells) :
          Ran request session (c.on later) := by
        obtain ⟨htold, hlast⟩ := h later
        exact .wrote hfound hdeclared hincomplete hlines hgrows (hlast.trans hdisk) (hlast ▸ hfind)
          htold
      exact htell (.print _)

/-- **Every run is one of these.** The cases are those of the steps, in their order: the text is
looked for, it is read, the header is made, and the file is written. -/
theorem ran_run (request : InitRequest) (session : Session) :
    Ran request session ((run request).on session) := by
  cases hfound : found session.disk request.chart with
  | error fault =>
    have htext := on_existingText request.chart session
    rw [hfound] at htext
    unfold run
    rw [Command.on_bind_error htext]
    exact .failed rfl
  | ok existing =>
    cases hdeclared : declared existing with
    | error failure =>
      have htext := on_existingText request.chart session
      rw [hfound] at htext
      unfold run
      rw [Command.on_bind_ok htext, Command.on_bind_error (Command.on_ofResult hdeclared session)]
      exact .failed rfl
    | ok keys =>
      obtain ⟨hasVersion, hasKind⟩ := keys
      cases hboth : hasVersion && hasKind with
      | false =>
        rw [on_run hfound hdeclared]
        exact ran_addMissing hfound hdeclared hboth
      | true =>
        obtain ⟨rfl, rfl⟩ := Bool.and_eq_true_iff.mp hboth
        obtain ⟨htold, hdisk⟩ := on_run_complete hfound hdeclared
        exact .complete hfound hdeclared hdisk htold

theorem Keeps.of_complete (h : Init.declared existing = .ok (true, true)) :
    Keeps existing [] existing := by
  obtain ⟨old, hroot, hversion, -⟩ := declared_eq_ok h
  have hparse : Value.parse? existing = some (.mapping old) := by
    refine hroot.resolve_right ?_
    rintro ⟨-, rfl⟩
    exact nomatch hversion
  exact ⟨⟨old, [], hroot, rfl, hparse⟩, fun _ _ => rfl, h⟩

/-- **Declaring keeps the document, and is done once.** A run that succeeds on a document that starts
as a block mapping in column 0 leaves it with its entries and its comments, and with both keys. No
other file changes, and any further run on the chart leaves the disk as it is, and succeeds if it can
tell so. -/
theorem run_keeps (h : (run request).on session = (.ok (), later))
    (hfound : found session.disk request.chart = .ok existing) (hopening : Opening existing.toList) :
    ∃ hasVersion hasKind text, declared existing = .ok (hasVersion, hasKind) ∧
      found later.disk request.chart = .ok text ∧
      Keeps existing (missing hasVersion hasKind) text ∧
      (∀ other, (∀ content, later.disk.find (Path.join request.chart "values.yaml") ≠
          .ok (.file other content)) →
        later.disk.bytes? other = session.disk.bytes? other) ∧
      ∀ again : InitRequest, again.chart = request.chart →
        Command.IsTold ((run again).on later).1 ∧ ((run again).on later).2.disk = later.disk := by
  have hagain {text : String} (htext : found later.disk request.chart = .ok text)
      (hkeeps : declared text = .ok (true, true)) (again : InitRequest)
      (hchart : again.chart = request.chart) :
      Command.IsTold ((run again).on later).1 ∧ ((run again).on later).2.disk = later.disk :=
    on_run_complete (hchart ▸ htext) hkeeps
  have hran := ran_run request session
  rw [h] at hran
  cases hran with
  | complete hfound' hdeclared hdisk =>
    obtain rfl := Except.ok.inj (hfound.symm.trans hfound')
    have hlater := hdisk ▸ hfound
    exact ⟨true, true, existing, hdeclared, hlater, .of_complete hdeclared,
      fun _ _ => by rw [hdisk], hagain hlater hdeclared⟩
  | @wrote _ lines folder? hasVersion hasKind grown place _ _ hfound' hdeclared hincomplete hlines
      hgrows hdisk hfind =>
    obtain rfl := Except.ok.inj (hfound.symm.trans hfound')
    have hkeeps := Keeps.of_prepend hopening hdeclared hincomplete hlines
    have hlater := found_of_find hfind
    refine ⟨hasVersion, hasKind, _, hdeclared, hlater, hkeeps, fun other hother => ?_,
      hagain hlater hkeeps.declared⟩
    have hne : other ≠ place := by
      rintro rfl
      exact hother _ hfind
    rw [hdisk, Disk.bytes?_put_ne _ _ hne, hgrows.bytes?_eq]

/-- Behind a document marker the condition fails, and with it the property: the text is two documents
then. -/
example : (declared "---\na: 1\n").toOption = some (false, false) ∧
    (Value.parse? (prepend "apiVersion: a.io/v1\nkind: Demo\n" "---\na: 1\n")).isNone = true := by
  decide +kernel

end ChartSchema.Init
