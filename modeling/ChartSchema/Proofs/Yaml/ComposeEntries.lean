import ChartSchema.Proofs.Yaml.ComposeMore
import ChartSchema.Proofs.Yaml.ScanEntries
/-!
# Reading entries that are put in front of a document

An entry of words has four tokens, and two nodes are made of them. In front of the entries of a block
mapping it is read first, and then the others are read as they were, with more steps to go and more
parts counted, which changes nothing in what they are (`Compose.KeepsAll`).
-/

namespace ChartSchema.Yaml

/-- The key and the value of an entry. -/
def WordEntry.node (e : WordEntry) : Node × Node :=
  (.scalar none .plain (String.ofList e.key.text), .scalar none .plain (String.ofList e.value))

namespace Compose

/-- Directives and ends of documents are read with more steps. -/
theorem keeps_dropEnds {fuel more : Nat} (hle : fuel ≤ more) :
    Keeps (dropEnds fuel) (dropEnds more) := by
  induction fuel generalizing more with
  | zero => exact .failure
  | succ fuel ih =>
    obtain ⟨more, rfl⟩ : ∃ fewer, more = fewer + 1 := ⟨more - 1, by omega⟩
    exact (keeps_accept _).bind fun _ => .ite (ih (by omega)) (.pure _)

/-- An entry is read, and then those behind it. -/
theorem blockEntries_tokens (e : WordEntry) (fuel : Nat) (s : Composer) (tokens : List Token) :
    blockEntries (fuel + 3) { s with tokens := e.tokens ++ tokens } =
      (blockEntries (fuel + 2) { s with tokens, parts := s.parts + 1 + 1 }).bind
        fun (entries, s) => some (e.node :: entries, s) := by
  rfl

/-- The end of a document. -/
def documentEnd (fuel : Nat) : Compose Unit := do
  dropEnds fuel
  expect .streamEnd

theorem keeps_documentEnd {fuel more : Nat} (hle : fuel ≤ more) :
    Keeps (documentEnd fuel) (documentEnd more) :=
  (keeps_dropEnds hle).bind fun _ => keeps_expect _

/-- A document with a block mapping is its entries and the end. -/
theorem document_blockMapping (fuel : Nat) (tokens : List Token) :
    document (fuel + 2) { tokens := .blockMapping :: tokens } =
      (blockEntries (fuel + 1) { tokens, handles := standardHandles, parts := 2 }).bind
        fun (entries, s) => (documentEnd (fuel + 2) s).bind
          fun (_, s) => some (some (.mapping none entries), s) := by
  have hassoc : (do
        let entries ← blockEntries (fuel + 1)
        documentEnd (fuel + 2)
        return some (.mapping none entries) : Compose (Option Node)) = (do
        let root ← (do
          let entries ← blockEntries (fuel + 1)
          return .mapping none entries)
        dropEnds (fuel + 2)
        expect .streamEnd
        return some root : Compose (Option Node)) := by
    simp only [documentEnd, bind_assoc, pure_bind]
  exact (congrFun hassoc _).symm

/-- **Entries in front of others are read in front of them**, and the others as they were. The
induction is on the entries; each takes three steps and makes two parts. -/
theorem blockEntries_flatMap {fuel : Nat} {s later : Composer} {tokens : List Token}
    {others : List (Node × Node)}
    (h : blockEntries fuel { s with tokens } = some (others, later)) (entries : List WordEntry)
    {more : Nat} (hmore : fuel + 3 * entries.length ≤ more) (parts : Nat) :
    blockEntries more
        { s with tokens := entries.flatMap (·.tokens) ++ tokens, parts := s.parts + parts } =
      some (entries.map (·.node) ++ others, later.more (parts + 2 * entries.length)) := by
  induction entries generalizing more parts with
  | nil => exact (KeepsAll.of_le hmore).blockEntries _ _ _ h parts
  | cons e rest ih =>
    rw [List.length_cons] at hmore
    obtain ⟨more, rfl⟩ : ∃ fewer, more = fewer + 3 := ⟨more - 3, by omega⟩
    rw [List.flatMap_cons, List.append_assoc]
    refine (blockEntries_tokens e more { s with parts := s.parts + parts } _).trans ?_
    have hsteps : fuel + 3 * rest.length ≤ more + 2 := by omega
    have hrest := ih hsteps (parts + 2)
    have hcount : s.parts + parts + 1 + 1 = s.parts + (parts + 2) := by omega
    dsimp only
    rw [hcount, hrest]
    have hlength : parts + 2 + 2 * rest.length = parts + 2 * (e :: rest).length := by
      rw [List.length_cons]
      omega
    rw [Option.bind_some, hlength]
    rfl

end Compose

/-- **Entries in front of a document** whose root is a block mapping are entries of its root, in front
of those that it has. -/
theorem Document.ofTokens?_flatMap {tokens : List Token} {document? : Option Document}
    (h : Document.ofTokens? (.blockMapping :: tokens) = some document?) :
    ∃ others slots parts, document? = some ⟨.mapping none others, slots, parts⟩ ∧
      ∀ entries : List WordEntry,
        Document.ofTokens? (.blockMapping :: (entries.flatMap (·.tokens) ++ tokens)) = some (some
          ⟨.mapping none (entries.map (·.node) ++ others), slots, parts + 2 * entries.length⟩) := by
  -- One line of entries has four tokens, each of which allows four more steps.
  have hlength (entries : List WordEntry) :
      (entries.flatMap (·.tokens)).length = 4 * entries.length := by
    induction entries with
    | nil => rfl
    | cons e rest ih =>
      rw [List.flatMap_cons, List.length_append, ih, List.length_cons, Nat.mul_succ, Nat.add_comm]
      rfl
  have hsteps (entries : List WordEntry) :
      4 * (.blockMapping :: (entries.flatMap (·.tokens) ++ tokens)).length + 4 =
        (16 * entries.length + 4 * tokens.length + 6) + 2 := by
    rw [List.length_cons, List.length_append, hlength]
    omega
  unfold Document.ofTokens? at h ⊢
  have hnone := hsteps []
  rw [List.flatMap_nil, List.nil_append, List.length_nil] at hnone
  rw [hnone, Compose.document_blockMapping] at h
  obtain ⟨⟨root?, last⟩, hread, hdocument⟩ := Option.map_eq_some_iff.mp h
  obtain ⟨⟨others, mid⟩, hentries, hread⟩ := Option.bind_eq_some_iff.mp hread
  obtain ⟨⟨⟨⟩, last'⟩, hend, hread⟩ := Option.bind_eq_some_iff.mp hread
  obtain ⟨rfl, rfl⟩ := Prod.mk.inj (Option.some.inj hread)
  refine ⟨others, last'.slots, last'.parts, hdocument.symm, fun entries => ?_⟩
  have hmore : Compose.blockEntries (16 * entries.length + 4 * tokens.length + 6 + 1)
      { tokens := entries.flatMap (·.tokens) ++ tokens, handles := Compose.standardHandles
        parts := 2 } =
      some (entries.map (·.node) ++ others, mid.more (2 * entries.length)) := by
    have hle : 16 * 0 + 4 * tokens.length + 6 + 1 + 3 * entries.length ≤
        16 * entries.length + 4 * tokens.length + 6 + 1 := by omega
    have hmore := Compose.blockEntries_flatMap
      (s := { tokens, handles := Compose.standardHandles, parts := 2 }) hentries entries hle 0
    rwa [Nat.zero_add] at hmore
  have hle : 16 * 0 + 4 * tokens.length + 6 + 2 ≤
      16 * entries.length + 4 * tokens.length + 6 + 2 := by omega
  have hended := Compose.keeps_documentEnd hle _ _ _ hend (2 * entries.length)
  rw [hsteps, Compose.document_blockMapping, hmore, Option.bind_some]
  dsimp only
  rw [hended]
  rfl

end ChartSchema.Yaml
