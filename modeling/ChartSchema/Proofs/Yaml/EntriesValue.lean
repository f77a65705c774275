import ChartSchema.Proofs.Yaml.ComposeEntries
import ChartSchema.Yaml.Value
/-!
# What entries that are put in front of a document mean

A document means what its nodes mean once its aliases are followed. How many of them may be followed
depends on how many parts the document has, so entries in front of it only allow for more, and where
more are allowed the result is the same (`Node.expand_more`).

The entries themselves are plain words. A word with a slash is a text, since no null, truth value or
number has one (`Scalar.ofPlain?_of_mem`); one that starts with a capital may be null or a truth value,
but it is no number, so it is never refused (`Scalar.ofPlain?_of_isUpper`).
-/

namespace ChartSchema.Yaml

namespace Node

/-! ## More aliases -/

/-- **A way to follow aliases that does not depend on how many more may be followed.** -/
def Follow.Lasts (follow : Follow) : Prop :=
  ∀ {room aliases slot node left}, follow room aliases slot = some (node, left) →
    ∀ more, follow room (aliases + more) slot = some (node, left + more)

variable {follow : Follow} {room aliases left : Nat}

mutual

/-- Where more aliases may be followed, a node is the same, and as many more are left. -/
theorem expand_more (hfollow : follow.Lasts) (node : Node) {room aliases left : Nat} {result : Node}
    (h : expand follow room aliases node = some (result, left)) (more : Nat) :
    expand follow room (aliases + more) node = some (result, left + more) := by
  match node with
  | .alias slot =>
    rw [expand] at h ⊢
    split at h
    · exact nomatch h
    · next hsome =>
      rw [if_neg (by omega), Nat.sub_add_comm (Nat.pos_of_ne_zero hsome)]
      exact hfollow h more
  | .scalar tag? form text =>
    obtain ⟨rfl, rfl⟩ := Prod.mk.inj (Option.some.inj h)
    rfl
  | .sequence tag? items =>
    rw [expand] at h ⊢
    split at h
    · exact nomatch h
    · next hroom =>
      rw [if_neg hroom]
      split at h
      · next hitems =>
        obtain ⟨rfl, rfl⟩ := Prod.mk.inj (Option.some.inj h)
        rw [expandItems_more hfollow items hitems]
      · exact nomatch h
  | .mapping tag? entries =>
    rw [expand] at h ⊢
    split at h
    · exact nomatch h
    · next hroom =>
      rw [if_neg hroom]
      split at h
      · next hentries =>
        obtain ⟨rfl, rfl⟩ := Prod.mk.inj (Option.some.inj h)
        rw [expandEntries_more hfollow entries hentries]
      · exact nomatch h
termination_by structural node

theorem expandItems_more (hfollow : follow.Lasts) (items : List Node) {room aliases left : Nat}
    {result : List Node}
    (h : expandItems follow room aliases items = some (result, left)) (more : Nat) :
    expandItems follow room (aliases + more) items = some (result, left + more) := by
  match items with
  | [] =>
    obtain ⟨rfl, rfl⟩ := Prod.mk.inj (Option.some.inj h)
    rfl
  | item :: rest =>
    rw [expandItems] at h ⊢
    split at h
    · next hitem =>
      split at h
      · next hrest =>
        obtain ⟨rfl, rfl⟩ := Prod.mk.inj (Option.some.inj h)
        rw [expand_more hfollow item hitem]
        dsimp only
        rw [expandItems_more hfollow rest hrest]
      · exact nomatch h
    · exact nomatch h
termination_by structural items

theorem expandEntries_more (hfollow : follow.Lasts) (entries : List (Node × Node))
    {room aliases left : Nat} {result : List (Node × Node)}
    (h : expandEntries follow room aliases entries = some (result, left)) (more : Nat) :
    expandEntries follow room (aliases + more) entries = some (result, left + more) := by
  match entries with
  | [] =>
    obtain ⟨rfl, rfl⟩ := Prod.mk.inj (Option.some.inj h)
    rfl
  | (key, value) :: rest =>
    rw [expandEntries] at h ⊢
    split at h
    · next hkey =>
      split at h
      · next hvalue =>
        split at h
        · next hrest =>
          obtain ⟨rfl, rfl⟩ := Prod.mk.inj (Option.some.inj h)
          rw [expand_more hfollow key hkey]
          dsimp only
          rw [expand_more hfollow value hvalue]
          dsimp only
          rw [expandEntries_more hfollow rest hrest]
        · exact nomatch h
      · exact nomatch h
    · exact nomatch h
termination_by structural entries

end

end Node

/-- The slots of a document are followed so, however deep they nest. -/
theorem Slots.follow_lasts (slots : Slots) (nesting : Nat) : (slots.follow nesting).Lasts := by
  induction nesting with
  | zero => exact fun h => nomatch h
  | succ nesting ih =>
    intro room aliases slot node left h more
    obtain ⟨inner, hinner, h⟩ := Option.bind_eq_some_iff.mp h
    exact Option.bind_eq_some_iff.mpr ⟨inner, hinner, Node.expand_more ih inner h more⟩

/-! ## Entries with their meaning -/

/-- What an entry means: its key and its value are plain scalars. -/
def WordEntry.meaning? (e : WordEntry) : Option (Value × Value) := do
  let key ← Scalar.ofPlain? (String.ofList e.key.text)
  let value ← Scalar.ofPlain? (String.ofList e.value)
  return (.ofScalar key, .ofScalar value)

theorem Node.expandEntries_words {follow : Follow} {room aliases left : Nat}
    {others result : List (Node × Node)}
    (h : expandEntries follow room aliases others = some (result, left)) (entries : List WordEntry) :
    expandEntries follow room aliases (entries.map (·.node) ++ others) =
      some (entries.map (·.node) ++ result, left) := by
  induction entries with
  | nil => exact h
  | cons e rest ih =>
    rw [List.map_cons, List.cons_append, WordEntry.node, expandEntries]
    simp only [expand, ih]
    rfl

namespace Value

theorem ofEntries?_words {others : List (Node × Node)} {values meanings : List (Value × Value)}
    (h : ofEntries? others = some values) {entries : List WordEntry}
    (hentries : entries.mapM (·.meaning?) = some meanings) :
    ofEntries? (entries.map (·.node) ++ others) = some (meanings ++ values) := by
  induction entries generalizing meanings with
  | nil =>
    obtain rfl := Option.some.inj hentries
    exact h
  | cons e rest ih =>
    rw [List.mapM_cons] at hentries
    obtain ⟨meaning, hmeaning, hentries⟩ := Option.bind_eq_some_iff.mp hentries
    obtain ⟨below, hbelow, hentries⟩ := Option.bind_eq_some_iff.mp hentries
    obtain rfl := Option.some.inj hentries
    obtain ⟨key, hkey, hmeaning⟩ := Option.bind_eq_some_iff.mp hmeaning
    obtain ⟨value, hvalue, hmeaning⟩ := Option.bind_eq_some_iff.mp hmeaning
    obtain rfl := Option.some.inj hmeaning
    have hnode (text : String) {scalar : Scalar} (hscalar : Scalar.ofPlain? text = some scalar) :
        ofNode? (.scalar none .plain text) = some (.ofScalar scalar) := by
      show (Scalar.ofPlain? text).map (fun s => under none (.ofScalar s)) = _
      rw [hscalar]
      rfl
    rw [List.map_cons, List.cons_append, WordEntry.node, ofEntries?, hnode _ hkey, hnode _ hvalue,
      ih hbelow]
    rfl

end Value

/-! ## Plain words -/

namespace Scalar

/-- A text with a character that is no digit is no number. -/
theorem natOfDigits?_eq_none {base : Nat} {ds : List Char} {c : Char} (hc : c ∈ ds)
    (hdigit : digit? base c = none) : natOfDigits? base ds = none := by
  have hfold (n : Nat) : ds.foldlM (fun n c => (digit? base c).map (n * base + ·)) n = none := by
    induction ds generalizing n with
    | nil => exact absurd hc List.not_mem_nil
    | cons d ds ih =>
      rw [List.foldlM_cons]
      rcases List.mem_cons.mp hc with rfl | hc
      · rw [hdigit]
        rfl
      · cases digit? base d with
        | none => rfl
        | some value => exact ih hc _
  rw [natOfDigits?]
  split
  · rfl
  · exact hfold 0

theorem digit?_slash (base : Nat) : digit? base '/' = none := rfl

theorem mem_splitSign {s : List Char} (h : '/' ∈ s) : '/' ∈ (splitSign s).2 := by
  unfold splitSign
  split
  · simpa using h
  · simpa using h
  · exact h

theorem int?_of_mem {s : List Char} (h : '/' ∈ s) : int? s = none := by
  have hsign := mem_splitSign h
  unfold int?
  generalize splitSign s = parts at hsign ⊢
  dsimp only
  rw [Option.map_eq_none_iff]
  split
  · next hmagnitude =>
    rw [hmagnitude] at hsign
    rw [natOfDigits?_eq_none (by simpa using hsign) (digit?_slash _)]
    rfl
  · next hmagnitude =>
    rw [hmagnitude] at hsign
    rw [natOfDigits?_eq_none (by simpa using hsign) (digit?_slash _)]
    rfl
  · next hmagnitude =>
    rw [hmagnitude] at hsign
    rw [natOfDigits?_eq_none (by simpa using hsign) (digit?_slash _)]
    rfl
  · split
    · rfl
    · rw [natOfDigits?_eq_none hsign (digit?_slash _)]
      rfl

theorem exponent?_of_mem {s : List Char} (h : '/' ∈ s) : exponent? s = none := by
  have hdigits {r : List Char} (hr : '/' ∈ r) : (splitSign r).2.all Char.isDigit = false :=
    Bool.eq_false_iff.mpr fun hall =>
      absurd (List.all_eq_true.mp hall _ (mem_splitSign hr)) (by decide)
  unfold exponent?
  split
  · exact absurd h List.not_mem_nil
  · dsimp only
    rw [hdigits (by simpa using h)]
    rfl
  · dsimp only
    rw [hdigits (by simpa using h)]
    rfl
  · rfl

theorem mem_dropWhile_isDigit {s : List Char} (h : '/' ∈ s) : '/' ∈ s.dropWhile Char.isDigit := by
  induction s with
  | nil => exact h
  | cons c s ih =>
    rw [List.dropWhile_cons]
    split
    · next hdigit =>
      rcases List.mem_cons.mp h with rfl | h
      · exact absurd hdigit (by decide)
      · exact ih h
    · exact h

theorem decimal?_of_mem {s : List Char} (h : '/' ∈ s) : decimal? s = none := by
  have hbehind := mem_dropWhile_isDigit (mem_splitSign h)
  unfold decimal?
  generalize splitSign s = parts at hbehind ⊢
  dsimp only
  generalize parts.2.dropWhile Char.isDigit = r at hbehind ⊢
  split
  · next r =>
    have hpoint : '/' ∈ r := by simpa using hbehind
    dsimp only
    rw [exponent?_of_mem (mem_dropWhile_isDigit hpoint)]
    split <;> rfl
  · dsimp only
    rw [exponent?_of_mem hbehind]
    split <;> rfl

theorem ne_of_isUpper {c x : Char} (hc : c.isUpper = true) (hx : x.isUpper = false) : c ≠ x := by
  rintro rfl
  exact Bool.false_ne_true (hx.symm.trans hc)

theorem splitSign_of_isUpper {c : Char} (hc : c.isUpper = true) (r : List Char) :
    splitSign (c :: r) = (false, c :: r) := by
  unfold splitSign
  split
  · next heq => exact absurd (List.cons.inj heq).1 (ne_of_isUpper hc rfl)
  · next heq => exact absurd (List.cons.inj heq).1 (ne_of_isUpper hc rfl)
  · rfl

theorem int?_of_isUpper {c : Char} (hc : c.isUpper = true) (r : List Char) :
    int? (c :: r) = none := by
  have hrange : 0x41 ≤ c.toNat ∧ c.toNat ≤ 0x5A := of_decide_eq_true hc
  have hdigit : digit? 10 c = none := by
    have hnot : ¬ ('0' ≤ c ∧ c ≤ '9') := fun h => by
      have hle : c.toNat ≤ 0x39 := h.2
      omega
    have hnot' : ¬ ('a' ≤ c ∧ c ≤ 'f') := fun h => by
      have hle : 0x61 ≤ c.toNat := h.1
      omega
    unfold digit? hexDigit?
    rw [if_neg hnot, if_neg hnot']
    split
    · have hten : ¬ c.toNat - 'A'.toNat + 10 < 10 := by omega
      rw [Option.bind_eq_bind, Option.bind_some, if_neg hten]
    · rfl
  unfold int?
  rw [splitSign_of_isUpper hc]
  dsimp only
  rw [Option.map_eq_none_iff]
  split
  · next heq => exact absurd (List.cons.inj heq).1 (ne_of_isUpper hc rfl)
  · next heq => exact absurd (List.cons.inj heq).1 (ne_of_isUpper hc rfl)
  · next heq => exact absurd (List.cons.inj heq).1 (ne_of_isUpper hc rfl)
  · split
    · rfl
    · rw [natOfDigits?_eq_none List.mem_cons_self hdigit]
      rfl

theorem not_contains_of_mem {s : String} (h : '/' ∈ s.toList) {words : List String}
    (hwords : ∀ w ∈ words, '/' ∉ w.toList) : words.contains s = false :=
  Bool.eq_false_iff.mpr fun hs => hwords s (List.contains_iff_mem.mp hs) h

/-- **A plain text with a slash is a text.** No number, truth value or word for null has a slash. -/
theorem ofPlain?_of_mem {s : String} (h : '/' ∈ s.toList) : ofPlain? s = some (.string s) := by
  have hempty : s.isEmpty = false := by
    refine Bool.eq_false_iff.mpr fun hs => ?_
    rw [String.isEmpty_iff.mp hs] at h
    exact absurd h (by decide)
  have hword : word? s = none := by rw [word?, int?_of_mem h]
  have hfloat : float? s = none := by
    rw [float?, not_contains_of_mem h (by decide), not_contains_of_mem h (by decide),
      not_contains_of_mem h (by decide), decimal?_of_mem h]
    rfl
  rw [ofPlain?, hempty, isNull, bool?, not_contains_of_mem h (by decide),
    not_contains_of_mem h (by decide), not_contains_of_mem h (by decide), hword, hfloat]
  simp

theorem decimal?_of_isUpper {c : Char} (hc : c.isUpper = true) (r : List Char) :
    decimal? (c :: r) = none := by
  have hrange : 0x41 ≤ c.toNat ∧ c.toNat ≤ 0x5A := of_decide_eq_true hc
  have hdigit : c.isDigit = false := by
    refine Bool.eq_false_iff.mpr fun h => ?_
    have hdigits : 0x30 ≤ c.toNat ∧ c.toNat ≤ 0x39 := by
      simpa [Char.isDigit, UInt32.le_iff_toNat_le] using h
    omega
  have hwhole : (c :: r).takeWhile Char.isDigit = [] := by
    rw [List.takeWhile_cons, hdigit, if_neg Bool.false_ne_true]
  have hrest : (c :: r).dropWhile Char.isDigit = c :: r := by
    rw [List.dropWhile_cons, hdigit, if_neg Bool.false_ne_true]
  unfold decimal?
  rw [splitSign_of_isUpper hc]
  dsimp only
  rw [hwhole, hrest]
  split
  · next heq => exact absurd (List.cons.inj heq).1 (ne_of_isUpper hc rfl)
  · rfl

/-- A text that starts with a capital is none of the words that do not. -/
theorem not_contains_of_isUpper {s : String} {c : Char} {r : List Char} (hs : s.toList = c :: r)
    (hc : c.isUpper = true) {words : List String}
    (hwords : ∀ w ∈ words, (w.toList.head?.any Char.isUpper) = false) :
    words.contains s = false := by
  refine Bool.eq_false_iff.mpr fun h => ?_
  have hnot := hwords s (List.contains_iff_mem.mp h)
  rw [hs, List.head?_cons, Option.any_some, hc] at hnot
  exact Bool.false_ne_true hnot.symm

/-- **A plain text that starts with a capital** is a word for null or a truth value, or a text. -/
theorem ofPlain?_of_isUpper {s : String} {c : Char} {r : List Char} (hs : s.toList = c :: r)
    (hc : c.isUpper = true) :
    ofPlain? s = some (if isNull s then .null else (bool? s).elim (.string s) .bool) := by
  have hempty : s.isEmpty = false := by
    refine Bool.eq_false_iff.mpr fun h => ?_
    rw [String.isEmpty_iff.mp h] at hs
    exact nomatch hs
  have hword : word? s = none := by rw [word?, hs, int?_of_isUpper hc]
  have hzero : hasLeadingZero s.toList = false := by
    rw [hs]
    unfold hasLeadingZero
    split
    · next heq => exact absurd (List.cons.inj heq).1 (ne_of_isUpper hc rfl)
    · next heq => exact absurd (List.cons.inj heq).1 (ne_of_isUpper hc rfl)
    · dsimp only
      split
      · next heq => exact absurd (List.cons.inj heq).1 (ne_of_isUpper hc rfl)
      · rfl
  have hfloat : float? s = none := by
    rw [float?, not_contains_of_isUpper hs hc (by decide), not_contains_of_isUpper hs hc (by decide),
      not_contains_of_isUpper hs hc (by decide), hs, decimal?_of_isUpper hc]
    rfl
  rw [ofPlain?, hempty, hword, hzero, hfloat, Bool.false_or]
  cases isNull s <;> cases bool? s <;> rfl

end Scalar

/-! ## Documents -/

/-- **Entries in front of a document** are entries of its root, in front of those that it has. A
document without a root gets one by them. -/
theorem Document.parse?_lines {text : String} {document? : Option Document}
    (h : Opening text.toList) (hold : Document.parse? text = some document?) :
    ∃ others slots parts, (document? = some ⟨.mapping none others, slots, parts⟩ ∨
        document? = none ∧ others = []) ∧
      ∀ {below}, Below text.toList below → ∀ (e : WordEntry) (entries : List WordEntry),
        Document.parse? (String.ofList ((e :: entries).flatMap (·.line) ++ below)) = some (some
          ⟨.mapping none ((e :: entries).map (·.node) ++ others), slots,
            parts + 2 * (e :: entries).length⟩) := by
  obtain ⟨tokens, hscan, hread⟩ := Option.bind_eq_some_iff.mp hold
  obtain ⟨body, htokens, hbehind⟩ := h.scan? hscan
  have hflat : ∃ others slots parts, (document? = some ⟨.mapping none others, slots, parts⟩ ∨
      document? = none ∧ others = []) ∧ ∀ entries : List WordEntry,
        Document.ofTokens? (.blockMapping :: (entries.flatMap (·.tokens) ++ body)) = some (some
          ⟨.mapping none (entries.map (·.node) ++ others), slots, parts + 2 * entries.length⟩) := by
    rcases htokens with rfl | ⟨rfl, rfl⟩
    · obtain ⟨others, slots, parts, hdocument, hflat⟩ := Document.ofTokens?_flatMap hread
      exact ⟨others, slots, parts, .inl hdocument, hflat⟩
    · -- Without a token there is no document; with entries there is the one that they make.
      obtain rfl := Option.some.inj hread
      have hempty : Document.ofTokens? [.blockMapping, .blockEnd, .streamEnd] =
          some (some ⟨.mapping none [], [], 2⟩) := rfl
      obtain ⟨others, slots, parts, hdocument, hflat⟩ := Document.ofTokens?_flatMap hempty
      obtain ⟨hroot, -, -⟩ := Document.mk.inj (Option.some.inj hdocument)
      obtain ⟨-, rfl⟩ := Node.mapping.inj hroot
      exact ⟨[], slots, parts, .inr ⟨rfl, rfl⟩, hflat⟩
  obtain ⟨others, slots, parts, hdocument, hflat⟩ := hflat
  refine ⟨others, slots, parts, hdocument, fun hbelow e entries => ?_⟩
  obtain ⟨hbehind, hallowed⟩ := hbehind hbelow
  rw [Document.parse?, String.toList_ofList, scan?_lines hbehind hallowed, Option.bind_some, hflat]

variable {others : List (Node × Node)} {slots : Slots} {parts : Nat} {old : Value}

/-- What a mapping means, entries in front of it mean in front of that. -/
theorem Document.meaning_words
    (h : (Document.mk (.mapping none others) slots parts).expanded?.bind Value.ofNode? = some old) :
    ∃ values, old = .mapping values ∧ Value.distinctKeys values = true ∧
      ∀ {entries : List WordEntry} {meanings : List (Value × Value)} (more : Nat),
        entries.mapM (·.meaning?) = some meanings →
        Value.distinctKeys (meanings ++ values) = true →
        (Document.mk (.mapping none (entries.map (·.node) ++ others)) slots
            (parts + more)).expanded?.bind Value.ofNode? =
          some (.mapping (meanings ++ values)) := by
  obtain ⟨root, hexpanded, hroot⟩ := Option.bind_eq_some_iff.mp h
  obtain ⟨⟨root', left⟩, hexpand, rfl⟩ := Option.map_eq_some_iff.mp hexpanded
  rw [Node.expand, if_neg (by decide)] at hexpand
  split at hexpand
  · next result left' hothers =>
    obtain ⟨rfl, rfl⟩ := Prod.mk.inj (Option.some.inj hexpand)
    obtain ⟨values, hvalues, hroot⟩ := Option.bind_eq_some_iff.mp hroot
    split at hroot
    · next hkeys =>
      obtain rfl := Option.some.inj hroot
      refine ⟨values, rfl, hkeys, fun {entries} _ more hmeanings hdistinct => ?_⟩
      have hwords := Node.expandEntries_words
        (Node.expandEntries_more (slots.follow_lasts _) _ hothers (more * 100)) entries
      rw [← Nat.add_mul] at hwords
      unfold Document.expanded?
      rw [Node.expand, if_neg (by decide)]
      dsimp only
      rw [hwords]
      show (Value.ofEntries? _).bind _ = _
      rw [Value.ofEntries?_words hvalues hmeanings, Option.bind_some, if_pos hdistinct]
      rfl
    · exact nomatch hroot
  · exact nomatch hexpand

/-- The entries of the root of a document; there are none where the document is empty. -/
def Value.RootEntries (text : String) (entries : List (Value × Value)) : Prop :=
  parse? text = some (.mapping entries) ∨ parse? text = some .null ∧ entries = []

/-- **The document that entries make in front of another one.** -/
theorem Value.RootEntries.parse?_lines {text : String} {values : List (Value × Value)}
    (hroot : RootEntries text values) (h : Opening text.toList) :
    distinctKeys values = true ∧
      ∀ {below}, Below text.toList below → ∀ (e : WordEntry) (entries : List WordEntry)
        {meanings : List (Value × Value)}, (e :: entries).mapM (·.meaning?) = some meanings →
        distinctKeys (meanings ++ values) = true →
        parse? (String.ofList ((e :: entries).flatMap (·.line) ++ below)) =
          some (.mapping (meanings ++ values)) := by
  obtain ⟨old, hold, hroot⟩ : ∃ old, parse? text = some old ∧
      (old = .mapping values ∨ old = .null ∧ values = []) :=
    hroot.elim (fun h => ⟨_, h, .inl rfl⟩) fun h => ⟨_, h.1, .inr ⟨rfl, h.2⟩⟩
  unfold parse? at hold
  obtain ⟨document?, hparse⟩ : ∃ document?, Document.parse? text = some document? := by
    cases hparse : Document.parse? text with
    | none => rw [hparse] at hold; exact nomatch hold
    | some document? => exact ⟨document?, rfl⟩
  obtain ⟨others, slots, parts, hdocument, hlines⟩ := Document.parse?_lines h hparse
  rw [hparse] at hold
  have hmeaning : (Document.mk (.mapping none others) slots parts).expanded?.bind Value.ofNode? =
      some (.mapping values) := by
    rcases hdocument with rfl | ⟨rfl, rfl⟩
    · rcases hroot with rfl | ⟨rfl, -⟩
      · exact hold
      · obtain ⟨_, hnull, -⟩ := Document.meaning_words hold
        exact nomatch hnull
    · obtain rfl := Option.some.inj hold
      obtain ⟨-, rfl⟩ := hroot.resolve_left nofun
      rfl
  obtain ⟨_, hvalues, hkeys, hwords⟩ := Document.meaning_words hmeaning
  obtain rfl := Value.mapping.inj hvalues
  refine ⟨hkeys, fun hbelow e entries meanings hmeanings hdistinct => ?_⟩
  unfold parse?
  rw [hlines hbelow]
  exact hwords _ hmeanings hdistinct

end ChartSchema.Yaml
