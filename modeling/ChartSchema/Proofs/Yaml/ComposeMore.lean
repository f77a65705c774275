import ChartSchema.Yaml.Document
/-!
# Reading nodes behind other nodes

Nodes are read with a bound on the number of steps, and the parts of the document are counted on the
way. Neither decides what is read: with more steps, and with parts that were counted before, the same
nodes are read from the same tokens (`Compose.Keeps`). So the entries of a mapping are the same
behind other entries, as long as these have no anchors.
-/

namespace ChartSchema.Yaml

/-- A composer that has counted more parts. -/
def Composer.more (parts : Nat) (s : Composer) : Composer := { s with parts := s.parts + parts }

namespace Compose

variable {α β : Type}

/-- **Where the one reader succeeds, so does the other one**, with the same result and the same parts
counted, whatever parts were counted before. -/
def Keeps (c c' : Compose α) : Prop :=
  ∀ s a s', c s = some (a, s') → ∀ parts, c' (s.more parts) = some (a, s'.more parts)

namespace Keeps

variable {c c' : Compose α} {f f' : α → Compose β}

theorem pure (a : α) : Keeps (Pure.pure a : Compose α) (Pure.pure a) := by
  intro s b s' h parts
  obtain ⟨rfl, rfl⟩ := Prod.mk.inj (Option.some.inj h)
  rfl

theorem failure : Keeps (failure : Compose α) c' := fun _ _ _ => nofun

theorem bind (hc : Keeps c c') (hf : ∀ a, Keeps (f a) (f' a)) : Keeps (c >>= f) (c' >>= f') := by
  intro s b s' h parts
  obtain ⟨⟨a, mid⟩, hmid, h⟩ := Option.bind_eq_some_iff.mp h
  exact Option.bind_eq_some_iff.mpr ⟨(a, mid.more parts), hc s a mid hmid parts, hf a mid b s' h parts⟩

theorem ite {P : Prop} [Decidable P] {d d' : Compose α} (hc : Keeps c c') (hd : Keeps d d') :
    Keeps (if P then c else d) (if P then c' else d') := by
  split
  · exact hc
  · exact hd

theorem modify {f : Composer → Composer} (hf : ∀ s parts, f (s.more parts) = (f s).more parts) :
    Keeps (modify f : Compose Unit) (modify f) := by
  intro s a s' h parts
  obtain ⟨rfl, rfl⟩ := Prod.mk.inj (Option.some.inj h)
  exact congrArg (fun s => some ((), s)) (hf s parts)

/-- What is read off the state, if parts do not matter to it. -/
theorem get {f f' : Composer → Compose β} (hf : ∀ s, Keeps (f s) (f' s))
    (hparts : ∀ s parts, f' (s.more parts) = f' s) :
    Keeps (MonadState.get >>= f) (MonadState.get >>= f') := by
  intro s b s' h parts
  show f' (s.more parts) (s.more parts) = _
  rw [hparts]
  exact hf s s b s' h parts

end Keeps

/-! ## Parts of a reader -/

theorem keeps_peek : Keeps peek peek := by
  refine .get (fun s => ?_) fun _ _ => rfl
  cases s.tokens with
  | nil => exact .failure
  | cons t rest => exact .pure t

theorem keeps_drop : Keeps drop drop := .modify fun _ _ => rfl

theorem keeps_expect (t : Token) : Keeps (expect t) (expect t) :=
  keeps_peek.bind fun _ => .ite keeps_drop .failure

theorem keeps_accept (t : Token) : Keeps (accept t) (accept t) :=
  keeps_peek.bind fun _ => .ite (keeps_drop.bind fun _ => .pure _) (.pure _)

theorem keeps_count (parts : Nat) : Keeps (count parts) (count parts) :=
  .modify fun s more => by simp [Composer.more, Nat.add_right_comm]

theorem keeps_emptyNode : Keeps emptyNode emptyNode := (keeps_count 1).bind fun _ => .pure _

theorem keeps_resolveTag (handle text : List Char) :
    Keeps (resolveTag handle text) (resolveTag handle text) := by
  unfold resolveTag
  refine .ite (.pure _) (.get (fun s => ?_) fun _ _ => rfl)
  cases s.handles.lookup handle with
  | none => exact .failure
  | some lead => exact .pure _

theorem keeps_properties : Keeps properties properties := by
  refine keeps_peek.bind fun t => ?_
  cases t with
  | anchor name =>
    refine keeps_drop.bind fun _ => keeps_peek.bind fun t => ?_
    cases t with
    | tag handle text =>
      exact keeps_drop.bind fun _ => (keeps_resolveTag handle text).bind fun _ => .pure _
    | _ => exact .pure _
  | tag handle text =>
    refine keeps_drop.bind fun _ => Keeps.bind (keeps_peek.bind fun t => ?_) fun _ =>
      (keeps_resolveTag handle text).bind fun _ => .pure _
    cases t with
    | anchor name => exact keeps_drop.bind fun _ => .pure _
    | _ => exact .pure _
  | _ => exact .pure _

theorem keeps_aliased (name : List Char) : Keeps (aliased name) (aliased name) := by
  refine .get (fun s => ?_) fun _ _ => rfl
  cases s.names.lookup name with
  | none => exact .failure
  | some slot => exact (keeps_count 1).bind fun _ => .pure _

theorem keeps_absent (tag? : Option String) (anchor? : Option (List Char)) :
    Keeps (absent tag? anchor?) (absent tag? anchor?) := by
  unfold absent
  exact .ite ((keeps_count 1).bind fun _ => .pure _) .failure

theorem keeps_anchored (anchor? : Option (List Char)) {read read' : Compose Node}
    (h : Keeps read read') : Keeps (anchored anchor? read) (anchored anchor? read') := by
  cases anchor? with
  | none => exact h
  | some name =>
    intro s node s' hread parts
    obtain ⟨⟨node, mid⟩, hmid, hread⟩ := Option.bind_eq_some_iff.mp hread
    obtain ⟨rfl, rfl⟩ := Prod.mk.inj (Option.some.inj hread)
    exact Option.bind_eq_some_iff.mpr ⟨(node, mid.more parts), h _ node mid hmid parts, rfl⟩

/-! ## Nodes -/

/-- **Nodes, items and entries are read with more steps and behind more parts.** -/
structure KeepsAll (fuel more : Nat) : Prop where
  node : ∀ block indentless, Keeps (node block indentless fuel) (node block indentless more)
  nodeBefore : ∀ block indentless stops,
    Keeps (nodeBefore block indentless stops fuel) (nodeBefore block indentless stops more)
  blockItems : Keeps (blockItems fuel) (blockItems more)
  dashedItems : Keeps (dashedItems fuel) (dashedItems more)
  blockEntries : Keeps (blockEntries fuel) (blockEntries more)
  flowItems : ∀ first, Keeps (flowItems first fuel) (flowItems first more)
  flowEntries : ∀ first, Keeps (flowEntries first fuel) (flowEntries first more)

namespace KeepsAll

variable {fuel more : Nat}

theorem zero (more : Nat) : KeepsAll 0 more where
  node _ _ := .failure
  nodeBefore _ _ _ := .failure
  blockItems := .failure
  dashedItems := .failure
  blockEntries := .failure
  flowItems _ := .failure
  flowEntries _ := .failure

theorem node_succ (h : KeepsAll fuel more) (block indentless : Bool) :
    Keeps (Compose.node block indentless (fuel + 1)) (Compose.node block indentless (more + 1)) := by
  unfold Compose.node
  refine keeps_peek.bind fun t => ?_
  cases t with
  | «alias» name => exact keeps_drop.bind fun _ => keeps_aliased name
  | _ =>
    refine keeps_properties.bind fun (tag?, anchor?) =>
      keeps_anchored anchor? (keeps_peek.bind fun t => ?_)
    cases t with
    | blockEntry =>
      exact .ite ((keeps_count 2).bind fun _ => h.dashedItems.bind fun _ => .pure _)
        (keeps_absent tag? anchor?)
    | scalar form text => exact keeps_drop.bind fun _ => (keeps_count 1).bind fun _ => .pure _
    | flowSequence =>
      exact keeps_drop.bind fun _ => (keeps_count 2).bind fun _ => (h.flowItems true).bind fun _ =>
        .pure _
    | flowMapping =>
      exact keeps_drop.bind fun _ => (keeps_count 2).bind fun _ => (h.flowEntries true).bind fun _ =>
        .pure _
    | blockSequence =>
      exact .ite (keeps_drop.bind fun _ => (keeps_count 2).bind fun _ => h.blockItems.bind fun _ =>
        .pure _) (keeps_absent tag? anchor?)
    | blockMapping =>
      exact .ite (keeps_drop.bind fun _ => (keeps_count 2).bind fun _ => h.blockEntries.bind fun _ =>
        .pure _) (keeps_absent tag? anchor?)
    | _ => exact keeps_absent tag? anchor?

theorem nodeBefore_succ (h : KeepsAll fuel more) (block indentless : Bool) (stops : List Token) :
    Keeps (Compose.nodeBefore block indentless stops (fuel + 1))
      (Compose.nodeBefore block indentless stops (more + 1)) :=
  keeps_peek.bind fun _ => .ite keeps_emptyNode (h.node block indentless)

theorem blockItems_succ (h : KeepsAll fuel more) :
    Keeps (Compose.blockItems (fuel + 1)) (Compose.blockItems (more + 1)) :=
  (keeps_accept _).bind fun _ => .ite
    ((h.nodeBefore _ _ _).bind fun _ => h.blockItems.bind fun _ => .pure _)
    ((keeps_expect _).bind fun _ => .pure _)

theorem dashedItems_succ (h : KeepsAll fuel more) :
    Keeps (Compose.dashedItems (fuel + 1)) (Compose.dashedItems (more + 1)) :=
  (keeps_accept _).bind fun _ => .ite
    ((h.nodeBefore _ _ _).bind fun _ => h.dashedItems.bind fun _ => .pure _) (.pure _)

theorem value (h : KeepsAll fuel more) (block indentless : Bool) (stops : List Token) :
    Keeps (do if ← accept .value then Compose.nodeBefore block indentless stops fuel else emptyNode)
      (do if ← accept .value then Compose.nodeBefore block indentless stops more else emptyNode) :=
  (keeps_accept _).bind fun _ => .ite (h.nodeBefore _ _ _) keeps_emptyNode

theorem blockEntries_succ (h : KeepsAll fuel more) :
    Keeps (Compose.blockEntries (fuel + 1)) (Compose.blockEntries (more + 1)) :=
  (keeps_accept _).bind fun _ => .ite
    ((h.nodeBefore _ _ _).bind fun _ => (h.value _ _ _).bind fun _ => h.blockEntries.bind fun _ =>
      .pure _)
    ((keeps_expect _).bind fun _ => .pure _)

theorem behindComma {α : Type} {c c' : Unit → Compose α} (h : ∀ u, Keeps (c u) (c' u))
    (first : Bool) :
    Keeps (if !first then expect .flowEntry >>= c else c ())
      (if !first then expect .flowEntry >>= c' else c' ()) :=
  .ite ((keeps_expect _).bind h) (h ())

theorem flowItems_succ (h : KeepsAll fuel more) (first : Bool) :
    Keeps (Compose.flowItems first (fuel + 1)) (Compose.flowItems first (more + 1)) := by
  refine (keeps_accept _).bind fun _ => .ite (.pure _) (behindComma (fun _ => ?_) first)
  refine (keeps_accept _).bind fun _ => .ite (.pure _) ((keeps_accept _).bind fun _ => .ite ?_ ?_)
  · refine (keeps_count 2).bind fun _ => .bind (keeps_peek.bind fun _ => ?_) fun _ =>
      (h.value _ _ _).bind fun _ => (h.flowItems false).bind fun _ => .pure _
    exact .ite (keeps_drop.bind fun _ => keeps_emptyNode) (h.node false false)
  · exact (h.node false false).bind fun _ => (h.flowItems false).bind fun _ => .pure _

theorem flowEntries_succ (h : KeepsAll fuel more) (first : Bool) :
    Keeps (Compose.flowEntries first (fuel + 1)) (Compose.flowEntries first (more + 1)) := by
  refine (keeps_accept _).bind fun _ => .ite (.pure _) (behindComma (fun _ => ?_) first)
  refine (keeps_accept _).bind fun _ => .ite (.pure _) ((keeps_accept _).bind fun _ => .ite ?_ ?_)
  · exact (h.nodeBefore _ _ _).bind fun _ => (h.value _ _ _).bind fun _ =>
      (h.flowEntries false).bind fun _ => .pure _
  · exact (h.node false false).bind fun _ => keeps_emptyNode.bind fun _ =>
      (h.flowEntries false).bind fun _ => .pure _

/-- **More steps and more parts do not change what is read.** The induction is on the steps, over
all readers at once, because they call each other. -/
theorem of_le (hle : fuel ≤ more) : KeepsAll fuel more := by
  induction fuel generalizing more with
  | zero => exact zero more
  | succ fuel ih =>
    obtain ⟨more, rfl⟩ : ∃ fewer, more = fewer + 1 := ⟨more - 1, by omega⟩
    have h : KeepsAll fuel more := ih (by omega)
    exact ⟨h.node_succ, h.nodeBefore_succ, h.blockItems_succ, h.dashedItems_succ,
      h.blockEntries_succ, h.flowItems_succ, h.flowEntries_succ⟩

end KeepsAll

end Compose
end ChartSchema.Yaml
