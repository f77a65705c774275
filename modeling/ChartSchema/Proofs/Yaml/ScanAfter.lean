import ChartSchema.Yaml.Token.Scan
/-!
# Scanning behind other tokens

A scanner that has tokens already goes on as one that has none: it reads the same tokens and puts
them behind those it has. `Scanner.after` puts the state of a scanner behind a part of the text
(`Before`) with the characters, the breaks and the tokens of this part; columns and open
collections are not touched. Each step of the scanner does the same in both states
(`Scanner.Follows`), and so does a whole run (`Scanner.run_after`).

The one step where this could go wrong is a colon, which puts a token among those that were read.
Its place is counted from the start of the text, and how far it is from the end does not change; that
the tokens are as many as were counted (`Scanner.Counted`) is the invariant that says so.
-/

namespace ChartSchema.Yaml

/-- The part of a text before another one: how many characters and breaks it has, and its tokens,
last one first. -/
structure Before where
  /-- How many characters it has. -/
  index : Nat
  /-- How many line breaks it has. -/
  line : Nat
  /-- Its tokens, last one first. -/
  tokens : List Token

variable {b : Before}

namespace Cursor

/-- A cursor behind another part of the text. -/
def after (b : Before) (c : Cursor) : Cursor :=
  { c with index := c.index + b.index, line := c.line + b.line }

/-- Skipping characters does not depend on what stands before. -/
theorem skip_after (b : Before) (count : Nat) (c : Cursor) :
    (c.after b).skip count = (c.skip count).after b := by
  induction count generalizing c with
  | zero => rfl
  | succ count ih =>
    obtain ⟨rest, index, line, column⟩ := c
    have hindex : index + b.index + 1 = index + 1 + b.index := Nat.add_right_comm ..
    have hline : line + b.line + 1 = line + 1 + b.line := Nat.add_right_comm ..
    unfold skip after
    dsimp only
    split
    · rfl
    · rw [hindex]
      exact ih ⟨_, _, _, _⟩
    · rw [hindex, hline]
      split <;> exact ih ⟨_, _, _, _⟩

theorem moveTo_after (b : Before) (c : Cursor) (rest : List Char) :
    (c.after b).moveTo rest = (c.moveTo rest).after b :=
  skip_after b _ c

end Cursor

/-- A spot behind another part of the text. -/
def KeySpot.after (b : Before) (spot : KeySpot) : KeySpot :=
  { spot with number := spot.number + b.tokens.length, cursor := spot.cursor.after b }

namespace Scanner

/-- **A scanner behind another part of the text.** -/
def after (b : Before) (s : Scanner) : Scanner :=
  { s with
    cursor := s.cursor.after b
    spot? := s.spot?.map (·.after b)
    outer := s.outer.map (·.map (·.after b))
    tokens := s.tokens ++ b.tokens
    count := s.count + b.tokens.length }

/-- There are as many tokens as were counted. -/
def Counted (s : Scanner) : Prop := s.count = s.tokens.length

variable {s : Scanner}

/-! ## Parts of the state -/

@[simp] theorem after_rest (b : Before) (s : Scanner) : (s.after b).cursor.rest = s.cursor.rest :=
  rfl

@[simp] theorem after_column (b : Before) (s : Scanner) :
    (s.after b).cursor.column = s.cursor.column := rfl

@[simp] theorem after_indent (b : Before) (s : Scanner) : (s.after b).indent = s.indent := rfl

@[simp] theorem after_indents (b : Before) (s : Scanner) : (s.after b).indents = s.indents := rfl

@[simp] theorem after_keyAllowed (b : Before) (s : Scanner) :
    (s.after b).keyAllowed = s.keyAllowed := rfl

@[simp] theorem after_inFlow (b : Before) (s : Scanner) : (s.after b).inFlow = s.inFlow := by
  simp [inFlow, after]

theorem after_ite (b : Before) {P Q : Prop} [Decidable P] [Decidable Q] (h : P ↔ Q)
    {x y x' y' : Scanner} (hx : x' = x.after b) (hy : y' = y.after b) :
    (if P then x' else y') = (if Q then x else y).after b := by
  rw [hx, hy, ← apply_ite (Scanner.after b)]
  simp only [h]

theorem map_after_ite (b : Before) {P Q : Prop} [Decidable P] [Decidable Q] (h : P ↔ Q)
    {x y x' y' : Option Scanner} (hx : x' = x.map (·.after b)) (hy : y' = y.map (·.after b)) :
    (if P then x' else y') = (if Q then x else y).map (·.after b) := by
  rw [hx, hy, ← apply_ite (Option.map (Scanner.after b))]
  simp only [h]

/-- Appending a token does not depend on what stands before. -/
theorem push_after (b : Before) (s : Scanner) (t : Token) :
    (s.after b).push t = (s.push t).after b := by
  unfold push after
  rw [Nat.add_right_comm]
  rfl

/-- A token is put among those that were read, not among those before. -/
theorem insertAt_after (b : Before) (hs : s.Counted) (number : Nat) (t : Token) :
    (s.after b).insertAt (number + b.tokens.length) t = (s.insertAt number t).after b := by
  have hlater : s.count + b.tokens.length - (number + b.tokens.length) = s.count - number :=
    Nat.add_sub_add_right ..
  have hle : s.count - number ≤ s.tokens.length := hs ▸ Nat.sub_le ..
  unfold insertAt after
  simp only [hlater, List.take_append_of_le_length hle, List.drop_append_of_le_length hle,
    List.append_assoc, List.cons_append, Nat.add_right_comm]

theorem moveTo_after (b : Before) (s : Scanner) (rest : List Char) :
    (s.after b).moveTo rest = (s.moveTo rest).after b := by
  unfold moveTo after
  rw [Cursor.moveTo_after]

theorem skip_after (b : Before) (s : Scanner) (count : Nat) :
    (s.after b).skip count = (s.skip count).after b := by
  unfold skip after
  rw [Cursor.skip_after]

/-! ## Steps -/

/-- **A step that does the same behind other tokens**, and keeps the count of tokens. -/
structure Follows (f : Scanner → Option Scanner) : Prop where
  /-- The count is kept. -/
  counted : ∀ {s s' : Scanner}, s.Counted → f s = some s' → s'.Counted
  /-- What stands before does not matter. -/
  after : ∀ (b : Before) {s : Scanner}, s.Counted → f (s.after b) = (f s).map (·.after b)

namespace Follows

variable {f g : Scanner → Option Scanner}

theorem bind (hf : Follows f) (hg : Follows g) : Follows fun s => f s >>= g where
  counted hs h := by
    obtain ⟨mid, hmid, h⟩ := Option.bind_eq_some_iff.mp h
    exact hg.counted (hf.counted hs hmid) h
  after b s hs := by
    show (f (s.after b)).bind g = ((f s).bind g).map (·.after b)
    rw [hf.after b hs]
    cases hmid : f s with
    | none => rfl
    | some mid => exact hg.after b (hf.counted hs hmid)

/-- A step by cases that do not depend on what stands before. -/
theorem ite {holds : Scanner → Prop} [DecidablePred holds]
    (hholds : ∀ b s, holds (s.after b) ↔ holds s) (hf : Follows f) (hg : Follows g) :
    Follows fun s => if holds s then f s else g s where
  counted hs h := by
    split at h
    · exact hf.counted hs h
    · exact hg.counted hs h
  after b s hs := by
    simp only [hholds]
    split
    · exact hf.after b hs
    · exact hg.after b hs

theorem pure {f : Scanner → Scanner} (hcount : ∀ s, s.Counted → (f s).Counted)
    (hafter : ∀ b s, s.Counted → f (s.after b) = (f s).after b) : Follows fun s => some (f s) where
  counted hs h := Option.some.inj h ▸ hcount _ hs
  after b _ hs := congrArg some (hafter b _ hs)

/-- A step that only changes the state behind one that may fail. -/
theorem map {g : Scanner → Scanner} (hf : Follows f) (hcount : ∀ s, s.Counted → (g s).Counted)
    (hafter : ∀ b s, s.Counted → g (s.after b) = (g s).after b) :
    Follows fun s => f s >>= fun s => some (g s) :=
  hf.bind (pure hcount hafter)

/-- A step that is another one that does the same behind other tokens. -/
theorem congr (hg : Follows g) (h : ∀ s, f s = g s) : Follows f := by
  rwa [show f = g from funext h]

end Follows

theorem refresh_after (b : Before) (s : Scanner) (spot? : Option KeySpot) :
    (s.after b).refresh (spot?.map (·.after b)) = (s.refresh spot?).map (·.map (·.after b)) := by
  cases spot? with
  | none => rfl
  | some spot =>
    have hstale : (s.after b).isStale (spot.after b) = s.isStale spot := by
      unfold isStale after KeySpot.after Cursor.after
      dsimp only
      rw [Nat.add_right_comm]
      simp only [Nat.add_lt_add_iff_right]
    show (if (s.after b).isStale (spot.after b) then
      (if spot.required then none else some none) else some (some (spot.after b))) = _
    rw [hstale]
    unfold refresh
    dsimp only
    split
    · split <;> rfl
    · rfl

theorem mapM_refresh_after (b : Before) (s : Scanner) (outer : List (Option KeySpot)) :
    (outer.map (·.map (·.after b))).mapM (s.after b).refresh =
      (outer.mapM s.refresh).map (·.map (·.map (·.after b))) := by
  induction outer with
  | nil => rfl
  | cons spot? rest ih =>
    rw [List.map_cons, List.mapM_cons, List.mapM_cons, refresh_after, ih]
    cases s.refresh spot? with
    | none => rfl
    | some kept? => cases rest.mapM s.refresh <;> rfl

theorem dropStale_follows : Follows dropStale where
  counted hs h := by
    obtain ⟨spot?, -, h⟩ := Option.bind_eq_some_iff.mp h
    obtain ⟨outer, -, h⟩ := Option.bind_eq_some_iff.mp h
    exact Option.some.inj h ▸ hs
  after b s hs := by
    unfold dropStale
    rw [show (s.after b).spot? = s.spot?.map (·.after b) from rfl, refresh_after,
      show (s.after b).outer = s.outer.map (·.map (·.after b)) from rfl, mapM_refresh_after]
    cases s.refresh s.spot? with
    | none => rfl
    | some spot? => cases s.outer.mapM s.refresh <;> rfl

theorem dropSpot_follows : Follows dropSpot where
  counted hs h := by
    unfold dropSpot at h
    split at h
    · split at h
      · exact nomatch h
      · exact Option.some.inj h ▸ hs
    · exact Option.some.inj h ▸ hs
  after b s hs := by
    obtain ⟨cursor, spot?, outer, indent, indents, keyAllowed, tokens, count⟩ := s
    cases spot? with
    | none => rfl
    | some spot =>
      show (if spot.required then none else some _) = (if spot.required then none else some _).map _
      split <;> rfl

theorem saveSpot_follows : Follows saveSpot where
  counted hs h := by
    unfold saveSpot at h
    split at h
    · obtain ⟨mid, hmid, h⟩ := Option.bind_eq_some_iff.mp h
      obtain rfl := Option.some.inj h
      have hmid' : mid.Counted := dropSpot_follows.counted hs hmid
      exact hmid'
    · exact Option.some.inj h ▸ hs
  after b s hs := by
    unfold saveSpot
    simp only [after_keyAllowed, after_inFlow, after_indent, after_column,
      dropSpot_follows.after b hs]
    split
    · cases s.dropSpot <;> rfl
    · rfl

theorem counted_push (hs : s.Counted) (t : Token) : (s.push t).Counted := congrArg (· + 1) hs

theorem counted_insertAt (hs : s.Counted) (number : Nat) (t : Token) :
    (s.insertAt number t).Counted := by
  have hs' : s.count = s.tokens.length := hs
  unfold Counted insertAt
  simp only [List.length_append, List.length_cons, List.length_take, List.length_drop]
  omega

theorem counted_openBlock (hs : s.Counted) (column number : Nat) (t : Token) :
    (s.openBlock column number t).Counted := by
  unfold openBlock
  split
  · exact hs
  · split
    · exact counted_insertAt (s := { s with indent := column, indents := s.indent :: s.indents })
        hs number t
    · exact hs

theorem openBlock_after (b : Before) (hs : s.Counted) (column number : Nat) (t : Token) :
    (s.after b).openBlock column (number + b.tokens.length) t =
      (s.openBlock column number t).after b := by
  have hinsert := insertAt_after (s := { s with indent := column, indents := s.indent :: s.indents })
    b hs number t
  exact after_ite b (by rw [after_inFlow]) rfl (after_ite b Iff.rfl hinsert rfl)

theorem counted_closeBlocks (hs : s.Counted) (column : Int) (indents : List Int) :
    (closeBlocks column indents s).Counted := by
  induction indents generalizing s with
  | nil =>
    unfold closeBlocks
    split
    · exact hs
    · split
      · exact counted_push (s := { s with indent := -1, indents := [] }) hs _
      · exact hs
  | cons up rest ih =>
    unfold closeBlocks
    split
    · exact hs
    · split
      · exact ih (counted_push (s := { s with indent := up, indents := rest }) hs _)
      · exact hs

theorem closeBlocks_after (b : Before) (s : Scanner) (column : Int) (indents : List Int) :
    closeBlocks column indents (s.after b) = (closeBlocks column indents s).after b := by
  induction indents generalizing s with
  | nil =>
    have hpush := push_after b { s with indent := -1, indents := [] } .blockEnd
    exact after_ite b (by rw [after_inFlow]) rfl (after_ite b Iff.rfl hpush rfl)
  | cons up rest ih =>
    have hpush := push_after b { s with indent := up, indents := rest } .blockEnd
    exact after_ite b (by rw [after_inFlow]) rfl
      (after_ite b Iff.rfl ((congrArg _ hpush).trans (ih _)) rfl)

theorem closeAll_follows : Follows closeAll :=
  (Follows.pure (f := fun s => s.closeBlocks (-1) s.indents)
    (fun _ hs => counted_closeBlocks hs _ _) fun b s _ => closeBlocks_after b s _ _).bind
    dropSpot_follows

/-! ## One token -/

theorem counted_plainToken (hs : s.Counted) (t : Token) (width : Nat) (keyAllowed : Bool) :
    (s.plainToken t width keyAllowed).Counted := congrArg (· + 1) hs

theorem plainToken_after (b : Before) (s : Scanner) (t : Token) (width : Nat) (keyAllowed : Bool) :
    (s.after b).plainToken t width keyAllowed = (s.plainToken t width keyAllowed).after b := by
  unfold plainToken
  rw [skip_after, push_after]
  rfl

theorem pushUpTo_after (b : Before) (s : Scanner) (t : Token) (rest : List Char)
    (keyAllowed : Bool) :
    { ((s.after b).moveTo rest).push t with keyAllowed } =
      ({ (s.moveTo rest).push t with keyAllowed } : Scanner).after b := by
  rw [moveTo_after, push_after]
  rfl

theorem node_follows (t : Token) (rest : List Char) (keyAllowed : Bool) :
    Follows (·.node t rest keyAllowed) :=
  saveSpot_follows.map (fun _ hs => congrArg (· + 1) hs) fun b s _ => pushUpTo_after b s t rest _

theorem colon_follows : Follows colon where
  counted {s s'} hs h := by
    unfold colon at h
    split at h
    · next spot _ =>
      obtain rfl := Option.some.inj h
      have hkey := counted_openBlock (counted_insertAt hs spot.number .key) spot.cursor.column
        spot.number .blockMapping
      exact counted_plainToken (s := { (_ : Scanner) with spot? := none }) hkey _ _ _
    · split at h
      · exact Option.some.inj h ▸ counted_plainToken hs _ _ _
      · split at h
        · exact nomatch h
        · exact Option.some.inj h ▸ counted_plainToken (counted_openBlock hs _ _ _) _ _ _
  after b s hs := by
    cases hspot : s.spot? with
    | some spot =>
      have hspot' : (s.after b).spot? = some (spot.after b) := by
        show s.spot?.map _ = _
        rw [hspot]
        rfl
      unfold colon
      rw [hspot, hspot']
      dsimp only
      rw [show (spot.after b).number = spot.number + b.tokens.length from rfl,
        show (spot.after b).cursor.column = spot.cursor.column from rfl, insertAt_after b hs,
        openBlock_after b (counted_insertAt hs _ _)]
      exact congrArg some (plainToken_after b { (_ : Scanner) with spot? := none } _ _ _)
    | none =>
      have hspot' : (s.after b).spot? = none := by
        show s.spot?.map _ = _
        rw [hspot]
        rfl
      have hopen := openBlock_after b hs s.cursor.column s.count .blockMapping
      unfold colon
      rw [hspot, hspot']
      refine map_after_ite b (by rw [after_inFlow]) (congrArg some (plainToken_after ..))
        (map_after_ite b Iff.rfl rfl (congrArg some ?_))
      exact (congrArg (·.plainToken .value 1 true) hopen).trans (plainToken_after ..)

/-- Opening a block collection in front of an indicator, where one may begin. -/
theorem openHere_follows (t : Token) : Follows fun s =>
    if s.inFlow then some s
    else if !s.keyAllowed then none
    else some (s.openBlock s.cursor.column s.count t) where
  counted hs h := by
    split at h
    · exact Option.some.inj h ▸ hs
    · split at h
      · exact nomatch h
      · exact Option.some.inj h ▸ counted_openBlock hs _ _ _
  after b s hs := map_after_ite b (by rw [after_inFlow]) rfl
    (map_after_ite b Iff.rfl rfl (congrArg some (openBlock_after b hs _ _ _)))

theorem dash_follows : Follows dash := by
  have hdash : Follows fun s => s.dropSpot >>= fun s => some (s.plainToken .blockEntry 1 true) :=
    dropSpot_follows.map (fun _ hs => counted_plainToken hs _ _ _)
      fun b s _ => plainToken_after b s _ _ _
  refine ((openHere_follows .blockSequence).bind hdash).congr fun s => ?_
  unfold dash
  split
  · rfl
  · split <;> rfl

theorem questionMark_follows : Follows questionMark := by
  have hmark : Follows fun s =>
      s.dropSpot >>= fun s => some (s.plainToken .key 1 (!s.inFlow)) :=
    dropSpot_follows.map (fun s hs => counted_plainToken hs .key 1 (!s.inFlow)) fun b s _ => by
      rw [after_inFlow, plainToken_after]
  refine ((openHere_follows .blockMapping).bind hmark).congr fun s => ?_
  unfold questionMark
  split
  · rfl
  · split <;> rfl

theorem openFlow_follows (t : Token) : Follows (·.openFlow t) :=
  saveSpot_follows.map (fun _ hs => counted_plainToken hs t 1 true) fun b s _ =>
    plainToken_after b { s with outer := s.spot? :: s.outer, spot? := none } t 1 true

theorem closeFlow_follows (t : Token) : Follows (·.closeFlow t) :=
  dropSpot_follows.map
    (fun s hs => by
      obtain ⟨cursor, spot?, outer, indent, indents, keyAllowed, tokens, count⟩ := s
      cases outer <;> exact counted_plainToken hs t 1 false)
    fun b s _ => by
      obtain ⟨cursor, spot?, outer, indent, indents, keyAllowed, tokens, count⟩ := s
      cases outer with
      | nil => exact plainToken_after b _ t 1 false
      | cons up rest => exact plainToken_after b ⟨cursor, up, rest, _, _, _, _, _⟩ t 1 false

theorem block_follows (literal : Bool) (r : List Char) : Follows (·.block literal r) where
  counted hs h := by
    obtain ⟨mid, hmid, h⟩ := Option.bind_eq_some_iff.mp h
    obtain ⟨⟨text, rest⟩, -, h⟩ := Option.bind_eq_some_iff.mp h
    obtain rfl := Option.some.inj h
    have hmid' : mid.Counted := dropSpot_follows.counted hs hmid
    exact congrArg (· + 1) hmid'
  after b s hs := by
    unfold block
    rw [dropSpot_follows.after b hs]
    cases s.dropSpot with
    | none => rfl
    | some mid =>
      show (readBlock literal mid.indent r >>= _) = (readBlock literal mid.indent r >>= _).map _
      cases readBlock literal mid.indent r with
      | none => rfl
      | some read => exact congrArg some (pushUpTo_after b mid _ _ _)

theorem plain_follows : Follows plain where
  counted hs h := by
    obtain ⟨⟨content, ended, rest⟩, -, h⟩ := Option.bind_eq_some_iff.mp h
    obtain ⟨mid, hmid, h⟩ := Option.bind_eq_some_iff.mp h
    obtain rfl := Option.some.inj h
    have hmid' : mid.Counted := (node_follows _ _ _).counted hs hmid
    exact hmid'
  after b s hs := by
    unfold plain
    simp only [after_rest, after_inFlow, after_indent]
    cases readPlain s.inFlow (s.indent + 1).toNat {} (s.cursor.rest.length + 1) s.cursor.rest with
    | none => rfl
    | some read =>
      obtain ⟨content, ended, rest⟩ := read
      have hnode := (node_follows (.scalar .plain content) rest false).after b hs
      show ((s.after b).node _ rest false >>= _) = (s.node _ rest false >>= _).map _
      rw [hnode]
      cases s.node (.scalar .plain content) rest false <;> rfl

theorem Follows.read {α : Type} (read : Option α) {f : α → Scanner → Option Scanner}
    (hf : ∀ a, Follows (f a)) : Follows fun s => read >>= fun a => f a s := by
  cases read with
  | none => exact ⟨fun _ => nofun, fun _ _ _ => rfl⟩
  | some a => exact hf a

theorem Follows.none : Follows fun _ => none := ⟨fun _ => nofun, fun _ _ _ => rfl⟩

theorem tag_follows (c : Char) (r : List Char) : Follows fun s =>
    readTag s.inFlow (c :: r) >>= fun (t, rest) => s.node t rest false where
  counted {s _} hs h :=
    (Follows.read (readTag s.inFlow (c :: r)) fun _ => node_follows _ _ _).counted hs h
  after b s hs := by
    simp only [after_inFlow]
    exact (Follows.read (readTag s.inFlow (c :: r)) fun _ => node_follows _ _ _).after b hs

/-- **One token does not depend on what stands before.** The cases are those of the scanner, and
each is a few steps that were looked at before. -/
theorem token_follows (c : Char) (r : List Char) : Follows (·.token c r) := by
  have hdirective : Follows fun s => s.closeAll >>= fun s => readDirective r >>= fun (t, rest) =>
      some { (s.moveTo rest).push t with keyAllowed := false } :=
    closeAll_follows.bind (.read _ fun (t, rest) =>
      .pure (fun _ hs => congrArg (· + 1) hs) fun b s _ => pushUpTo_after b s t rest false)
  have hmark : Follows fun s => s.closeAll >>= fun s =>
      some (s.plainToken (if c = '-' then .documentStart else .documentEnd) 3 false) :=
    closeAll_follows.map (fun _ hs => counted_plainToken hs _ _ _)
      fun b s _ => plainToken_after b s _ _ _
  have hcomma : Follows fun s => s.dropSpot >>= fun s => some (s.plainToken .flowEntry 1 true) :=
    dropSpot_follows.map (fun _ hs => counted_plainToken hs _ _ _)
      fun b s _ => plainToken_after b s _ _ _
  unfold token
  refine .ite (fun _ _ => Iff.rfl) hdirective ?_
  refine .ite (fun _ _ => Iff.rfl) hmark ?_
  refine .ite (fun _ _ => Iff.rfl) (openFlow_follows _) ?_
  refine .ite (fun _ _ => Iff.rfl) (openFlow_follows _) ?_
  refine .ite (fun _ _ => Iff.rfl) (closeFlow_follows _) ?_
  refine .ite (fun _ _ => Iff.rfl) (closeFlow_follows _) ?_
  refine .ite (fun _ _ => Iff.rfl) hcomma ?_
  refine .ite (fun _ _ => Iff.rfl) dash_follows ?_
  refine .ite (fun _ _ => by rw [after_inFlow]) questionMark_follows ?_
  refine .ite (fun _ _ => by rw [after_inFlow]) colon_follows ?_
  refine .ite (fun _ _ => Iff.rfl) (.read _ fun _ => node_follows _ _ _) ?_
  refine .ite (fun _ _ => Iff.rfl) (.read _ fun _ => node_follows _ _ _) ?_
  refine .ite (fun _ _ => Iff.rfl) (tag_follows c r) ?_
  refine .ite (fun _ _ => by rw [after_inFlow]) (block_follows true r) ?_
  refine .ite (fun _ _ => by rw [after_inFlow]) (block_follows false r) ?_
  refine .ite (fun _ _ => Iff.rfl) (.read _ fun _ => node_follows _ _ _) ?_
  exact .ite (fun _ _ => by rw [after_inFlow]) plain_follows .none

/-! ## Runs -/

theorem toToken_after (b : Before) (s : Scanner) : (s.after b).toToken = s.toToken.after b := by
  unfold toToken
  simp only [after_inFlow, after_keyAllowed, after_column, after_rest, moveTo_after]
  rfl

theorem counted_toToken (hs : s.Counted) : s.toToken.Counted := hs

/-- **A run puts its tokens behind those before.** The induction is on the steps of the run. -/
theorem run_after (b : Before) (steps : Nat) (hs : s.Counted) :
    (s.after b).run steps = (s.run steps).map (b.tokens.reverse ++ ·) := by
  induction steps generalizing s with
  | zero => rfl
  | succ steps ih =>
    unfold run
    rw [toToken_after, dropStale_follows.after b (counted_toToken hs)]
    cases hkept : s.toToken.dropStale with
    | none => rfl
    | some kept =>
      have hclosed := counted_closeBlocks (dropStale_follows.counted (counted_toToken hs) hkept)
        kept.cursor.column kept.indents
      simp only [Option.map_some, Option.bind_eq_bind, Option.bind_some, after_column,
        after_indents, closeBlocks_after]
      generalize closeBlocks kept.cursor.column kept.indents kept = closed at hclosed ⊢
      rw [after_rest]
      cases closed.cursor.rest with
      | nil =>
        dsimp only
        rw [closeAll_follows.after b hclosed]
        cases closed.closeAll with
        | none => rfl
        | some last =>
          simp only [Option.map_some, Option.bind_some, push_after]
          exact congrArg some (List.reverse_append ..)
      | cons c r =>
        dsimp only
        rw [(token_follows c r).after b hclosed]
        cases hnext : closed.token c r with
        | none => rfl
        | some next => exact ih ((token_follows c r).counted hclosed hnext)

/-- A run that ends within some steps ends with the same tokens within more. -/
theorem run_of_le {steps more : Nat} (hle : steps ≤ more) {tokens : List Token}
    (h : s.run steps = some tokens) : s.run more = some tokens := by
  induction steps generalizing s more with
  | zero => exact nomatch h
  | succ steps ih =>
    obtain ⟨more, rfl⟩ : ∃ fewer, more = fewer + 1 := ⟨more - 1, by omega⟩
    obtain ⟨kept, hkept, h⟩ := Option.bind_eq_some_iff.mp h
    refine Option.bind_eq_some_iff.mpr ⟨kept, hkept, ?_⟩
    dsimp only at h ⊢
    cases hrest : (kept.closeBlocks kept.cursor.column kept.indents).cursor.rest with
    | nil =>
      rw [hrest] at h
      exact h
    | cons c r =>
      rw [hrest] at h
      obtain ⟨next, hnext, h⟩ := Option.bind_eq_some_iff.mp h
      exact Option.bind_eq_some_iff.mpr ⟨next, hnext, ih (by omega) h⟩

end Scanner
end ChartSchema.Yaml
