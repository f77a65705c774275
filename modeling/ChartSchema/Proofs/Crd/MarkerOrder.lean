import ChartSchema.Proofs.Crd.Expansion
/-!
# The order of markers

Of the marker lines of a field only the order of those of one kind matters, and a line that cannot
be read leaves the field's node alone (`Marker.applyHere_reordered`).

Rules of different kinds are about different keywords, so it does not matter which one is written
down first. The marker that makes a node an integer or a text is not like that: it throws away the
rules that the node has. It is no exception only because it goes before the others wherever it is
written, and that has to be so for a node and for the items of a list alike. That the order does not
matter would be true as well if it went last and threw away everything. So it is said besides that what
the others set is still there in the end: each marker that counts, which is the last one of its kind,
stands in the node that it speaks of (`Marker.standsIn_applyAll`).

What one kind does to the other is shown for two markers (`Marker.apply_comm`); that lists of
markers come out the same is then an argument about lists (`foldl_eq_of_kinds`).
-/

namespace ChartSchema

/-! ## Lists in which the order of a kind is kept -/

section Kinds

variable {α β κ : Type} [DecidableEq κ]

/-- **Two lists have the same elements of each kind in the same order.** -/
def SameByKind (kind : α → κ) (xs ys : List α) : Prop :=
  ∀ k, xs.filter (kind · = k) = ys.filter (kind · = k)

namespace SameByKind

variable {kind : α → κ} {xs ys : List α}

theorem filter (h : SameByKind kind xs ys) (kept : α → Bool) :
    SameByKind kind (xs.filter kept) (ys.filter kept) := by
  intro k
  rw [List.filter_comm, h k, List.filter_comm]

theorem filter_eq (h : SameByKind kind xs ys) {kept : α → Bool} {k : κ}
    (hkept : ∀ x, kept x = decide (kind x = k)) : xs.filter kept = ys.filter kept := by
  rw [funext hkept]
  exact h k

/-- The first element of one list stands in the other one behind elements of other kinds. -/
theorem exists_split {x : α} (h : SameByKind kind (x :: xs) ys) : ∃ before after,
    ys = before ++ x :: after ∧ (∀ y ∈ before, kind y ≠ kind x) ∧
      SameByKind kind xs (before ++ after) := by
  have hfirst {rest : List α} {k : κ} (hk : kind x = k) :
      (x :: rest).filter (kind · = k) = x :: rest.filter (kind · = k) := by
    rw [List.filter_cons, if_pos (decide_eq_true hk)]
  obtain ⟨before, after, rfl, hbefore, -, -⟩ :=
    List.filter_eq_cons_iff.mp ((h (kind x)).symm.trans (hfirst rfl))
  have hne : ∀ y ∈ before, kind y ≠ kind x := fun y hy h => hbefore y hy (decide_eq_true h)
  refine ⟨before, after, rfl, hne, fun k => ?_⟩
  have hk := h k
  rw [List.filter_append] at hk
  rw [List.filter_append]
  by_cases hx : kind x = k
  · have hnone : before.filter (kind · = k) = [] :=
      List.filter_eq_nil_iff.mpr fun y hy hyk => hne y hy ((of_decide_eq_true hyk).trans hx.symm)
    rw [hfirst hx, hfirst hx, hnone] at hk
    rw [hnone]
    exact List.tail_eq_of_cons_eq hk
  · have hneg : ¬ decide (kind x = k) = true := fun h => hx (of_decide_eq_true h)
    rwa [List.filter_cons, List.filter_cons, if_neg hneg, if_neg hneg] at hk

end SameByKind

/-- An element can be taken first if it commutes with those before it. -/
theorem foldl_take_first {op : β → α → β} {x : α} {before : List α}
    (hcomm : ∀ y ∈ before, ∀ s, op (op s y) x = op (op s x) y) (after : List α) (s : β) :
    (before ++ x :: after).foldl op s = (before ++ after).foldl op (op s x) := by
  induction before generalizing s with
  | nil => rfl
  | cons y before ih =>
    rw [List.cons_append, List.foldl_cons, ih (fun z hz => hcomm z (List.mem_cons_of_mem _ hz)),
      hcomm y List.mem_cons_self]
    rfl

/-- **Lists with the same elements of each kind have the same effect**, if elements of different
kinds commute. The induction takes the first element of the one list out of the other one. -/
theorem foldl_eq_of_kinds {op : β → α → β} {kind : α → κ} {xs ys : List α}
    (hcomm : ∀ x ∈ xs, ∀ y ∈ xs, kind x ≠ kind y → ∀ s, op (op s y) x = op (op s x) y)
    (h : SameByKind kind xs ys) (s : β) : xs.foldl op s = ys.foldl op s := by
  induction xs generalizing ys s with
  | nil =>
    have hnone : ys = [] := by
      refine List.eq_nil_iff_forall_not_mem.mpr fun y hy => ?_
      have hown : y ∈ ys.filter (kind · = kind y) := List.mem_filter.mpr ⟨hy, decide_eq_true rfl⟩
      rw [← h (kind y)] at hown
      exact List.not_mem_nil hown
    rw [hnone]
  | cons x xs ih =>
    obtain ⟨before, after, rfl, hne, hrest⟩ := h.exists_split
    have hmem : ∀ y ∈ before, y ∈ x :: xs := by
      intro y hy
      have hown : y ∈ (before ++ x :: after).filter (kind · = kind y) :=
        List.mem_filter.mpr ⟨List.mem_append_left _ hy, decide_eq_true rfl⟩
      rw [← h (kind y)] at hown
      exact List.mem_of_mem_filter hown
    rw [foldl_take_first (fun y hy s =>
      hcomm x List.mem_cons_self y (hmem y hy) (hne y hy).symm s)]
    exact ih (fun x hx y hy => hcomm x (List.mem_cons_of_mem _ hx) y (List.mem_cons_of_mem _ hy))
      hrest _

end Kinds

/-! ## Markers -/

namespace Marker

variable {isList : Bool} {path : String} {raw raw' : List String} {xs ys : List Marker}

/-- The kind of a marker: markers of one kind come from one constructor. -/
def kind (marker : Marker) : Nat := marker.ctorIdx

/-- Rules of different kinds are about different keywords. -/
theorem onFacets_comm_of_lt {x y : Marker} (hlt : x.kind < y.kind) (f : Facets) :
    onFacets (onFacets f y) x = onFacets (onFacets f x) y := by
  cases x <;> cases y <;>
    first
    | exact absurd hlt (Nat.not_lt.mpr (Nat.le_of_ble_eq_true rfl))
    | rfl

/-- Rules of different kinds can be set in either order. -/
theorem onFacets_comm {x y : Marker} (hne : x.kind ≠ y.kind) (f : Facets) :
    onFacets (onFacets f y) x = onFacets (onFacets f x) y := by
  rcases Nat.lt_or_gt_of_ne hne with h | h
  · exact onFacets_comm_of_lt h f
  · exact (onFacets_comm_of_lt h f).symm

/-- A marker that does not replace the node sets its rule. -/
theorem apply_of_not_replaces {marker : Marker} (h : marker.replaces = false) (node : SchemaNode) :
    apply node marker = { node with facets := onFacets node.facets marker } := by
  cases marker
  case intOrString => exact absurd h.symm Bool.false_ne_true
  all_goals rfl

/-- **Markers of different kinds commute**, unless one of them replaces the node. Each sets its own
rule, and the rules of a node are independent. -/
theorem apply_comm {x y : Marker} (hx : x.replaces = false) (hy : y.replaces = false)
    (hne : x.kind ≠ y.kind) (node : SchemaNode) :
    apply (apply node y) x = apply (apply node x) y := by
  have hfacets (f : Facets) : onFacets (onFacets f y) x = onFacets (onFacets f x) y :=
    onFacets_comm hne f
  rw [apply_of_not_replaces hy, apply_of_not_replaces hx, apply_of_not_replaces hx,
    apply_of_not_replaces hy]
  exact congrArg (fun facets => { node with facets }) (hfacets node.facets)

/-- Markers that are left beside those that replace the node do not replace it. -/
theorem replaces_of_mem_filter {marker : Marker} (h : marker ∈ xs.filter (!·.replaces)) :
    marker.replaces = false := by
  simpa using (List.mem_filter.mp h).2

/-- Markers about a field as a whole do not replace its node. -/
theorem replaces_of_not_targetsValue {marker : Marker}
    (h : marker ∈ xs.filter (!·.targetsValue)) : marker.replaces = false := by
  have hother : marker.targetsValue = false := by simpa using (List.mem_filter.mp h).2
  cases marker
  case intOrString => exact absurd hother.symm Bool.false_ne_true
  all_goals rfl

/-- The rules about values come out the same, whatever the order of different kinds. -/
theorem applyToValue_eq (h : SameByKind kind xs ys) (node : SchemaNode) :
    applyToValue node xs = applyToValue node ys := by
  have hvalues := h.filter (·.targetsValue)
  have hreplacing : (xs.filter (·.targetsValue)).filter (·.replaces)
      = (ys.filter (·.targetsValue)).filter (·.replaces) :=
    hvalues.filter_eq (k := Marker.intOrString.kind) fun m => by cases m <;> rfl
  rw [applyToValue, applyToValue, List.foldl_append, List.foldl_append, hreplacing]
  exact foldl_eq_of_kinds
    (fun x hx y hy => apply_comm (replaces_of_mem_filter hx) (replaces_of_mem_filter hy))
    (hvalues.filter _) _

theorem applyValues_eq (h : SameByKind kind xs ys) (isList : Bool) (node : SchemaNode) :
    applyValues isList node xs = applyValues isList node ys := by
  unfold applyValues
  split
  · rw [applyToValue_eq h]
  · rw [applyToValue_eq h]
  · exact applyToValue_eq h node

theorem required_eq (h : SameByKind kind xs ys) : required xs = required ys := by
  refine foldl_eq_of_kinds (fun x _ y _ hne s => ?_) h false
  cases x <;> cases y <;> first | rfl | exact absurd rfl hne

/-- **The rules of all markers come out the same**, whatever the order of different kinds. Those
about values are applied first, and there the ones that replace the node go ahead. -/
theorem applyAll_eq (h : SameByKind kind xs ys) (isList : Bool) (node : SchemaNode) :
    applyAll isList node xs = applyAll isList node ys := by
  rw [applyAll, applyAll, applyValues_eq h]
  exact foldl_eq_of_kinds (fun x hx y hy =>
      apply_comm (replaces_of_not_targetsValue hx) (replaces_of_not_targetsValue hy))
    (h.filter _) _

/-! ## What stands in the end -/

/-- Markers that do not replace the node set their rules and nothing else. -/
theorem foldl_apply_eq (h : ∀ marker ∈ xs, marker.replaces = false) (node : SchemaNode) :
    xs.foldl apply node = { node with facets := xs.foldl onFacets node.facets } := by
  induction xs generalizing node with
  | nil => cases node; rfl
  | cons marker rest ih =>
    rw [List.foldl_cons, apply_of_not_replaces (h marker List.mem_cons_self),
      ih fun m hm => h m (List.mem_cons_of_mem _ hm)]
    rfl

/-- Markers that replace the node all make it the same integer or text. -/
theorem foldl_replacing (hreplaces : ∀ marker ∈ xs, marker.replaces = true)
    (node : SchemaNode) : xs.foldl apply node
      = if xs.isEmpty then node else .intOrString node.facets.description? := by
  induction xs generalizing node with
  | nil => rfl
  | cons marker rest ih =>
    have hmarker : marker = .intOrString := by
      have h := hreplaces marker List.mem_cons_self
      cases marker
      case intOrString => rfl
      all_goals exact absurd h Bool.false_ne_true
    rw [List.foldl_cons, ih (fun m hm => hreplaces m (List.mem_cons_of_mem _ hm)), hmarker]
    split <;> rfl

/-- **The rules about values**, first those that replace the node and then the others. However many
there are of the former, they make one fresh node that keeps only the description. -/
theorem applyToValue_eq_foldl (node : SchemaNode) (markers : List Marker) :
    applyToValue node markers
      = ((markers.filter (·.targetsValue)).filter (!·.replaces)).foldl apply
        (if markers.any (·.replaces) then .intOrString node.facets.description? else node) := by
  have hvalue (m : Marker) : (m.replaces && m.targetsValue) = m.replaces := by cases m <;> rfl
  have hempty : ((markers.filter (·.targetsValue)).filter (·.replaces)).isEmpty
      = !markers.any (·.replaces) := by
    rw [List.filter_filter, List.filter_congr fun m _ => hvalue m, Bool.eq_iff_iff,
      List.isEmpty_iff, List.filter_eq_nil_iff, Bool.not_eq_true', List.any_eq_false]
  rw [applyToValue, List.foldl_append,
    foldl_replacing fun m hm => (List.mem_filter.mp hm).2, hempty]
  cases markers.any (·.replaces) <;> rfl

/-- Whether markers of this kind add up. Of those of any other kind the last one counts. -/
def collects : Marker → Bool
  | .listMapKey _ => true
  | _ => false

/-- **A marker counts** among others if none behind it is of its kind, or its kind adds up. -/
def Counts (markers : List Marker) (marker : Marker) : Prop :=
  ∃ before after, markers = before ++ marker :: after ∧
    ∀ later ∈ after, later.kind = marker.kind → marker.collects = true

/-- **A marker stands in facets** if setting its rule again changes nothing. A key of a list map is one of
several and stands where it is among them. -/
def StandsIn (facets : Facets) : Marker → Prop
  | .listMapKey key => key ∈ facets.listMapKeys?.getD []
  | marker => onFacets facets marker = facets

/-- The node that a field's markers about values speak of: the items of a list, if it has items, and
the field's own node otherwise. -/
def valuesNode (isList : Bool) (node : SchemaNode) : SchemaNode :=
  match isList, node.items? with
  | true, some items => items
  | _, _ => node

/-- The node that a marker of a field speaks of. -/
def placeOf (isList : Bool) (node : SchemaNode) (marker : Marker) : SchemaNode :=
  if marker.targetsValue then valuesNode isList node else node

/-- **A node says that its value is an integer or a text**, whatever rules it has besides. -/
structure SaysIntOrString (node : SchemaNode) : Prop where
  /-- There is no single type. -/
  type? : node.type? = none
  /-- There are two of them instead. -/
  anyOf? : node.anyOf? = some [.typed "integer", .typed "string"]
  /-- The node is marked. -/
  marked : node.facets.intOrString? = some true

section Standing

variable {marker : Marker} {node : SchemaNode}

theorem standsIn_iff (h : marker.collects = false) (facets : Facets) :
    StandsIn facets marker ↔ onFacets facets marker = facets := by
  cases marker
  case listMapKey => exact absurd h.symm Bool.false_ne_true
  all_goals exact Iff.rfl

theorem standsIn_onFacets (marker : Marker) (facets : Facets) :
    StandsIn (onFacets facets marker) marker := by
  cases marker
  case listMapKey key => exact List.mem_append_right _ List.mem_cons_self
  all_goals rfl

/-- **A rule that stands is kept** by markers of other kinds, and by all if its kind adds up. Only a
marker of the same kind takes the place of what was set. -/
theorem StandsIn.onFacets {facets : Facets} {other : Marker} (h : StandsIn facets marker)
    (hother : other.kind = marker.kind → marker.collects = true) :
    StandsIn (Marker.onFacets facets other) marker := by
  cases hcollects : marker.collects with
  | false =>
    have hne : marker.kind ≠ other.kind := fun heq =>
      Bool.false_ne_true (hcollects.symm.trans (hother heq.symm))
    rw [standsIn_iff hcollects] at h ⊢
    rw [onFacets_comm hne, h]
  | true =>
    cases marker
    case listMapKey key =>
      cases other
      case listMapKey => exact List.mem_append_left _ h
      all_goals exact h
    all_goals exact absurd hcollects Bool.false_ne_true

theorem StandsIn.foldl {facets : Facets} (h : StandsIn facets marker)
    (hlater : ∀ later ∈ xs, later.kind = marker.kind → marker.collects = true) :
    StandsIn (xs.foldl Marker.onFacets facets) marker := by
  induction xs generalizing facets with
  | nil => exact h
  | cons later rest ih =>
    exact ih (h.onFacets (hlater later List.mem_cons_self))
      fun m hm => hlater m (List.mem_cons_of_mem _ hm)

/-- **A marker that counts stands in the end**, where all of the markers set their rules. The
induction is on the markers behind it, none of which is of its kind unless the kind adds up. -/
theorem Counts.standsIn_foldl (h : Counts xs marker) (facets : Facets) :
    StandsIn (xs.foldl Marker.onFacets facets) marker := by
  obtain ⟨before, after, rfl, hafter⟩ := h
  rw [List.foldl_append, List.foldl_cons]
  exact (standsIn_onFacets marker _).foldl hafter

/-- A marker that counts does so among those that are left by a test. -/
theorem Counts.filter (h : Counts xs marker) {kept : Marker → Bool} (hkept : kept marker = true) :
    Counts (xs.filter kept) marker := by
  obtain ⟨before, after, rfl, hafter⟩ := h
  refine ⟨before.filter kept, after.filter kept, ?_, fun later hlater =>
    hafter later (List.mem_of_mem_filter hlater)⟩
  rw [List.filter_append, List.filter_cons, if_pos hkept]

/-- Whether a marker is about values depends on its kind. -/
theorem targetsValue_eq (marker : Marker) :
    marker.targetsValue = decide (marker.kind ≤ Marker.intOrString.kind) := by
  cases marker <;> rfl

/-- A rule about values stands in the node that gets them. -/
theorem Counts.standsIn_applyToValue (h : Counts xs marker) (hvalue : marker.targetsValue = true)
    (hreplaces : marker.replaces = false) (node : SchemaNode) :
    StandsIn (applyToValue node xs).facets marker := by
  have hkept : (!marker.replaces) = true := by rw [hreplaces]; rfl
  rw [applyToValue_eq_foldl, foldl_apply_eq fun m => replaces_of_mem_filter]
  exact ((h.filter hvalue).filter hkept).standsIn_foldl _

theorem intOrString?_foldl (xs : List Marker) (facets : Facets) :
    (xs.foldl Marker.onFacets facets).intOrString? = facets.intOrString? := by
  induction xs generalizing facets with
  | nil => rfl
  | cons marker rest ih =>
    rw [List.foldl_cons, ih]
    cases marker <;> rfl

/-- **A node that gets a marker for an integer or a text says so**, whatever markers there are besides. -/
theorem saysIntOrString_applyToValue (h : .intOrString ∈ xs) (node : SchemaNode) :
    SaysIntOrString (applyToValue node xs) := by
  have hany : xs.any (·.replaces) = true := List.any_eq_true.mpr ⟨_, h, rfl⟩
  rw [applyToValue_eq_foldl, hany, if_pos rfl, foldl_apply_eq fun m => replaces_of_mem_filter]
  exact ⟨rfl, rfl, intOrString?_foldl _ _⟩

theorem valuesNode_of_items {items : SchemaNode} (h : node.items? = some items) :
    valuesNode true node = items := by
  unfold valuesNode
  rw [h]

theorem valuesNode_of_none (h : node.items? = none) : valuesNode true node = node := by
  unfold valuesNode
  rw [h]

/-- **The node that markers about values speak of gets their rules**, and, where it is the field's own
node, the rules about the field as a whole behind them. -/
theorem exists_valuesNode (isList : Bool) (node : SchemaNode) (xs : List Marker) :
    ∃ (bare : SchemaNode) (others : List Marker), (∀ marker ∈ others, marker.targetsValue = false) ∧
      (valuesNode isList (applyAll isList node xs)).type? = (applyToValue bare xs).type? ∧
      (valuesNode isList (applyAll isList node xs)).anyOf? = (applyToValue bare xs).anyOf? ∧
      (valuesNode isList (applyAll isList node xs)).facets =
        others.foldl Marker.onFacets (applyToValue bare xs).facets := by
  have hothers : ∀ marker ∈ xs.filter (!·.targetsValue), marker.targetsValue = false :=
    fun marker hmarker => by simpa using (List.mem_filter.mp hmarker).2
  have happly : applyAll isList node xs = { applyValues isList node xs with
      facets := (xs.filter (!·.targetsValue)).foldl Marker.onFacets
        (applyValues isList node xs).facets } :=
    foldl_apply_eq (fun m => replaces_of_not_targetsValue) _
  cases isList with
  | false =>
    rw [happly]
    exact ⟨node, _, hothers, rfl, rfl, rfl⟩
  | true =>
    cases hitems : node.items? with
    | some items =>
      have hvalues : applyValues true node xs =
          { node with items? := some (applyToValue items xs) } := by
        unfold applyValues
        rw [hitems]
      have hown : (applyAll true node xs).items? = some (applyToValue items xs) := by
        rw [happly, hvalues]
      rw [valuesNode_of_items hown]
      exact ⟨items, [], fun _ h => absurd h List.not_mem_nil, rfl, rfl, rfl⟩
    | none =>
      -- The items are no schema, so they are set aside, and the rules are about the list itself.
      have hvalues : applyValues true node xs =
          { applyToValue { node with others := eraseKey "items" node.others } xs with
            others := (applyValues true node xs).others } := by
        unfold applyValues
        rw [hitems]
      have hown : (applyAll true node xs).items? = none := by
        rw [happly, hvalues, applyToValue_eq_foldl, foldl_apply_eq fun m => replaces_of_mem_filter]
        dsimp only
        split
        · rfl
        · exact hitems
      rw [valuesNode_of_none hown, happly, hvalues]
      exact ⟨_, _, hothers, rfl, rfl, rfl⟩

/-- **A marker that counts stands in the node that it speaks of**, unless it replaces this node. -/
theorem standsIn_applyAll (h : Counts xs marker) (hreplaces : marker.replaces = false)
    (isList : Bool) (node : SchemaNode) :
    StandsIn (placeOf isList (applyAll isList node xs) marker).facets marker := by
  unfold placeOf
  cases hvalue : marker.targetsValue with
  | false =>
    rw [if_neg Bool.false_ne_true, applyAll, foldl_apply_eq fun m => replaces_of_not_targetsValue]
    exact (h.filter (by rw [hvalue]; rfl)).standsIn_foldl _
  | true =>
    obtain ⟨bare, others, hothers, -, -, hfacets⟩ := exists_valuesNode isList node xs
    rw [if_pos rfl, hfacets]
    refine (h.standsIn_applyToValue hvalue hreplaces bare).foldl fun later hlater hkind => ?_
    have hlater' := hothers later hlater
    rw [targetsValue_eq, hkind, ← targetsValue_eq, hvalue] at hlater'
    cases hlater'

/-- **Where one marker is for an integer or a text, the node says so**: it is not undone by the others. -/
theorem saysIntOrString_applyAll (h : .intOrString ∈ xs) (isList : Bool) (node : SchemaNode) :
    SaysIntOrString (valuesNode isList (applyAll isList node xs)) := by
  obtain ⟨bare, others, -, htype, hany, hfacets⟩ := exists_valuesNode isList node xs
  obtain ⟨htype', hany', hmarked⟩ := saysIntOrString_applyToValue h bare
  refine ⟨htype.trans htype', hany.trans hany', ?_⟩
  rw [hfacets, intOrString?_foldl, hmarked]

end Standing

/-! ## Lines -/

/-- The marker in a line, if it can be read and is known. -/
def ofLine? (line : String) : Option Marker := (parse line).toOption.join

/-- The markers of lines are those in them. -/
theorem eq_filterMap_of_parseAll {markers : List Marker}
    (h : parseAll isList path raw = .ok markers) : markers = raw.filterMap ofLine? := by
  induction raw generalizing markers with
  | nil => exact (Except.ok.inj h).symm
  | cons line rest ih =>
    rw [List.filterMap_cons, ofLine?]
    unfold parseAll at h
    cases hparse : parse line with
    | error fault => rw [hparse] at h; cases h
    | ok marker? =>
      rw [hparse] at h
      cases marker? with
      | none => exact ih h
      | some marker =>
        have hmarker : (if (marker.requiresList && !isList) = true then
            Except.error (CrdError.invalidMarker line path .listOnly)
          else do
            let others ← parseAll isList path rest
            pure (marker :: others)) = .ok markers := h
        split at hmarker
        · cases hmarker
        · obtain ⟨others, hothers, hmarker⟩ := Outcome.bind_eq_ok.mp hmarker
          obtain rfl := Outcome.pure_eq_ok.mp hmarker
          exact congrArg _ (ih hothers)

/-- Lines can be read in any order if they can be read in one. -/
theorem exists_parseAll_of_perm (hperm : raw.Perm raw')
    (h : ∃ markers, parseAll isList path raw = .ok markers) :
    ∃ markers, parseAll isList path raw' = .ok markers :=
  exists_parseAll_iff.mpr fun line hline => exists_parseAll_iff.mp h line (hperm.mem_iff.mpr hline)

/-- The kind of the marker in a line, if there is one. -/
def kindOfLine? (line : String) : Option Nat := (ofLine? line).map kind

/-- Lines with the same markers of each kind in the same order. -/
theorem sameByKind_of_lines
    (h : ∀ k, raw.filter (kindOfLine? · = some k) = raw'.filter (kindOfLine? · = some k)) :
    SameByKind kind (raw.filterMap ofLine?) (raw'.filterMap ofLine?) := by
  have hfilter (lines : List String) (k : Nat) : (lines.filterMap ofLine?).filter (kind · = k)
      = (lines.filter (kindOfLine? · = some k)).filterMap ofLine? := by
    rw [List.filter_filterMap, List.filterMap_filter]
    refine List.filterMap_congr fun line _ => ?_
    unfold kindOfLine?
    cases ofLine? line with
    | none => rfl
    | some marker => by_cases hk : marker.kind = k <;> simp [hk]
  intro k
  rw [hfilter, hfilter, h k]

theorem run_applyHere_of_error {e : CrdError} (h : parseAll isList path raw = .error e)
    (node : SchemaNode) : (applyHere isList path raw).run node = .error e node := by
  unfold applyHere
  rw [h]
  rfl

theorem run_applyHere_of_ok {markers : List Marker} (h : parseAll isList path raw = .ok markers)
    (node : SchemaNode) : (applyHere isList path raw).run node
      = .ok (required markers) (applyAll isList node markers) := by
  unfold applyHere
  rw [h]
  rfl

/-- **The order of markers of different kinds does not matter, and a bad marker changes nothing.**
Take the marker lines of a field in two orders in which the markers of each kind come one after the
other in the same way, and any node. Either both orders can be applied, and what becomes of the
node and whether the field is required is the same, or neither can be, and the node is left alone.

Of all lines that can be applied, the markers that count stand in the end, each in the node that it
speaks of, which for markers about the values of a list are its items. So the marker that makes such a
node an integer or a text does not throw away what another one sets, wherever the two are written, and
the node is an integer or a text beside that. Lines that cannot be applied leave the node alone. -/
theorem applyHere_reordered (hperm : raw.Perm raw')
    (hkinds : ∀ k, raw.filter (kindOfLine? · = some k) = raw'.filter (kindOfLine? · = some k)) :
    (∀ node, (∃ required own, (applyHere isList path raw).run node = .ok required own ∧
          (applyHere isList path raw').run node = .ok required own) ∨
        ∃ e e', (applyHere isList path raw).run node = .error e node ∧
          (applyHere isList path raw').run node = .error e' node) ∧
      (∀ lines node required own, (applyHere isList path lines).run node = .ok required own →
        (∀ marker, Counts (lines.filterMap ofLine?) marker → marker.replaces = false →
          StandsIn (placeOf isList own marker).facets marker) ∧
        (.intOrString ∈ lines.filterMap ofLine? → SaysIntOrString (valuesNode isList own))) ∧
      ∀ lines node e left, (applyHere isList path lines).run node = .error e left →
        left = node := by
  refine ⟨fun node => ?_, fun lines node needed own h => ?_, fun lines node e left h => ?_⟩
  · cases hraw : parseAll isList path raw with
    | ok markers =>
      obtain ⟨markers', hraw'⟩ := exists_parseAll_of_perm hperm ⟨markers, hraw⟩
      have hsame : SameByKind kind markers markers' := by
        rw [eq_filterMap_of_parseAll hraw, eq_filterMap_of_parseAll hraw']
        exact sameByKind_of_lines hkinds
      refine .inl ⟨_, _, run_applyHere_of_ok hraw node, ?_⟩
      rw [run_applyHere_of_ok hraw', required_eq hsame, applyAll_eq hsame]
    | error e =>
      cases hraw' : parseAll isList path raw' with
      | ok markers' =>
        obtain ⟨markers, h⟩ := exists_parseAll_of_perm hperm.symm ⟨markers', hraw'⟩
        cases hraw.symm.trans h
      | error e' =>
        exact .inr ⟨e, e', run_applyHere_of_error hraw node, run_applyHere_of_error hraw' node⟩
  · cases hlines : parseAll isList path lines with
    | ok markers =>
      rw [run_applyHere_of_ok hlines] at h
      cases h
      rw [← eq_filterMap_of_parseAll hlines]
      exact ⟨fun marker hcounts hreplaces => standsIn_applyAll hcounts hreplaces isList node,
        fun hmem => saysIntOrString_applyAll hmem isList node⟩
    | error fault =>
      rw [run_applyHere_of_error hlines] at h
      cases h
  · cases hlines : parseAll isList path lines with
    | ok markers =>
      rw [run_applyHere_of_ok hlines] at h
      cases h
    | error fault =>
      rw [run_applyHere_of_error hlines] at h
      cases h
      rfl

/-- Two lines of different kinds can change places. -/
theorem filter_swap {line other : String} (hne : kindOfLine? line ≠ kindOfLine? other)
    (rest : List String) (k : Nat) :
    (line :: other :: rest).filter (kindOfLine? · = some k)
      = (other :: line :: rest).filter (kindOfLine? · = some k) := by
  by_cases hline : kindOfLine? line = some k
  · have hother : kindOfLine? other ≠ some k := fun h => hne (hline.trans h.symm)
    simp [hline, hother]
  · simp [List.filter_cons, hline]

/-- A lower bound before the marker that replaces the node, and behind it an upper bound that is given
twice. -/
def boundThenPort : List String :=
  ["+kubebuilder:validation:Minimum=1", "+kubebuilder:validation:XIntOrString",
    "+kubebuilder:validation:Maximum=9", "+kubebuilder:validation:Maximum=10"]

/-- The same markers, with the one that replaces the node before the others. -/
def portThenBound : List String :=
  ["+kubebuilder:validation:XIntOrString", "+kubebuilder:validation:Minimum=1",
    "+kubebuilder:validation:Maximum=9", "+kubebuilder:validation:Maximum=10"]

theorem markers_boundThenPort : boundThenPort.filterMap ofLine? =
    [.minimum (.ofInt 1), .intOrString, .maximum (.ofInt 9), .maximum (.ofInt 10)] := by
  unfold boundThenPort
  rfl

/-- Both orders give a number, and the items of a list of numbers, the same bounds, and make them
integers or texts. -/
theorem applyHere_reordered_port : boundThenPort.Perm portThenBound ∧
    (∀ k, boundThenPort.filter (kindOfLine? · = some k)
      = portThenBound.filter (kindOfLine? · = some k)) ∧
    (∃ required own,
      (applyHere false "Demo.port" boundThenPort).run (.typed "integer") = .ok required own ∧
      (applyHere false "Demo.port" portThenBound).run (.typed "integer") = .ok required own ∧
      own.facets.minimum? = some (.ofInt 1) ∧ own.facets.maximum? = some (.ofInt 10) ∧
      SaysIntOrString own) ∧
    ∃ required own items,
      (applyHere true "Demo.ports" boundThenPort).run (.arrayOf (.typed "integer")) =
        .ok required own ∧
      (applyHere true "Demo.ports" portThenBound).run (.arrayOf (.typed "integer")) =
        .ok required own ∧
      own.items? = some items ∧
      items.facets.minimum? = some (.ofInt 1) ∧ items.facets.maximum? = some (.ofInt 10) ∧
      SaysIntOrString items := by
  have hperm : boundThenPort.Perm portThenBound := .swap _ _ _
  have hkinds : ∀ k, boundThenPort.filter (kindOfLine? · = some k)
      = portThenBound.filter (kindOfLine? · = some k) := filter_swap (by decide +kernel) _
  have hminimum : Counts (boundThenPort.filterMap ofLine?) (.minimum (.ofInt 1)) :=
    ⟨[], _, markers_boundThenPort, by decide⟩
  have hmaximum : Counts (boundThenPort.filterMap ofLine?) (.maximum (.ofInt 10)) :=
    ⟨[.minimum (.ofInt 1), .intOrString, .maximum (.ofInt 9)], [], markers_boundThenPort, nofun⟩
  have hmember : .intOrString ∈ boundThenPort.filterMap ofLine? := by
    rw [markers_boundThenPort]
    exact List.mem_cons_of_mem _ List.mem_cons_self
  have happlied (isList : Bool) (path : String) (node : SchemaNode)
      (hread : (parseAll isList path boundThenPort).toOption.isSome = true) :
      ∃ required own, (applyHere isList path boundThenPort).run node = .ok required own ∧
        (applyHere isList path portThenBound).run node = .ok required own ∧
        own = applyAll isList node (boundThenPort.filterMap ofLine?) ∧
        (valuesNode isList own).facets.minimum? = some (.ofInt 1) ∧
        (valuesNode isList own).facets.maximum? = some (.ofInt 10) ∧
        SaysIntOrString (valuesNode isList own) := by
    obtain ⟨hsame, hstands, -⟩ := @applyHere_reordered isList path _ _ hperm hkinds
    obtain ⟨markers, hmarkers⟩ := Option.isSome_iff_exists.mp hread
    have hparse := Outcome.toOption_eq_some.mp hmarkers
    have hresult := run_applyHere_of_ok hparse node
    rcases hsame node with ⟨required, own, hrun, hrun'⟩ | ⟨e, e', h, -⟩
    · obtain ⟨hrules, hint⟩ := hstands _ _ _ _ hrun
      have hlower := hrules _ hminimum rfl
      have hupper := hrules _ hmaximum rfl
      have hown : own = applyAll isList node (boundThenPort.filterMap ofLine?) := by
        rw [hrun] at hresult
        cases hresult
        rw [eq_filterMap_of_parseAll hparse]
      exact ⟨required, own, hrun, hrun', hown, (congrArg Facets.minimum? hlower).symm,
        (congrArg Facets.maximum? hupper).symm, hint hmember⟩
    · rw [hresult] at h
      cases h
  obtain ⟨required, own, hrun, hrun', -, hport⟩ :=
    happlied false "Demo.port" (.typed "integer") (by decide +kernel)
  refine ⟨hperm, hkinds, ⟨required, own, hrun, hrun', hport⟩, ?_⟩
  obtain ⟨required, own, hrun, hrun', hown, hvalues⟩ :=
    happlied true "Demo.ports" (.arrayOf (.typed "integer")) (by decide +kernel)
  -- Markers leave a list a list.
  obtain ⟨items, hitems⟩ : ∃ items, own.items? = some items := by
    rw [hown, markers_boundThenPort]
    exact ⟨_, rfl⟩
  rw [valuesNode_of_items hitems] at hvalues
  exact ⟨required, own, items, hrun, hrun', hitems, hvalues⟩

end Marker
end ChartSchema
