import ChartSchema.Proofs.Compatibility.Places
import ChartSchema.Proofs.Compatibility.RuleChanges
import ChartSchema.Proofs.Number.Rounding
/-!
# Bounds that are counts

Lengths, items and members are counted, and a bound on them is a whole number of 64 bits. Where such
a bound admits less than before, a comparison should say that validation is tightened. It compares
bounds as binary64 numbers, and so it does wherever the two bounds are rounded to different numbers:
always if one of them is below `2 ^ 53`, but not for every pair of larger ones. What
`Rules.tightened_count_told` says of the rules of two properties, `CrdView.tightened_count_told` says
of two definitions, at every location that is compared.
-/

namespace ChartSchema

open Binary64 (nearest ofInt)

/-! ## Counts that a bound allows -/

namespace Side

/-- A bound on a side allows a count. -/
def Allows : Side → Nat → Nat → Prop
  | .lower, limit, n => limit ≤ n
  | .upper, limit, n => n ≤ limit

/-- A bound that may be absent allows a count. -/
def AllowsCount (side : Side) (limit? : Option Nat) (n : Nat) : Prop :=
  ∀ limit, limit? = some limit → side.Allows limit n

/-- A bound is stricter than another one on the same side. -/
def Stricter : Side → Nat → Nat → Prop
  | .lower, old, new => old < new
  | .upper, old, new => new < old

variable {side : Side} {old? new? : Option Nat} {n : Nat}

/-- Where a count is refused that was allowed, there is a bound now, and it is stricter than the
earlier one, if there was one. -/
theorem exists_stricter (hallowed : side.AllowsCount old? n)
    (hrefused : ¬ side.AllowsCount new? n) :
    ∃ new, new? = some new ∧ ∀ old, old? = some old → side.Stricter old new := by
  obtain ⟨new, hrefused⟩ := not_forall.mp hrefused
  obtain ⟨hnew, hnot⟩ := Classical.not_imp.mp hrefused
  refine ⟨new, hnew, fun old hold => ?_⟩
  have hold := hallowed old hold
  cases side
  · exact lt_of_le_of_lt hold (Nat.lt_of_not_le hnot)
  · exact lt_of_lt_of_le (Nat.lt_of_not_le hnot) hold

end Side

/-! ## Changes of a count -/

namespace Rules

variable {rule : String} {side : Side} {old? new? : Option Nat} {a b n : Nat}

/-- **Two counts have a change** exactly if they are rounded to different numbers. Counts below 2⁶⁴
that are rounded to different numbers are at least one apart then, far more than the distance from
which numbers are told apart. -/
theorem countChange_some (ha : a < 2 ^ 64) (hb : b < 2 ^ 64) :
    countChange rule side (some a) (some b) = if nearest a = nearest b then []
      else [.boundChanged rule side (some (ofInt a)) (some (ofInt b))] := by
  have hfar := Binary64.epsilon_lt_abs_sub_iff ha hb
  unfold countChange boundChange
  dsimp only [Option.map_some]
  split
  · next h => rw [if_neg (hfar.mp h)]
  · next h => rw [if_pos (not_not.mp (mt hfar.mpr h))]

/-- A change to a stricter count tightens validation, if the two are rounded to different
numbers. -/
theorem kind_boundChanged_of_stricter (ha : a < 2 ^ 64) (hb : b < 2 ^ 64)
    (h : side.Stricter a b) (hne : nearest a ≠ nearest b) :
    (PropertyChange.boundChanged rule side (some (ofInt a)) (some (ofInt b))).kind
      = .tightenValidation := by
  cases side
  · have hlt := lt_of_le_of_ne (Binary64.nearest_mono (Nat.le_of_lt h)) hne
    show PropertyChange.ruleKind ((ofInt a).lt (ofInt b)) = _
    rw [(Binary64.ofInt_lt_iff ha hb).mpr hlt]
    rfl
  · have hlt := lt_of_le_of_ne (Binary64.nearest_mono (Nat.le_of_lt h)) hne.symm
    show PropertyChange.ruleKind ((ofInt b).lt (ofInt a)) = _
    rw [(Binary64.ofInt_lt_iff hb ha).mpr hlt]
    rfl

/-- Of different counts that are rounded to one number none is below `2 ^ 53`. -/
theorem large_of_nearest_eq (hne : a ≠ b) (h : nearest a = nearest b) : 2 ^ 53 ≤ a := by
  by_contra hsmall
  have ha : nearest a = a := Binary64.nearest_of_le (Nat.le_of_not_le hsmall)
  rcases Nat.le_total b (2 ^ 53) with hb | hb
  · exact hne (ha.symm.trans (h.trans (Binary64.nearest_of_le hb)))
  · have hlarge : 2 ^ 53 ≤ nearest b :=
      (Binary64.nearest_of_le le_rfl).symm.le.trans (Binary64.nearest_mono hb)
    rw [← h, ha] at hlarge
    exact hsmall hlarge

/-- **A stricter count is told of, or cannot be told from the earlier one.** Where a count is refused
that was allowed, there is one change and it tightens validation, unless both bounds have at least
54 bits and are rounded to one number; then there is none. -/
theorem countChange_of_refused (hold : ∀ a, old? = some a → a < 2 ^ 64)
    (hnew : ∀ b, new? = some b → b < 2 ^ 64) (hallowed : side.AllowsCount old? n)
    (hrefused : ¬ side.AllowsCount new? n) :
    (∃ change, countChange rule side old? new? = [change] ∧ change.kind = .tightenValidation) ∨
      ∃ a b, old? = some a ∧ new? = some b ∧ 2 ^ 53 ≤ a ∧ 2 ^ 53 ≤ b ∧ nearest a = nearest b ∧
        countChange rule side old? new? = [] := by
  obtain ⟨b, rfl, hstricter⟩ := Side.exists_stricter hallowed hrefused
  cases old? with
  | none => exact .inl ⟨_, rfl, rfl⟩
  | some a =>
    have ha := hold a rfl
    have hb := hnew b rfl
    have hstrict := hstricter a rfl
    have hne : a ≠ b := by cases side <;> exact (by simp only [Side.Stricter] at hstrict; omega)
    rw [countChange_some ha hb]
    split
    · next heq =>
      exact .inr ⟨a, b, rfl, rfl, large_of_nearest_eq hne heq,
        large_of_nearest_eq hne.symm heq.symm, heq, rfl⟩
    · next hdifferent =>
      exact .inl ⟨_, rfl, kind_boundChanged_of_stricter ha hb hstrict hdifferent⟩

end Rules

/-! ## The rules that count -/

/-- The rules that are bounds on a count. -/
inductive CountRule where
  /-- The least length of a text. -/
  | minLength
  /-- The largest length of a text. -/
  | maxLength
  /-- The least number of items. -/
  | minItems
  /-- The largest number of items. -/
  | maxItems
  /-- The least number of members. -/
  | minProperties
  /-- The largest number of members. -/
  | maxProperties
  deriving DecidableEq

namespace CountRule

/-- The name of a rule. -/
def name : CountRule → String
  | .minLength => "minLength"
  | .maxLength => "maxLength"
  | .minItems => "minItems"
  | .maxItems => "maxItems"
  | .minProperties => "minProperties"
  | .maxProperties => "maxProperties"

/-- The side on which a rule limits. -/
def side : CountRule → Side
  | .minLength | .minItems | .minProperties => .lower
  | .maxLength | .maxItems | .maxProperties => .upper

/-- The bound that rules have. -/
def limit? (rules : Rules) : CountRule → Option Nat
  | .minLength => rules.minLength?
  | .maxLength => rules.maxLength?
  | .minItems => rules.minItems?
  | .maxItems => rules.maxItems?
  | .minProperties => rules.minProperties?
  | .maxProperties => rules.maxProperties?

end CountRule

namespace Rules

variable {old new : Rules}

/-- **The changes about a count** are those that comparing its two bounds gives. Every other rule
gives changes that are about something else. -/
theorem filter_about_count (rule : CountRule) :
    (old.changes new).filter (·.about = .bound rule.name)
      = countChange rule.name rule.side (rule.limit? old) (rule.limit? new) := by
  have hother {changes : List PropertyChange} (h : ∀ change ∈ changes, change.about = .rule) :
      changes.filter (·.about = .bound rule.name) = [] := by
    rw [PropertyChange.filter_about h, if_neg ChangeSubject.noConfusion]
  have hbound (name : String) (side : Side) (old? new? : Option Binary64) :
      (boundChange name side old? new?).filter (·.about = .bound rule.name)
        = if name = rule.name then boundChange name side old? new? else [] := by
    rw [PropertyChange.filter_about fun _ => about_of_mem_boundChange]
    exact if_congr (iff_of_eq (ChangeSubject.bound.injEq ..)) rfl rfl
  rw [changes, validationChanges]
  simp only [countChange, List.filter_append, hbound,
    hother fun _ => about_of_mem_defaultChange, hother fun _ => about_of_mem_descriptionChange,
    hother fun _ => about_of_mem_textChange, hother fun _ => about_of_mem_flagChange,
    hother fun _ => about_of_mem_multipleChange, hother fun _ => about_of_mem_enumChanges,
    hother fun _ => about_of_mem_unknownPruned]
  cases rule <;> simp [CountRule.name, CountRule.side, CountRule.limit?]

/-- **No tightened count is missed where it can be told.** Take rules with bounds of 64 bits. If a
count is refused that was allowed, there is one change about its bound and it tightens validation,
unless both bounds have at least 54 bits and are rounded to one number. If the two bounds are the
same, there is no change about them. -/
theorem tightened_count_told (rule : CountRule) (hold : ∀ a, rule.limit? old = some a → a < 2 ^ 64)
    (hnew : ∀ b, rule.limit? new = some b → b < 2 ^ 64) :
    (∀ n, rule.side.AllowsCount (rule.limit? old) n →
      ¬ rule.side.AllowsCount (rule.limit? new) n →
        (∃ change, (old.changes new).filter (·.about = .bound rule.name) = [change] ∧
          change.kind = .tightenValidation) ∨
        ∃ a b, rule.limit? old = some a ∧ rule.limit? new = some b ∧ 2 ^ 53 ≤ a ∧ 2 ^ 53 ≤ b ∧
          nearest a = nearest b ∧ (old.changes new).filter (·.about = .bound rule.name) = []) ∧
      (rule.limit? old = rule.limit? new →
        (old.changes new).filter (·.about = .bound rule.name) = []) := by
  rw [filter_about_count]
  refine ⟨fun n => countChange_of_refused hold hnew, fun heq => ?_⟩
  rw [heq]
  exact boundChange_self _ _ _

end Rules

/-! ## Definitions -/

/-- Between two properties the changes about a bound are those of their rules. -/
theorem Property.filter_about_bound (p q : Property) (rule : String) :
    (ownChanges false p q).filter (·.about = .bound rule)
      = (p.rules.changes q.rules).filter (·.about = .bound rule) := by
  have hmap {α : Type} {xs : List α} {tell : α → PropertyChange}
      (htell : ∀ x, (tell x).about ≠ .bound rule) :
      (xs.map tell).filter (·.about = .bound rule) = [] := by
    refine PropertyChange.filter_about_eq_nil fun c hc => ?_
    obtain ⟨x, -, rfl⟩ := List.mem_map.mp hc
    exact htell x
  have htype : (typeChange p.type q.type).filter (·.about = .bound rule) = [] := by
    rw [PropertyChange.filter_about fun _ => about_of_mem_typeChange,
      if_neg ChangeSubject.noConfusion]
  rw [ownChanges, if_neg Bool.false_ne_true, removedFields, addedFields, requiredFields,
    List.filter_append, List.filter_append, List.filter_append, List.filter_append, htype,
    hmap fun _ => ChangeSubject.noConfusion, hmap fun _ => ChangeSubject.noConfusion,
    hmap fun _ => ChangeSubject.noConfusion, List.append_nil, List.append_nil, List.append_nil,
    List.nil_append]

namespace Change

/-- Whether a change is one of a bound of the property at a location. -/
def isOfBound (version : String) (path : SchemaPath) (rule : String) : Change → Bool
  | .property v p change => v == version && p == path && change.about = .bound rule
  | _ => false

/-- The changes of a bound are among those of the property that it is a bound of. -/
theorem filter_isOfBound (changes : List Change) (version : String) (path : SchemaPath)
    (rule : String) : changes.filter (·.isOfBound version path rule)
      = (changes.filter (·.isAt version path)).filter (·.isOfBound version path rule) := by
  rw [List.filter_filter]
  refine List.filter_congr fun change _ => ?_
  cases change with
  | property v p c =>
    show _ = ((v == version && p == path && _) && (v == version && p == path))
    rw [Bool.and_right_comm, Bool.and_self]
    rfl
  | _ => rfl

end Change

namespace CrdView

variable {old new : CrdView} {version : String} {path : SchemaPath} {p q : Property}

/-- **What is told of a count at a location that is compared**, but for the root, is what comparing
its two bounds gives. -/
theorem filter_isOfBound_changes (hold : (old.versions.map (·.name)).Nodup)
    (hnew : (new.versions.map (·.name)).Nodup) (hkeys : old.KeysDistinct)
    (h : Compared old new version path p q) (hpath : path ≠ []) (rule : CountRule) :
    (old.changes new).filter (·.isOfBound version path rule.name)
      = (Rules.countChange rule.name rule.side (rule.limit? p.rules) (rule.limit? q.rules)).map
        (.property version path) := by
  have hinner : path.isEmpty = false := Bool.eq_false_iff.mpr fun h => hpath (List.isEmpty_iff.mp h)
  have hat (c : PropertyChange) : (Change.property version path c).isOfBound version path rule.name
      = decide (c.about = .bound rule.name) := by
    show (version == version && path == path && _) = _
    rw [beq_self_eq_true, beq_self_eq_true, Bool.and_self, Bool.true_and]
  rw [Change.filter_isOfBound, filter_changes hold hnew hkeys h, hinner, List.filter_map,
    show ((·.isOfBound version path rule.name) ∘ Change.property version path) = _ from funext hat,
    Property.filter_about_bound, Rules.filter_about_count]

/-- **No tightened count is missed where it can be told**, at any location that is compared but the
root: if a count is refused there that was allowed, the analysis has one change about its bound and
it tightens validation, unless both bounds have at least 54 bits and are rounded to one number. If
the two bounds are the same, it has no change about them. -/
theorem tightened_count_told (hold : (old.versions.map (·.name)).Nodup)
    (hnew : (new.versions.map (·.name)).Nodup) (hkeys : old.KeysDistinct)
    (h : Compared old new version path p q) (hpath : path ≠ []) (rule : CountRule)
    (hp : ∀ a, rule.limit? p.rules = some a → a < 2 ^ 64)
    (hq : ∀ b, rule.limit? q.rules = some b → b < 2 ^ 64) :
    (∀ n, rule.side.AllowsCount (rule.limit? p.rules) n →
      ¬ rule.side.AllowsCount (rule.limit? q.rules) n →
        (∃ change, (Analysis.compare (some old) new).changes.filter
            (·.isOfBound version path rule.name) = [change] ∧ change.kind = .tightenValidation) ∨
        ∃ a b, rule.limit? p.rules = some a ∧ rule.limit? q.rules = some b ∧ 2 ^ 53 ≤ a ∧
          2 ^ 53 ≤ b ∧ nearest a = nearest b) ∧
      (rule.limit? p.rules = rule.limit? q.rules →
        (Analysis.compare (some old) new).changes.filter (·.isOfBound version path rule.name)
          = []) := by
  have hfilter : (Analysis.compare (some old) new).changes.filter
      (·.isOfBound version path rule.name) = _ :=
    filter_isOfBound_changes hold hnew hkeys h hpath rule
  rw [hfilter]
  refine ⟨fun n hallowed hrefused => ?_, fun heq => ?_⟩
  · rcases Rules.countChange_of_refused hp hq hallowed hrefused with
      ⟨change, hchange, hkind⟩ | ⟨a, b, ha, hb, hlarge, hlarge', hnearest, -⟩
    · exact .inl ⟨.property version path change, by rw [hchange]; rfl, hkind⟩
    · exact .inr ⟨a, b, ha, hb, hlarge, hlarge', hnearest⟩
  · rw [heq]
    exact congrArg (List.map _) (Rules.boundChange_self _ _ _)

end CrdView
end ChartSchema
