import ChartSchema.Proofs.Compatibility.Changes
import ChartSchema.Proofs.Compatibility.NodeView
import ChartSchema.Proofs.JsonSchema.Conformance
/-!
# Rules that are relaxed

A safe change of a rule drops the rule, keeps it, or moves it outwards. `Rules.Relaxes` says this
rule by rule, and `Rules.relaxes_of_changes` that it holds wherever all changes of the rules are
safe. There is one reservation: bounds that are closer to each other than one is to the next float
count as equal when they are compared, and counts are compared as floats. So a bound is only known
not to have moved inwards where the comparison tells the two apart (`Rules.BoundRelaxes`).
-/

namespace ChartSchema

/-- A change after which resources that were valid stay valid. -/
def PropertyChange.IsSafe (change : PropertyChange) : Prop := change.kind.severity = .safe

/-- Two numbers are further from each other than one is from the next larger float. -/
def Binary64.IsFarFrom (x y : Binary64) : Prop := Binary64.epsilon.lt (x.sub y).abs = true

namespace Rules

/-! ## What safe changes say -/

/-- **A bound is dropped, or there was one and it did not move inwards** as far as the comparison
sees. -/
def BoundRelaxes (side : Side) (old? new? : Option Binary64) : Prop :=
  ∀ new, new? = some new → ∃ old, old? = some old ∧ (old.IsFarFrom new →
    match side with
    | .lower => old.lt new = false
    | .upper => new.lt old = false)

/-- A bound that is a count is dropped, or it did not move inwards as far as the comparison
sees. -/
def CountRelaxes (side : Side) (old? new? : Option Nat) : Prop :=
  BoundRelaxes side (old?.map fun n : Nat => .ofInt n) (new?.map fun n : Nat => .ofInt n)

/-- **Rules are relaxed**: none is new, and none became narrower as far as the comparison sees. -/
structure Relaxes (old new : Rules) : Prop where
  /-- An expression was there before. -/
  pattern : ∀ text, new.pattern? = some text → old.pattern? = some text
  /-- A format was there before. -/
  format : ∀ name, new.format? = some name → old.format? = some name
  /-- The least number did not become larger. -/
  minimum : BoundRelaxes .lower old.minimum? new.minimum?
  /-- The largest number did not become smaller. -/
  maximum : BoundRelaxes .upper old.maximum? new.maximum?
  /-- The least number was excluded before if it is now. -/
  exclusiveMinimum : new.exclusiveMinimum = true → old.exclusiveMinimum = true
  /-- The largest number was excluded before if it is now. -/
  exclusiveMaximum : new.exclusiveMaximum = true → old.exclusiveMaximum = true
  /-- What numbers are multiples of is the same number. -/
  multipleOf : ∀ new', new.multipleOf? = some new' →
    ∃ old', old.multipleOf? = some old' ∧ old'.eq new' = true
  /-- The least length did not become larger. -/
  minLength : CountRelaxes .lower old.minLength? new.minLength?
  /-- The largest length did not become smaller. -/
  maxLength : CountRelaxes .upper old.maxLength? new.maxLength?
  /-- The least number of items did not become larger. -/
  minItems : CountRelaxes .lower old.minItems? new.minItems?
  /-- The largest number of items did not become smaller. -/
  maxItems : CountRelaxes .upper old.maxItems? new.maxItems?
  /-- Items differed before if they have to now. -/
  uniqueItems : new.uniqueItems = true → old.uniqueItems = true
  /-- The least number of members did not become larger. -/
  minProperties : CountRelaxes .lower old.minProperties? new.minProperties?
  /-- The largest number of members did not become smaller. -/
  maxProperties : CountRelaxes .upper old.maxProperties? new.maxProperties?
  /-- Null is still allowed. -/
  nullable : old.nullable = true → new.nullable = true
  /-- Where values are listed, values were listed before, and their texts are still there. -/
  enum : ∀ after, new.enum? = some after → ∃ before, old.enum? = some before ∧
    ∀ v ∈ before, ∃ w ∈ after, w.compact = v.compact

/-- A rule that makes what is admitted narrower is not safe. -/
theorem not_isSafe_tighter : (PropertyChange.ruleKind true).severity ≠ .safe := by decide

/-- A text that is a rule was there before, if its change is safe. -/
theorem eq_of_textChange {rule : String} {old? new? : Option String}
    (h : ∀ change ∈ textChange rule old? new?, change.IsSafe) (text : String)
    (htext : new? = some text) : old? = some text := by
  unfold textChange at h
  split at h
  · next heq => exact (beq_iff_eq.mp heq).trans htext
  · have hsafe := h _ List.mem_cons_self
    rw [PropertyChange.IsSafe, PropertyChange.kind, htext] at hsafe
    exact absurd hsafe not_isSafe_tighter

/-- A rule that holds was there before, if its change is safe. -/
theorem imp_of_flagChange {rule : String} {old new : Bool}
    (h : ∀ change ∈ flagChange rule old new, change.IsSafe) (hnew : new = true) : old = true := by
  unfold flagChange at h
  split at h
  · next heq => exact (beq_iff_eq.mp heq).trans hnew
  · have hsafe := h _ List.mem_cons_self
    rw [PropertyChange.IsSafe, PropertyChange.kind, hnew] at hsafe
    exact absurd hsafe not_isSafe_tighter

/-- **A bound whose change is safe is relaxed.** A bound that is new is never safe, and of two
bounds the later one is the wider one, or they are too close to be told apart. -/
theorem boundRelaxes_of_boundChange {rule : String} {side : Side} {old? new? : Option Binary64}
    (h : ∀ change ∈ boundChange rule side old? new?, change.IsSafe) :
    BoundRelaxes side old? new? := by
  rintro new rfl
  cases old? with
  | none => exact absurd (h _ List.mem_cons_self) not_isSafe_tighter
  | some old =>
    refine ⟨old, rfl, fun hfar => ?_⟩
    rw [Binary64.IsFarFrom] at hfar
    rw [boundChange, if_pos hfar] at h
    have hkept (tighter : Bool) (hsafe : (PropertyChange.ruleKind tighter).severity = .safe) :
        tighter = false := by
      cases tighter with
      | false => rfl
      | true => exact absurd hsafe not_isSafe_tighter
    cases side with
    | lower => exact hkept _ (h _ List.mem_cons_self)
    | upper => exact hkept _ (h _ List.mem_cons_self)

/-- What numbers are multiples of is the same as before, if its change is safe. -/
theorem eq_of_multipleChange {old? new? : Option Binary64}
    (h : ∀ change ∈ multipleChange old? new?, change.IsSafe) (new : Binary64)
    (hnew : new? = some new) : ∃ old, old? = some old ∧ old.eq new = true := by
  subst hnew
  cases old? with
  | none => exact absurd (h _ List.mem_cons_self) not_isSafe_tighter
  | some old =>
    refine ⟨old, rfl, ?_⟩
    by_contra hne
    unfold multipleChange at h
    rw [if_neg hne] at h
    exact not_isSafe_tighter (h _ List.mem_cons_self)

/-- Where values are listed, their change being safe, values were listed before and their texts are
still there. -/
theorem mem_of_enumChanges {old new : Rules}
    (h : ∀ change ∈ enumChanges old new, change.IsSafe) (after : List Json)
    (hafter : new.enum? = some after) : ∃ before, old.enum? = some before ∧
      ∀ v ∈ before, ∃ w ∈ after, w.compact = v.compact := by
  unfold enumChanges at h
  rw [hafter] at h
  cases hbefore : old.enum? with
  | none =>
    rw [hbefore] at h
    exact absurd (h _ List.mem_cons_self) not_isSafe_tighter
  | some before =>
    refine ⟨before, rfl, fun v hv => ?_⟩
    rw [hbefore] at h
    dsimp only at h
    have hremoved : textsWithout (before.map (·.compact)) (after.map (·.compact)) = [] := by
      by_contra hne
      rw [if_neg fun hempty => hne (List.isEmpty_iff.mp hempty)] at h
      exact absurd (h _ (List.mem_append_left _ List.mem_cons_self))
        (by decide : Severity.dangerous ≠ .safe)
    exact List.mem_map.mp (textsWithout_eq_nil_iff.mp hremoved _ (List.mem_map_of_mem hv))

/-- **Rules whose changes are safe are relaxed.** Each rule has its own part of the changes, and
each part is safe. -/
theorem relaxes_of_changes {old new : Rules}
    (h : ∀ change ∈ old.changes new, change.IsSafe) : old.Relaxes new := by
  simp only [changes, validationChanges, countChange, List.forall_mem_append, and_assoc] at h
  obtain ⟨-, -, hpattern, hformat, hminimum, hmaximum, hexclusiveMinimum, hexclusiveMaximum,
    hminLength, hmaxLength, hminItems, hmaxItems, hminProperties, hmaxProperties, hunique,
    hnullable, hmultiple, henum, -⟩ := h
  exact {
    pattern := eq_of_textChange hpattern, format := eq_of_textChange hformat
    minimum := boundRelaxes_of_boundChange hminimum
    maximum := boundRelaxes_of_boundChange hmaximum
    exclusiveMinimum := imp_of_flagChange hexclusiveMinimum
    exclusiveMaximum := imp_of_flagChange hexclusiveMaximum
    multipleOf := eq_of_multipleChange hmultiple
    minLength := boundRelaxes_of_boundChange hminLength
    maxLength := boundRelaxes_of_boundChange hmaxLength
    minItems := boundRelaxes_of_boundChange hminItems
    maxItems := boundRelaxes_of_boundChange hmaxItems
    uniqueItems := imp_of_flagChange hunique
    minProperties := boundRelaxes_of_boundChange hminProperties
    maxProperties := boundRelaxes_of_boundChange hmaxProperties
    -- What is compared is whether null is refused.
    nullable := fun hold => by
      by_contra hnew
      rw [Bool.not_eq_true] at hnew
      have hrefused := imp_of_flagChange hnullable (by rw [hnew]; rfl)
      rw [hold] at hrefused
      exact Bool.false_ne_true hrefused
    enum := mem_of_enumChanges henum }

end Rules
end ChartSchema
