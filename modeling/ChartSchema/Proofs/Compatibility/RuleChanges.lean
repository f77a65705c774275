import ChartSchema.Proofs.Compatibility.Changes
/-!
# What a change is about

Each change between two properties is about one thing (`PropertyChange.about`): a member that
appears or disappears, one that is required now, the type, a bound by its name, or another rule.
So changes can be told apart by what they are about without looking at how they are collected. Each
part of a comparison gives changes about one thing only, which is said here part by part.
-/

namespace ChartSchema

/-- What a change of a property is about. -/
inductive ChangeSubject where
  /-- A member that appears or disappears. -/
  | field (key : String)
  /-- A member that both have. -/
  | requirement (key : String)
  /-- The type. -/
  | type
  /-- A bound, by its name. -/
  | bound (rule : String)
  /-- A rule that is no bound. -/
  | rule
  deriving DecidableEq

namespace PropertyChange

/-- What a change is about. -/
def about : PropertyChange → ChangeSubject
  | .fieldRemoved key .. | .fieldAdded key .. => .field key
  | .nowRequired key => .requirement key
  | .typeChanged .. => .type
  | .boundChanged rule .. => .bound rule
  | .defaultAdded _ | .defaultChanged .. | .descriptionChanged .. | .textChanged .. | .flagChanged ..
  | .multipleChanged .. | .enumAdded _ | .enumRemoved | .valuesRemoved _ | .valuesAdded _
  | .unknownPruned => .rule

/-- Where no change is about a thing, none is left of those about it. -/
theorem filter_about_eq_nil {changes : List PropertyChange} {subject : ChangeSubject}
    (h : ∀ change ∈ changes, change.about ≠ subject) : changes.filter (·.about = subject) = [] :=
  List.filter_eq_nil_iff.mpr fun change hc habout => h change hc (of_decide_eq_true habout)

/-- Of changes that are all about one thing, those about a thing are all or none. -/
theorem filter_about {changes : List PropertyChange} {subject : ChangeSubject}
    (h : ∀ change ∈ changes, change.about = subject) (other : ChangeSubject) :
    changes.filter (·.about = other) = if subject = other then changes else [] := by
  split
  · next heq =>
    exact List.filter_eq_self.mpr fun change hc => decide_eq_true ((h change hc).trans heq)
  · next hne =>
    exact filter_about_eq_nil fun change hc hother => hne ((h change hc).symm.trans hother)

end PropertyChange

/-! ## Rules -/

namespace Rules

variable {rule : String} {side : Side} {old new : Rules} {change : PropertyChange}

/-- A change of a bound is about this bound. -/
theorem about_of_mem_boundChange {old? new? : Option Binary64}
    (h : change ∈ boundChange rule side old? new?) : change.about = .bound rule := by
  unfold boundChange at h
  split at h
  · exact absurd h List.not_mem_nil
  · rw [List.mem_singleton.mp (List.mem_ite_nil_right.mp h).2]
    rfl
  · rw [List.mem_singleton.mp h]
    rfl

theorem about_of_mem_textChange {old? new? : Option String}
    (h : change ∈ textChange rule old? new?) : change.about = .rule := by
  rw [List.mem_singleton.mp (List.mem_ite_nil_left.mp h).2]
  rfl

theorem about_of_mem_flagChange {before after : Bool} (h : change ∈ flagChange rule before after) :
    change.about = .rule := by
  rw [List.mem_singleton.mp (List.mem_ite_nil_left.mp h).2]
  rfl

/-- A change of what numbers are multiples of is about no bound. -/
theorem about_of_mem_multipleChange {old? new? : Option Binary64}
    (h : change ∈ multipleChange old? new?) : change.about = .rule := by
  rw [List.mem_singleton.mp (List.mem_ite_nil_left.mp h).2]
  rfl

/-- A change of the values that are listed is about no bound. -/
theorem about_of_mem_enumChanges (h : change ∈ enumChanges old new) : change.about = .rule := by
  unfold enumChanges at h
  split at h
  · exact absurd h List.not_mem_nil
  · rw [List.mem_singleton.mp h]
    rfl
  · rw [List.mem_singleton.mp h]
    rfl
  · rcases List.mem_append.mp h with h | h <;>
      rw [List.mem_singleton.mp (List.mem_ite_nil_left.mp h).2] <;> rfl

theorem about_of_mem_defaultChange (h : change ∈ defaultChange old new) : change.about = .rule := by
  unfold defaultChange at h
  split at h
  · rw [List.mem_singleton.mp h]
    rfl
  · rw [List.mem_singleton.mp (List.mem_ite_nil_left.mp h).2]
    rfl
  · exact absurd h List.not_mem_nil

theorem about_of_mem_descriptionChange (h : change ∈ descriptionChange old new) :
    change.about = .rule := by
  unfold descriptionChange at h
  split at h
  · rw [List.mem_singleton.mp (List.mem_ite_nil_left.mp h).2]
    rfl
  · exact absurd h List.not_mem_nil

theorem about_of_mem_unknownPruned {b : Bool}
    (h : change ∈ if b then [PropertyChange.unknownPruned] else []) : change.about = .rule := by
  rw [List.mem_singleton.mp (List.mem_ite_nil_right.mp h).2]
  rfl

/-- **A change of rules is about a rule**, which is a bound or none. -/
theorem about_of_mem_changes (h : change ∈ old.changes new) :
    change.about = .rule ∨ ∃ rule, change.about = .bound rule := by
  have hbound {rule : String} {side : Side} {old? new? : Option Binary64}
      (h : change ∈ boundChange rule side old? new?) :
      change.about = .rule ∨ ∃ rule, change.about = .bound rule :=
    .inr ⟨rule, about_of_mem_boundChange h⟩
  simp only [changes, validationChanges, countChange, List.mem_append, or_assoc] at h
  rcases h with h | h | h | h | h | h | h | h | h | h | h | h | h | h | h | h | h | h | h
  · exact .inl (about_of_mem_defaultChange h)
  · exact .inl (about_of_mem_descriptionChange h)
  · exact .inl (about_of_mem_textChange h)
  · exact .inl (about_of_mem_textChange h)
  · exact hbound h
  · exact hbound h
  · exact .inl (about_of_mem_flagChange h)
  · exact .inl (about_of_mem_flagChange h)
  · exact hbound h
  · exact hbound h
  · exact hbound h
  · exact hbound h
  · exact hbound h
  · exact hbound h
  · exact .inl (about_of_mem_flagChange h)
  · exact .inl (about_of_mem_flagChange h)
  · exact .inl (about_of_mem_multipleChange h)
  · exact .inl (about_of_mem_enumChanges h)
  · exact .inl (about_of_mem_unknownPruned h)

end Rules

/-! ## Properties -/

theorem Property.about_of_mem_typeChange {old new : PropertyType} {change : PropertyChange}
    (h : change ∈ typeChange old new) : change.about = .type := by
  rw [List.mem_singleton.mp (List.mem_ite_nil_left.mp h).2]
  rfl

end ChartSchema
