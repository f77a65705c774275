import ChartSchema.Json.Basic
/-!
# Results that may be errors

Two steps of which each may fail succeed together exactly if the first one does and the second
one does on its result. All that is proved about successful results takes a chain of steps apart
with these two facts. What is proved about errors says which ones there can be
(`Outcome.FailsOnly`), and a chain of steps has the errors of its steps.
-/

namespace ChartSchema.Outcome

variable {ε α β : Type}

/-- **Two steps succeed one after the other.** -/
theorem bind_eq_ok {x : Except ε α} {f : α → Except ε β} {b : β} :
    (x >>= f) = .ok b ↔ ∃ a, x = .ok a ∧ f a = .ok b := by
  cases x with
  | error e => exact ⟨(nomatch ·), fun ⟨_, h, _⟩ => (nomatch h)⟩
  | ok a => exact ⟨fun h => ⟨a, rfl, h⟩, fun ⟨_, h, hf⟩ => Except.ok.inj h ▸ hf⟩

theorem pure_eq_ok {a b : α} : (pure a : Except ε α) = .ok b ↔ a = b :=
  ⟨Except.ok.inj, congrArg _⟩

theorem toOption_eq_some {x : Except ε α} {a : α} : x.toOption = some a ↔ x = .ok a := by
  cases x with
  | error e => exact ⟨(nomatch ·), (nomatch ·)⟩
  | ok b => exact ⟨fun h => congrArg _ (Option.some.inj h), fun h => congrArg _ (Except.ok.inj h)⟩

/-- Where errors are dropped, steps still go on with the results of those before. -/
theorem toOption_bind (x : Except ε α) (f : α → Except ε β) :
    (x >>= f).toOption = x.toOption.bind fun a => (f a).toOption := by
  cases x <;> rfl

/-- What is found where a step is taken for each of some values is what it gives for one of
them. -/
theorem exists_of_mem_mapM {f : α → Except ε β} {xs : List α} {ys : List β}
    (h : xs.mapM f = .ok ys) {y : β} (hy : y ∈ ys) : ∃ x ∈ xs, f x = .ok y := by
  induction xs generalizing ys with
  | nil =>
    obtain rfl := pure_eq_ok.mp h
    exact absurd hy List.not_mem_nil
  | cons x rest ih =>
    rw [List.mapM_cons] at h
    obtain ⟨z, hz, h⟩ := bind_eq_ok.mp h
    obtain ⟨zs, hzs, h⟩ := bind_eq_ok.mp h
    obtain rfl := pure_eq_ok.mp h
    rcases List.mem_cons.mp hy with rfl | hy
    · exact ⟨x, List.mem_cons_self, hz⟩
    · obtain ⟨other, hother, hfound⟩ := ih hzs hy
      exact ⟨other, List.mem_cons_of_mem _ hother, hfound⟩

/-! ## Errors -/

/-- Whether a result is a certain error can be decided. -/
instance decidableEqError [DecidableEq ε] : (x : Except ε α) → (e : ε) → Decidable (x = .error e)
  | .ok _, _ => isFalse nofun
  | .error other, e => decidable_of_iff (other = e) ⟨congrArg _, Except.error.inj⟩

variable {P : ε → Prop}

/-- **A result that is no error but one of these.** -/
def FailsOnly (P : ε → Prop) (x : Except ε α) : Prop := ∀ e, x = .error e → P e

theorem FailsOnly.ok (a : α) : FailsOnly P (.ok a : Except ε α) := nofun

theorem FailsOnly.error {e : ε} (h : P e) : FailsOnly P (.error e : Except ε α) :=
  fun _ heq => Except.error.inj heq ▸ h

/-- Two steps fail where the first one does, or the second one on its result. -/
theorem FailsOnly.bind {x : Except ε α} {f : α → Except ε β} (hx : FailsOnly P x)
    (hf : ∀ a, FailsOnly P (f a)) : FailsOnly P (x >>= f) := by
  cases x with
  | error e => exact .error (hx e rfl)
  | ok a => exact hf a

end ChartSchema.Outcome
