import ChartSchema.Number.Binary64
import Mathlib
/-!
# Natural numbers as binary64 numbers

Which number a natural number is rounded to, in closed form: it is cut into pieces of a size that
leaves 53 bits (`Binary64.spacing`), and the number of pieces is rounded. Up to `2 ^ 53` the pieces
are ones and nothing is lost (`Binary64.nearest_of_le`); beyond, neighbours come out the same.

Rounding keeps the order (`Binary64.nearest_mono`), but not strictly. What is left of a difference of
two natural numbers after rounding is a whole number, so it is either nothing or at least one, and a
test against a small number tells the two apart (`Binary64.epsilon_lt_abs_sub_iff`).
-/

namespace ChartSchema.Binary64

/-! ## Rounding to an integer -/

variable {n m k num den : Nat}

theorem roundQuotient_one (n : Nat) : roundQuotient n 1 = n := by
  unfold roundQuotient
  dsimp only
  rw [Nat.div_one, Nat.mod_one]
  exact if_pos (.inl Nat.one_pos)

/-- A rounded quotient is the quotient or one more. -/
theorem roundQuotient_bounds (num den : Nat) :
    num / den ≤ roundQuotient num den ∧ roundQuotient num den ≤ num / den + 1 := by
  unfold roundQuotient
  dsimp only
  split <;> omega

/-- **A larger number has no smaller rounded quotient.** Within one quotient the remainder decides,
and it is larger too. -/
theorem roundQuotient_mono (h : n ≤ m) (den : Nat) :
    roundQuotient n den ≤ roundQuotient m den := by
  rcases Nat.lt_or_eq_of_le (Nat.div_le_div_right (c := den) h) with hlt | heq
  · exact (roundQuotient_bounds n den).2.trans (Nat.le_trans hlt (roundQuotient_bounds m den).1)
  · have hmod : n % den ≤ m % den := by
      have hn := Nat.div_add_mod n den
      have hm := Nat.div_add_mod m den
      rw [heq] at hn
      omega
    unfold roundQuotient
    dsimp only
    rw [heq]
    split <;> split <;> omega

/-! ## Rounding to 53 bits -/

/-- The distance between the numbers around a natural number: what is left of its bits beside 53. -/
def spacing (n : Nat) : Nat := 2 ^ (n.log2 - 52)

/-- The natural number that a natural number is rounded to. -/
def nearest (n : Nat) : Nat := roundQuotient n (spacing n) * spacing n

/-- A number with at most 53 bits is cut into ones. -/
theorem spacing_of_lt (h : n < 2 ^ 53) : spacing n = 1 := by
  have hlog : n.log2 ≤ 52 := by
    rcases Nat.eq_zero_or_pos n with rfl | hpos
    · decide
    · exact Nat.le_of_lt_succ ((Nat.log2_lt (Nat.ne_of_gt hpos)).mpr h)
  rw [spacing, Nat.sub_eq_zero_of_le hlog, Nat.pow_zero]

/-- Up to `2 ^ 53` nothing is lost. -/
theorem nearest_of_le (h : n ≤ 2 ^ 53) : nearest n = n := by
  rcases Nat.lt_or_eq_of_le h with hlt | rfl
  · rw [nearest, spacing_of_lt hlt, roundQuotient_one, Nat.mul_one]
  · decide +kernel

/-- A number is rounded to one between the powers of two around it. -/
theorem nearest_bounds (h : n ≠ 0) : 2 ^ n.log2 ≤ nearest n ∧ nearest n ≤ 2 ^ (n.log2 + 1) := by
  have hsplit (k : Nat) (hk : n.log2 ≤ k) :
      2 ^ (k - (n.log2 - 52)) * spacing n = 2 ^ k := by
    rw [spacing, ← Nat.pow_add]
    congr 1
    omega
  have hpos : 0 < spacing n := Nat.two_pow_pos _
  constructor
  · have hlow : 2 ^ (n.log2 - (n.log2 - 52)) ≤ n / spacing n := by
      rw [Nat.le_div_iff_mul_le hpos, hsplit _ le_rfl]
      exact Nat.log2_self_le h
    calc 2 ^ n.log2 = 2 ^ (n.log2 - (n.log2 - 52)) * spacing n := (hsplit _ le_rfl).symm
      _ ≤ nearest n := Nat.mul_le_mul_right _ (hlow.trans (roundQuotient_bounds n _).1)
  · have hhigh : n / spacing n < 2 ^ (n.log2 + 1 - (n.log2 - 52)) := by
      rw [Nat.div_lt_iff_lt_mul hpos, hsplit _ (Nat.le_succ _)]
      exact Nat.lt_log2_self
    calc nearest n ≤ 2 ^ (n.log2 + 1 - (n.log2 - 52)) * spacing n :=
          Nat.mul_le_mul_right _ ((roundQuotient_bounds n _).2.trans hhigh)
      _ = 2 ^ (n.log2 + 1) := hsplit _ (Nat.le_succ _)

/-- **Rounding keeps the order.** Within one power of two the pieces are of one size; otherwise a
power of two lies between what the two are rounded to. -/
theorem nearest_mono (h : n ≤ m) : nearest n ≤ nearest m := by
  rcases Nat.eq_zero_or_pos n with rfl | hpos
  · rw [nearest_of_le (Nat.zero_le _)]
    exact Nat.zero_le _
  have hn : n ≠ 0 := Nat.ne_of_gt hpos
  have hm : m ≠ 0 := Nat.ne_of_gt (Nat.lt_of_lt_of_le hpos h)
  have hlog : n.log2 ≤ m.log2 := (Nat.le_log2 hm).mpr ((Nat.log2_self_le hn).trans h)
  rcases Nat.lt_or_eq_of_le hlog with hlt | heq
  · calc nearest n ≤ 2 ^ (n.log2 + 1) := (nearest_bounds hn).2
      _ ≤ 2 ^ m.log2 := Nat.pow_le_pow_right Nat.two_pos hlt
      _ ≤ nearest m := (nearest_bounds hm).1
  · rw [nearest, nearest, show spacing n = spacing m by rw [spacing, spacing, heq]]
    exact Nat.mul_le_mul_right _ (roundQuotient_mono h _)

/-- The first two numbers that rounding does not tell apart. -/
example : nearest (2 ^ 53 + 1) = nearest (2 ^ 53) := by decide +kernel

theorem nearest_pos (h : n ≠ 0) : 0 < nearest n :=
  Nat.lt_of_lt_of_le (Nat.two_pow_pos _) (nearest_bounds h).1

/-! ## The numbers themselves -/

theorem toRat?_finite (mantissa : Nat) (exponent : Int) :
    (finite false mantissa exponent).toRat? = some ((mantissa : Rat) * 2 ^ exponent) := by
  rw [toRat?]
  refine congrArg some ?_
  rw [if_neg Bool.false_ne_true]
  split
  · next h =>
    obtain ⟨k, rfl⟩ := Int.eq_ofNat_of_zero_le h
    rw [Int.toNat_natCast, zpow_natCast, Nat.pow_eq]
    push_cast
    rfl
  · next h =>
    obtain ⟨k, hk⟩ := Int.eq_ofNat_of_zero_le (Int.neg_nonneg_of_nonpos (Int.not_le.mp h).le)
    rw [hk, Int.toNat_natCast, Rat.mkRat_eq_div, Nat.pow_eq, ← Int.neg_neg exponent, hk, zpow_neg,
      zpow_natCast, div_eq_mul_inv]
    push_cast
    rfl

theorem scaleQuotient_one (n : Nat) :
    scaleQuotient n 1 ((n.log2 : Int) - 52) = (n * 2 ^ (52 - n.log2), spacing n) := by
  unfold scaleQuotient spacing
  split
  · next h =>
    rw [show ((n.log2 : Int) - 52).toNat = n.log2 - 52 by omega, show 52 - n.log2 = 0 by omega]
    simp
  · next h =>
    rw [show (-((n.log2 : Int) - 52)).toNat = 52 - n.log2 by omega, show n.log2 - 52 = 0 by omega]
    simp

/-- The exponent of a natural number leaves 53 bits. -/
theorem exponentOfQuotient_one (h : n ≠ 0) :
    exponentOfQuotient n 1 = (n.log2 : Int) - 52 := by
  have hpos : 0 < spacing n := Nat.two_pow_pos _
  have hfull : 2 ^ 52 ≤ n * 2 ^ (52 - n.log2) / spacing n := by
    rw [Nat.le_div_iff_mul_le hpos, spacing, ← Nat.pow_add]
    calc 2 ^ (52 + (n.log2 - 52)) = 2 ^ n.log2 * 2 ^ (52 - n.log2) := by
          rw [← Nat.pow_add]
          congr 1
          omega
      _ ≤ n * 2 ^ (52 - n.log2) := Nat.mul_le_mul_right _ (Nat.log2_self_le h)
  have hguess : (n.log2 : Int) - ((Nat.log2 1 : Nat) : Int) - 52 = (n.log2 : Int) - 52 := by
    rw [show Nat.log2 1 = 0 by decide]
    omega
  unfold exponentOfQuotient
  rw [hguess]
  dsimp only
  rw [scaleQuotient_one]
  dsimp only
  rw [Nat.pow_eq, if_neg (Nat.not_lt.mpr hfull), minExponent]
  omega

/-- **A natural number becomes the one that it is rounded to.** Where rounding makes it a power of
two, its mantissa is cut by one bit and its exponent goes up by one. -/
theorem toRat?_ofQuotient_one (hsmall : n.log2 < 1023) :
    (ofQuotient false n 1).toRat? = some (nearest n : Rat) := by
  rcases Nat.eq_zero_or_pos n with rfl | hpos
  · decide +kernel
  have hn : n ≠ 0 := Nat.ne_of_gt hpos
  -- The value of the mantissa and the exponent before a bit is cut.
  have hvalue : (roundQuotient (n * 2 ^ (52 - n.log2)) (spacing n) : Rat) *
      2 ^ ((n.log2 : Int) - 52) = nearest n := by
    rcases Nat.lt_or_ge n.log2 52 with hlt | hge
    · have hsmall : n < 2 ^ 53 := (Nat.log2_lt hn).mp (hlt.trans (by decide))
      rw [spacing_of_lt hsmall, roundQuotient_one, nearest_of_le hsmall.le,
        show (n.log2 : Int) - 52 = -((52 - n.log2 : Nat) : Int) by omega, zpow_neg, zpow_natCast]
      push_cast
      exact mul_inv_cancel_right₀ (pow_ne_zero _ two_ne_zero) _
    · rw [Nat.sub_eq_zero_of_le hge, Nat.pow_zero, Nat.mul_one, nearest, spacing,
        show (n.log2 : Int) - 52 = ((n.log2 - 52 : Nat) : Int) by omega, zpow_natCast]
      push_cast
      rfl
  unfold ofQuotient
  rw [if_neg hn, exponentOfQuotient_one hn]
  dsimp only
  rw [scaleQuotient_one]
  dsimp only
  by_cases hcarry : roundQuotient (n * 2 ^ (52 - n.log2)) (spacing n) = Nat.pow 2 53
  · rw [if_pos hcarry]
    dsimp only
    rw [if_neg (by rw [maxExponent]; omega), toRat?_finite, ← hvalue, hcarry,
      zpow_add_one₀ two_ne_zero]
    refine congrArg some ?_
    rw [Nat.pow_eq, Nat.pow_eq]
    push_cast
    ring
  · rw [if_neg hcarry]
    dsimp only
    rw [if_neg (by rw [maxExponent]; omega), toRat?_finite, hvalue]

/-- A natural number becomes the one that it is rounded to. -/
theorem toRat?_ofInt (hsmall : n.log2 < 1023) : (ofInt n).toRat? = some (nearest n : Rat) := by
  have hsign : decide ((n : Int) < 0) = false :=
    decide_eq_false (Int.not_lt.mpr (Int.natCast_nonneg n))
  rw [ofInt, hsign, Int.natAbs_natCast]
  exact toRat?_ofQuotient_one hsmall

/-! ## Comparing -/

variable {x y : Binary64} {a b : Rat}

/-- The order of numbers that stand for rationals is that of the rationals. -/
theorem compare?_eq (hx : x.toRat? = some a) (hy : y.toRat? = some b) :
    x.compare? y = some (if a < b then .lt else if b < a then .gt else .eq) := by
  cases x with
  | infinite | nan => cases hx
  | finite =>
    cases y with
    | infinite | nan => cases hy
    | finite =>
      rw [compare?, hx, hy]

/-- Finite numbers are ordered as the rationals that they stand for. -/
theorem lt_iff (hx : x.toRat? = some a) (hy : y.toRat? = some b) : x.lt y = true ↔ a < b := by
  rw [lt, compare?_eq hx hy, beq_iff_eq, Option.some.injEq]
  split
  · next h => exact iff_of_true rfl h
  · next h =>
    refine iff_of_false ?_ h
    split <;> exact Ordering.noConfusion

/-- Finite numbers are equal if the rationals that they stand for are. -/
theorem eq_iff (hx : x.toRat? = some a) (hy : y.toRat? = some b) : x.eq y = true ↔ a = b := by
  rw [eq, compare?_eq hx hy, beq_iff_eq, Option.some.injEq]
  rcases lt_trichotomy a b with h | h | h
  · rw [if_pos h]
    exact iff_of_false Ordering.noConfusion h.ne
  · rw [if_neg (not_lt.mpr h.ge), if_neg (not_lt.mpr h.le)]
    exact iff_of_true rfl h
  · rw [if_neg (not_lt.mpr h.le), if_pos h]
    exact iff_of_false Ordering.noConfusion h.ne'

theorem exists_toRat? (h : x.isFinite = true) : ∃ r, x.toRat? = some r := by
  cases x with
  | finite => exact ⟨_, rfl⟩
  | infinite | nan => exact absurd h Bool.false_ne_true

/-- A number without its sign is rounded from the quotient without its sign. -/
theorem abs_ofQuotient (negative : Bool) (num den : Nat) :
    (ofQuotient negative num den).abs = ofQuotient false num den := by
  unfold ofQuotient
  split
  · rfl
  · dsimp only
    split <;> split <;> rfl

theorem log2_lt_of_word (h : n ≤ 2 ^ 64) : n.log2 < 1023 := by
  rcases Nat.eq_zero_or_pos n with rfl | hpos
  · decide
  · have hbits : n.log2 < 65 :=
      (Nat.log2_lt (Nat.ne_of_gt hpos)).mpr
        (h.trans_lt (Nat.pow_lt_pow_right (by decide) (by decide)))
    exact hbits.trans (by decide)

/-- **The rounded difference of natural numbers is told from nothing** exactly if they are rounded
to different numbers. -/
theorem epsilon_lt_abs_sub_iff (hn : n < 2 ^ 64) (hm : m < 2 ^ 64) :
    epsilon.lt ((ofInt n).sub (ofInt m)).abs = true ↔ nearest n ≠ nearest m := by
  have hword {k : Nat} (hk : k < 2 ^ 64) : nearest k ≤ 2 ^ 64 :=
    (nearest_mono hk.le).trans_eq (by decide +kernel)
  -- The difference is a whole number, and rounding one gives nothing or at least one.
  have hdifference :
      ((nearest n : Rat) - nearest m) = (((nearest n : Int) - nearest m : Int) : Rat) := by
    push_cast
    rfl
  have hsmall : ((nearest n : Int) - nearest m).natAbs ≤ 2 ^ 64 := by
    have := hword hn
    have := hword hm
    omega
  have hepsilon : epsilon.toRat? = some (((Nat.pow 2 52 : Nat) : Rat) * 2 ^ (-104 : Int)) :=
    toRat?_finite _ _
  rw [sub, lift, toRat?_ofInt (log2_lt_of_word hn.le), toRat?_ofInt (log2_lt_of_word hm.le)]
  dsimp only
  rw [hdifference, ofRat, Rat.num_intCast, Rat.den_intCast, abs_ofQuotient,
    lt_iff hepsilon (toRat?_ofQuotient_one (log2_lt_of_word hsmall))]
  generalize hd : ((nearest n : Int) - nearest m).natAbs = d
  have hzero : nearest n ≠ nearest m ↔ d ≠ 0 := by omega
  rw [hzero]
  constructor
  · rintro hlt rfl
    rw [nearest_of_le (Nat.zero_le _)] at hlt
    exact absurd hlt (by norm_num)
  · intro hne
    have hone : (1 : Rat) ≤ nearest d := by exact_mod_cast nearest_pos hne
    refine lt_of_lt_of_le ?_ hone
    rw [Nat.pow_eq]
    norm_num

/-- Natural numbers are ordered as the numbers that they are rounded to. -/
theorem ofInt_lt_iff (hn : n < 2 ^ 64) (hm : m < 2 ^ 64) :
    (ofInt n).lt (ofInt m) = true ↔ nearest n < nearest m := by
  rw [lt_iff (toRat?_ofInt (log2_lt_of_word hn.le)) (toRat?_ofInt (log2_lt_of_word hm.le))]
  exact Nat.cast_lt

end ChartSchema.Binary64
