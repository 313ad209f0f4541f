import Microtemplate.Proofs.Decimal.Nearest

/-!
The rational number that a finite double is.
-/

namespace Microtemplate.Decimal

/-- A double is finite and exactly this number. -/
def Exactly (x : Float) (q : ℚ) : Prop :=
  ∃ negative m e, Binary.ofFloat x = .finite negative m e ∧
    q = (if negative then -1 else 1) * (m * 2 ^ e)

variable {x : Float} {q : ℚ} {negative : Bool} {m : Nat} {e : Int}

theorem Exactly.eq (h : Exactly x q) (hx : Binary.ofFloat x = .finite negative m e) :
    q = (if negative then -1 else 1) * (m * 2 ^ e) := by
  obtain ⟨_, _, _, hx', hq⟩ := h
  rw [hx] at hx'
  cases hx'
  exact hq

theorem magnitude_nonneg (m : Nat) (e : Int) : (0 : ℚ) ≤ m * 2 ^ e :=
  mul_nonneg (Nat.cast_nonneg m) (by positivity)

theorem magnitude_eq_zero : (m : ℚ) * 2 ^ e = 0 ↔ m = 0 := by
  rw [mul_eq_zero, Nat.cast_eq_zero]
  exact or_iff_left (zpow_ne_zero _ two_ne_zero)

/-- The size of a double. -/
theorem Exactly.abs_eq (h : Exactly x q) (hx : Binary.ofFloat x = .finite negative m e) :
    |q| = m * 2 ^ e := by
  rw [h.eq hx, abs_mul, abs_of_nonneg (magnitude_nonneg m e)]
  cases negative <;> simp

theorem Exactly.eq_zero_iff (h : Exactly x q) (hx : Binary.ofFloat x = .finite negative m e) :
    q = 0 ↔ m = 0 := by
  rw [← abs_eq_zero, h.abs_eq hx, magnitude_eq_zero]

/-- A double is below zero if its sign says so, unless it is a zero. -/
theorem Exactly.neg_iff (h : Exactly x q) (hx : Binary.ofFloat x = .finite negative m e) :
    q < 0 ↔ (negative && m != 0) = true := by
  rw [h.eq hx]
  by_cases hm : m = 0
  · simp [hm]
  · have hpos : (0 : ℚ) < m * 2 ^ e := by positivity
    cases negative
    · simpa using hpos.le
    · simpa [hm] using hpos

/-- A double that is a whole number is seen to be one. -/
theorem Exactly.exactInt?_eq {i : Int} (h : Exactly x i) : exactInt? x = some i := by
  have hdouble := h
  obtain ⟨negative, m, e, hx, hi⟩ := hdouble
  have hden : 0 < denominator e := Nat.pow_pos (by decide)
  have hnum : numerator m e = i.natAbs * denominator e := by
    have hsize : ((i.natAbs : Nat) : ℚ) = (numerator m e : Nat) / (denominator e : Nat) := by
      rw [numerator_div_denominator, ← h.abs_eq hx, Nat.cast_natAbs, Int.cast_abs]
    rw [eq_div_iff (by exact_mod_cast hden.ne')] at hsize
    exact_mod_cast hsize.symm
  have hsign : (if negative then -(i.natAbs : Int) else i.natAbs) = i := by
    have hnonneg := magnitude_nonneg m e
    cases negative
    · have : (0 : ℚ) ≤ i := by simpa [hi] using hnonneg
      rw [if_neg Bool.false_ne_true, Int.natAbs_of_nonneg (by exact_mod_cast this)]
    · have : (i : ℚ) ≤ 0 := by simpa [hi] using hnonneg
      rw [if_pos rfl, Int.ofNat_natAbs_of_nonpos (by exact_mod_cast this), neg_neg]
  rw [exactInt?, hx]
  simp only [hnum, Nat.mul_mod_left, if_true, Nat.mul_div_cancel _ hden, hsign]

/-- A double that is not below zero loses its fraction. -/
theorem Exactly.whole_eq (h : Exactly x q) (hq : 0 ≤ q) : Whole.ofFloat x = .int ⌊q⌋₊ := by
  have hdouble := h
  obtain ⟨negative, m, e, hx, -⟩ := hdouble
  have hfloor : numerator m e / denominator e = ⌊q⌋₊ := by
    rw [← abs_of_nonneg hq, h.abs_eq hx, ← numerator_div_denominator, Nat.floor_div_eq_div]
  have hsign : negative = true → ⌊q⌋₊ = 0 := by
    rintro rfl
    have hzero : m = 0 := by
      by_contra hm
      exact absurd ((h.neg_iff hx).mpr (by simpa using hm)) (not_lt.mpr hq)
    rw [(h.eq_zero_iff hx).mpr hzero, Nat.floor_zero]
  rw [Whole.ofFloat, hx]
  simp only [hfloor]
  split
  · next hnegative => simp [hsign hnegative]
  · rfl

end Microtemplate.Decimal
