import Mathlib
import Microtemplate.Decimal.Shortest

/-!
The double nearest to a fraction. It depends on the value of the fraction only, and a finite double
is the nearest one to what its sign, significand and exponent stand for; bits that are no number
apart, the bits of a double are those it was made of.
-/

namespace Microtemplate.Decimal

section Bits

open Float.Model UnpackedFloat Format

/-- The bits that a double is made of are its bits, unless they are no number. -/
theorem toBits_ofBits {b : UInt64}
    (h : b.toNat / 2 ^ 52 % 2 ^ 11 ≠ 2047 ∨ b.toNat % 2 ^ 52 = 0) :
    (Float.ofBits b).toBits = b := by
  have hnumber : @isNaNBits binary64 b.toBitVec = false := by
    rw [isNaNBits, decide_eq_false_iff_not]
    rintro ⟨hexponent, hmantissa⟩
    refine hmantissa (BitVec.eq_of_toNat_eq ?_)
    have hones := congrArg BitVec.toNat hexponent
    simp only [unpackExponent, unpackMantissa, BitVec.cast_eq, BitVec.extractLsb_toNat,
      Nat.shiftRight_eq_div_pow] at hones ⊢
    change b.toNat / 2 ^ 52 % 2 ^ 11 = 2047 at hones
    change b.toNat / 2 ^ 0 % 2 ^ 52 = 0
    omega
  have hpacked := @pack_unpack binary64 b.toBitVec (by decide)
  rw [hnumber] at hpacked
  exact congrArg UInt64.ofBitVec hpacked

end Bits

variable {num den num' den' : Nat}

/-- A fraction whose parts are shifted is divided by a power of two. -/
theorem shifted_div (num den : Nat) (e : Int) :
    ((num * Nat.pow 2 (-e).toNat : Nat) : ℚ) / (den * Nat.pow 2 e.toNat : Nat) =
      num / den / 2 ^ e := by
  obtain ⟨n, rfl | rfl⟩ := e.eq_nat_or_neg
  · simp [div_div]
  · simp [div_mul_eq_mul_div]

/-- The powers of two around a fraction, from the lengths of its parts. -/
theorem log_fraction (hnum : 0 < num) (hden : 0 < den) :
    (num.log2 : Int) - den.log2 - 1 ≤ Int.log 2 (num / den : ℚ) ∧
      Int.log 2 (num / den : ℚ) < (num.log2 : Int) - den.log2 + 1 := by
  have hden' : (0 : ℚ) < den := Nat.cast_pos.mpr hden
  have hq : (0 : ℚ) < num / den := div_pos (Nat.cast_pos.mpr hnum) hden'
  have hlow : ∀ n : Nat, 0 < n → (2 : ℚ) ^ (n.log2 : Int) ≤ n := fun n hn => by
    exact_mod_cast Nat.log2_self_le hn.ne'
  have hhigh : ∀ n : Nat, (n : ℚ) < 2 ^ ((n.log2 : Int) + 1) := fun n => by
    exact_mod_cast (Nat.lt_log2_self : n < _)
  rw [← Int.zpow_le_iff_le_log (by decide) hq, ← Int.lt_zpow_iff_log_lt (by decide) hq,
    le_div_iff₀ hden', div_lt_iff₀ hden']
  constructor
  · calc ((2 : Nat) : ℚ) ^ ((num.log2 : Int) - den.log2 - 1) * den
        ≤ 2 ^ ((num.log2 : Int) - den.log2 - 1) * 2 ^ ((den.log2 : Int) + 1) :=
          mul_le_mul_of_nonneg_left (hhigh den).le (by positivity)
      _ = 2 ^ (num.log2 : Int) := by
          rw [← zpow_add₀ (by decide)]
          congr 1
          omega
      _ ≤ num := hlow num hnum
  · calc (num : ℚ) < 2 ^ ((num.log2 : Int) + 1) := hhigh num
      _ = 2 ^ ((num.log2 : Int) - den.log2 + 1) * 2 ^ (den.log2 : Int) := by
          rw [← zpow_add₀ (by decide)]
          congr 1
          omega
      _ ≤ ((2 : Nat) : ℚ) ^ ((num.log2 : Int) - den.log2 + 1) * den :=
          mul_le_mul_of_nonneg_left (hlow den hden) (by positivity)

/-- The scale is that of the value of the fraction. -/
theorem scaleOf_eq (hnum : 0 < num) (hden : 0 < den) :
    scaleOf num den = max (Int.log 2 (num / den : ℚ) - 52) (-1074) := by
  have hden' : (0 : ℚ) < den := Nat.cast_pos.mpr hden
  have hq : (0 : ℚ) < num / den := div_pos (Nat.cast_pos.mpr hnum) hden'
  obtain ⟨hlow, hhigh⟩ := log_fraction hnum hden
  have hcondition : ∀ guess : Int,
      num * Nat.pow 2 (-guess).toNat < Nat.pow 2 53 * (den * Nat.pow 2 guess.toNat) ↔
        Int.log 2 (num / den : ℚ) < guess + 53 := by
    intro guess
    have hshifted : (0 : ℚ) < (den * Nat.pow 2 guess.toNat : Nat) :=
      Nat.cast_pos.mpr (Nat.mul_pos hden (Nat.pow_pos (by decide)))
    rw [← Int.lt_zpow_iff_log_lt (by decide) hq, ← Nat.cast_lt (α := ℚ),
      Nat.cast_mul (Nat.pow 2 53),
      ← div_lt_iff₀ hshifted, shifted_div, div_lt_iff₀ (by positivity), add_comm guess,
      zpow_add₀ (by decide)]
    norm_cast
  rw [scaleOf, apply_ite (max · (-1074 : Int))]
  split
  · next h =>
    have := (hcondition _).mp h
    congr 1
    omega
  · next h =>
    have := mt (hcondition _).mpr h
    congr 1
    omega

theorem roundToEven_mul (num : Nat) {den k : Nat} (hk : 0 < k) :
    roundToEven (num * k) (den * k) = roundToEven num den := by
  have hless : ∀ a b : Nat, 2 * (a * k) < b * k ↔ 2 * a < b := fun a b => by
    rw [← Nat.mul_assoc, Nat.mul_lt_mul_right hk]
  have hmore : ∀ a b : Nat, b * k < 2 * (a * k) ↔ b < 2 * a := fun a b => by
    rw [← Nat.mul_assoc, Nat.mul_lt_mul_right hk]
  simp only [roundToEven, Nat.mul_div_mul_right _ _ hk, Nat.mul_mod_mul_right, hless, hmore]

/-- Rounding depends on the value of a fraction only. -/
theorem roundToEven_congr (hden : 0 < den) (hden' : 0 < den') (h : num * den' = num' * den) :
    roundToEven num den = roundToEven num' den' := by
  rw [← roundToEven_mul num hden', h, Nat.mul_comm den, roundToEven_mul num' hden]

theorem roundToEven_whole (n : Nat) (hden : 0 < den) : roundToEven (n * den) den = n := by
  rw [roundToEven, Nat.mul_div_cancel n hden, Nat.mul_mod_left]
  exact if_pos hden

/-- The double nearest to a fraction depends on its value only. -/
theorem nearest_congr (negative : Bool) (hden : 0 < den) (hden' : 0 < den')
    (h : (num / den : ℚ) = num' / den') :
    nearest negative num den = nearest negative num' den' := by
  have hcross : num * den' = num' * den := by
    rw [div_eq_div_iff (Nat.cast_ne_zero.mpr hden.ne') (Nat.cast_ne_zero.mpr hden'.ne')] at h
    exact_mod_cast h
  by_cases hnum : num = 0
  · subst hnum
    rw [Nat.zero_mul] at hcross
    obtain rfl := (Nat.mul_eq_zero.mp hcross.symm).resolve_right hden.ne'
    rfl
  · have hnum' : num' ≠ 0 := by
      rintro rfl
      rw [Nat.zero_mul] at hcross
      exact (Nat.mul_eq_zero.mp hcross).elim hnum hden'.ne'
    have hscale : scaleOf num den = scaleOf num' den' := by
      rw [scaleOf_eq (Nat.pos_of_ne_zero hnum) hden, scaleOf_eq (Nat.pos_of_ne_zero hnum') hden', h]
    have hpow : ∀ k, 0 < Nat.pow 2 k := fun k => Nat.pow_pos (by decide)
    have hround : ∀ e : Int, roundToEven (num * Nat.pow 2 (-e).toNat) (den * Nat.pow 2 e.toNat) =
        roundToEven (num' * Nat.pow 2 (-e).toNat) (den' * Nat.pow 2 e.toNat) := by
      intro e
      refine roundToEven_congr (Nat.mul_pos hden (hpow _)) (Nat.mul_pos hden' (hpow _)) ?_
      rw [Nat.mul_mul_mul_comm, hcross, Nat.mul_mul_mul_comm]
    simp only [nearest, if_neg hnum, if_neg hnum', nearestBits, hscale, hround]

theorem numerator_div_denominator (m : Nat) (e : Int) :
    ((numerator m e : Nat) : ℚ) / (denominator e : Nat) = m * 2 ^ e := by
  obtain ⟨n, rfl | rfl⟩ := e.eq_nat_or_neg
  · simp [numerator, denominator]
  · simp [numerator, denominator, div_eq_mul_inv]

/-- The scale of a double is its exponent. -/
theorem scaleOf_exact {m : Nat} {e : Int} (hm : 0 < m) (hupper : m < 2 ^ 53)
    (he : e = -1074 ∨ -1074 < e ∧ 2 ^ 52 ≤ m) :
    scaleOf (numerator m e) (denominator e) = e := by
  have hnum : 0 < numerator m e := Nat.mul_pos hm (Nat.pow_pos (by decide))
  have hden : 0 < denominator e := Nat.pow_pos (by decide)
  have hvalue : (0 : ℚ) < m * 2 ^ e := mul_pos (Nat.cast_pos.mpr hm) (by positivity)
  rw [scaleOf_eq hnum hden, numerator_div_denominator]
  have hlog : Int.log 2 ((m : ℚ) * 2 ^ e) < 53 + e := by
    rw [← Int.lt_zpow_iff_log_lt (by decide) hvalue, zpow_add₀ (by decide)]
    refine mul_lt_mul_of_pos_right ?_ (by positivity)
    exact_mod_cast hupper
  rcases he with rfl | ⟨he, hlower⟩
  · omega
  · have hlog' : 52 + e ≤ Int.log 2 ((m : ℚ) * 2 ^ e) := by
      rw [← Int.zpow_le_iff_le_log (by decide) hvalue, zpow_add₀ (by decide)]
      refine mul_le_mul_of_nonneg_right ?_ (by positivity)
      exact_mod_cast hlower
    omega

/-- The bits of a nonnegative double with this significand and exponent. -/
theorem nearestBits_exact {m : Nat} {e : Int} (hm : 0 < m) (hupper : m < 2 ^ 53)
    (he : e = -1074 ∨ -1074 < e ∧ 2 ^ 52 ≤ m) :
    nearestBits (numerator m e) (denominator e) =
      min ((e + 1074).toNat * 2 ^ 52 + m) 0x7FF0000000000000 := by
  have hround : roundToEven (numerator m e * Nat.pow 2 (-e).toNat)
      (denominator e * Nat.pow 2 e.toNat) = m := by
    rw [numerator, denominator, Nat.mul_assoc, Nat.mul_comm (Nat.pow 2 (-e).toNat)]
    exact roundToEven_whole m (Nat.mul_pos (Nat.pow_pos (by decide)) (Nat.pow_pos (by decide)))
  rw [nearestBits, scaleOf_exact hm hupper he, hround]
  split
  · next hsmall =>
    obtain rfl : e = -1074 := by
      change m < 2 ^ 52 at hsmall
      omega
    rw [show ((-1074 : Int) + 1074).toNat = 0 from rfl, Nat.zero_mul, Nat.zero_add]
  · rfl

/-- What a finite double stands for: a significand of at most 53 bits, of exactly 53 above the least
exponent, from which its bits but for the sign are put together. -/
theorem finite_of_ofFloat {x : Float} {negative : Bool} {m : Nat} {e : Int}
    (h : Binary.ofFloat x = .finite negative m e) :
    m < 2 ^ 53 ∧ (e = -1074 ∨ -1074 < e ∧ 2 ^ 52 ≤ m) ∧
      (e + 1074).toNat * 2 ^ 52 + m < 0x7FF0000000000000 ∧
      x.toBits.toNat = (if negative then 2 ^ 63 else 0) + ((e + 1074).toNat * 2 ^ 52 + m) := by
  have hbits := x.toBits.toNat_lt
  rw [Binary.ofFloat] at h
  simp only [Nat.pow_eq] at h
  generalize x.toBits.toNat = bits at h hbits ⊢
  have hsign : (if (bits / 2 ^ 63 == 1) = true then 2 ^ 63 else 0) = bits / 2 ^ 63 * 2 ^ 63 := by
    split
    · next hone => rw [beq_iff_eq.mp hone, Nat.one_mul]
    · next hone =>
      have : bits / 2 ^ 63 ≠ 1 := by simpa using hone
      omega
  split at h
  · split at h <;> cases h
  · split at h
    · cases h
      rw [hsign]
      omega
    · cases h
      rw [hsign]
      omega

/-- A finite double is the nearest one to what it stands for. -/
theorem nearest_ofFloat {x : Float} {negative : Bool} {m : Nat} {e : Int}
    (h : Binary.ofFloat x = .finite negative m e) :
    nearest negative (numerator m e) (denominator e) = x := by
  obtain ⟨hm, he, hfinite, hbits⟩ := finite_of_ofFloat h
  have hmagnitude : (if numerator m e = 0 then 0 else nearestBits (numerator m e) (denominator e)) =
      (e + 1074).toNat * 2 ^ 52 + m := by
    by_cases hzero : m = 0
    · subst hzero
      rw [numerator, Nat.zero_mul, if_pos rfl]
      omega
    · have hnum : numerator m e ≠ 0 :=
        (Nat.mul_pos (Nat.pos_of_ne_zero hzero) (Nat.pow_pos (by decide))).ne'
      rw [if_neg hnum, nearestBits_exact (Nat.pos_of_ne_zero hzero) hm he]
      exact Nat.min_eq_left hfinite.le
  have hall : (if negative = true then (e + 1074).toNat * 2 ^ 52 + m + Nat.pow 2 63
      else (e + 1074).toNat * 2 ^ 52 + m) = x.toBits.toNat := by
    rw [hbits, Nat.pow_eq]
    split <;> omega
  rw [nearest, hmagnitude, hall, UInt64.ofNat_toNat]
  exact Float.ofBits_toBits x

/-- There is one infinity of each sign. -/
theorem eq_infinity_of_ofFloat {x : Float} {negative : Bool}
    (h : Binary.ofFloat x = .infinite negative) : x = infinity negative := by
  have hless := x.toBits.toNat_lt
  have hback : Float.ofBits (UInt64.ofNat x.toBits.toNat) = x := by
    rw [UInt64.ofNat_toNat, Float.ofBits_toBits]
  rw [Binary.ofFloat] at h
  simp only [Nat.pow_eq] at h
  generalize x.toBits.toNat = bits at h hless hback
  split at h
  · next hexponent =>
    split at h
    · next hfraction =>
      cases h
      rw [← hback, infinity]
      by_cases hsign : bits / 2 ^ 63 = 1
      · rw [hsign, show bits = 0xFFF0000000000000 by omega]
        rfl
      · rw [beq_eq_false_iff_ne.mpr hsign, show bits = 0x7FF0000000000000 by omega]
        rfl
    · cases h
  · split at h <;> cases h

end Microtemplate.Decimal
