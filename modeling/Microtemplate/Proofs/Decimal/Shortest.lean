import Mathlib.Data.Nat.Digits.Lemmas
import Microtemplate.Proofs.Decimal.Nearest

/-!
The shortest numeral of a double. It is read as the double again: the numeral is one of those next
to its exact value that are, or the exact value itself.
-/

namespace Microtemplate.Decimal

theorem digits_go {base : Nat} (hbase : 2 ≤ base) {fuel n : Nat} (hn : 0 < n) (hfuel : n < fuel)
    (later : List Nat) : digits.go base fuel n later = (Nat.digits base n).reverse ++ later := by
  induction fuel generalizing n later with
  | zero => omega
  | succ fuel ih =>
    rw [digits.go]
    split
    · next hless =>
      rw [Nat.digits_of_lt base n hn.ne' hless]
      rfl
    · next hless =>
      have hdiv : 0 < n / base := Nat.div_pos (by omega) (by omega)
      have hsmaller : n / base < fuel :=
        Nat.lt_of_lt_of_le (Nat.div_lt_self hn (by omega)) (Nat.le_of_lt_succ hfuel)
      rw [ih hdiv hsmaller, Nat.digits_def' (by omega) hn, List.reverse_cons, List.append_assoc]
      rfl

theorem digits_eq {base : Nat} (hbase : 2 ≤ base) {n : Nat} (hn : 0 < n) :
    digits base n = (Nat.digits base n).reverse := by
  rw [digits, digits_go hbase hn (Nat.lt_succ_self n), List.append_nil]

theorem length_digits {n : Nat} (hn : 0 < n) : (digits 10 n).length = Nat.log 10 n + 1 := by
  rw [digits_eq (by decide) hn, List.length_reverse, Nat.length_digits 10 n (by decide) hn.ne']

namespace Numeral

variable {n n' : Numeral} {num den : Nat}

/-- The value of a numeral. -/
def value (n : Numeral) : ℚ := n.coefficient * 10 ^ n.exponent

theorem value_eq_zero : n.value = 0 ↔ n.coefficient = 0 := by
  rw [value, mul_eq_zero, Nat.cast_eq_zero]
  exact or_iff_left (zpow_ne_zero _ (by decide))

/-- The count of places before the point depends on the value only. -/
theorem places_eq (hn : n.coefficient ≠ 0) :
    ((digits 10 n.coefficient).length : Int) + n.exponent = Int.log 10 n.value + 1 := by
  have hpos := Nat.pos_of_ne_zero hn
  have hvalue : (0 : ℚ) < n.value := mul_pos (Nat.cast_pos.mpr hpos) (by positivity)
  have hlow : (Nat.log 10 n.coefficient : Int) + n.exponent ≤ Int.log 10 n.value := by
    rw [← Int.zpow_le_iff_le_log (by decide) hvalue, zpow_add₀ (by decide), value]
    refine mul_le_mul_of_nonneg_right ?_ (by positivity)
    exact_mod_cast Nat.pow_log_le_self 10 hn
  have hhigh : Int.log 10 n.value < (Nat.log 10 n.coefficient : Int) + 1 + n.exponent := by
    rw [← Int.lt_zpow_iff_log_lt (by decide) hvalue, zpow_add₀ (by decide), value]
    refine mul_lt_mul_of_pos_right ?_ (by positivity)
    exact_mod_cast Nat.lt_pow_succ_log_self (by decide) n.coefficient
  rw [length_digits hpos]
  omega

theorem pow_ten_pos (k : Nat) : 0 < Nat.pow 10 k := Nat.pow_pos (by decide)

theorem value_eq_div (n : Numeral) : n.value =
    (n.coefficient * Nat.pow 10 n.exponent.toNat : Nat) /
      (Nat.pow 10 (-n.exponent).toNat : Nat) := by
  obtain ⟨k, hk | hk⟩ := n.exponent.eq_nat_or_neg
  · simp [value, hk]
  · simp [value, hk, div_eq_mul_inv]

/-- The double of a numeral depends on its value only. -/
theorem toFloat_congr (h : n.value = n'.value) (negative : Bool) :
    n.toFloat negative = n'.toFloat negative := by
  have hzero : n.coefficient = 0 ↔ n'.coefficient = 0 := by
    rw [← value_eq_zero, h, value_eq_zero]
  by_cases hn : n.coefficient = 0
  · rw [toFloat, toFloat, if_pos hn, if_pos (hzero.mp hn)]
  · have hn' := mt hzero.mpr hn
    have hnearest := h
    rw [value_eq_div, value_eq_div] at hnearest
    rw [toFloat, toFloat, if_neg hn, if_neg hn', places_eq hn, places_eq hn', h,
      nearest_congr negative (pow_ten_pos _) (pow_ten_pos _) hnearest]

/-- The double of a numeral is the one nearest to its value. -/
theorem toFloat_eq_nearest (hden : 0 < den) (h : n.value = num / den)
    (hlow : 10 ^ (-401 : Int) ≤ n.value) (hhigh : n.value < 10 ^ (400 : Int)) (negative : Bool) :
    n.toFloat negative = nearest negative num den := by
  have hvalue : 0 < n.value := lt_of_lt_of_le (by positivity) hlow
  have hn : n.coefficient ≠ 0 := mt value_eq_zero.mpr hvalue.ne'
  have hnearest := h
  rw [value_eq_div] at hnearest
  have hlog : -401 ≤ Int.log 10 n.value := (Int.zpow_le_iff_le_log (by decide) hvalue).mp hlow
  have hlog' : Int.log 10 n.value < 400 := (Int.lt_zpow_iff_log_lt (by decide) hvalue).mp hhigh
  rw [toFloat, if_neg hn, places_eq hn, if_neg (by omega), if_neg (by omega),
    nearest_congr negative (pow_ten_pos _) hden hnearest]

theorem value_strip (fuel : Nat) (n : Numeral) : (strip fuel n).value = n.value := by
  induction fuel generalizing n with
  | zero => rfl
  | succ fuel ih =>
    rw [strip]
    split
    · next hzero =>
      have hten : (n.coefficient : ℚ) = (n.coefficient / 10 : Nat) * 10 := by
        exact_mod_cast (Nat.div_mul_cancel (Nat.dvd_of_mod_eq_zero hzero)).symm
      rw [ih, value, value, hten, add_comm, zpow_add₀ (by decide), zpow_one, mul_assoc]
    · rfl

end Numeral

theorem value_exactNumeral (m : Nat) (e : Int) : (exactNumeral m e).value = m * 2 ^ e := by
  rw [exactNumeral, Numeral.value]
  split
  · next he =>
    obtain ⟨k, rfl⟩ : ∃ k : Nat, e = -k := ⟨e.natAbs, by omega⟩
    have hten : (10 : ℚ) = 2 * 5 := by norm_num
    simp only [neg_neg, Int.toNat_natCast, Nat.pow_eq, Nat.cast_mul, Nat.cast_pow, zpow_neg,
      zpow_natCast]
    rw [hten, mul_pow]
    push_cast
    field_simp
  · next he =>
    obtain ⟨k, rfl⟩ : ∃ k : Nat, e = k := ⟨e.natAbs, by omega⟩
    simp

/-- The double with these bits but for the sign. -/
def signed (negative : Bool) (bits : Nat) : Float :=
  Float.ofBits (UInt64.ofNat (if negative then bits + Nat.pow 2 63 else bits))

theorem toBits_signed {bits : Nat} (hle : bits ≤ 0x7FF0000000000000) :
    (signed false bits).toBits.toNat = bits := by
  have hsmall : (UInt64.ofNat bits).toNat = bits :=
    UInt64.toNat_ofNat_of_lt' (Nat.lt_of_le_of_lt hle (by decide))
  rw [signed, if_neg Bool.false_ne_true, toBits_ofBits, hsmall]
  rw [hsmall]
  omega

theorem signed_injective {bits bits' : Nat} (hle : bits ≤ 0x7FF0000000000000)
    (hle' : bits' ≤ 0x7FF0000000000000) (h : signed false bits = signed false bits') :
    bits = bits' := by
  rw [← toBits_signed hle, h, toBits_signed hle']

theorem nearest_signed (num den : Nat) :
    ∃ bits ≤ 0x7FF0000000000000, ∀ negative, nearest negative num den = signed negative bits := by
  refine ⟨if num = 0 then 0 else nearestBits num den, ?_, fun _ => rfl⟩
  split
  · exact Nat.zero_le _
  · exact Nat.min_le_right _ _

theorem Numeral.toFloat_signed (n : Numeral) :
    ∃ bits ≤ 0x7FF0000000000000, ∀ negative, n.toFloat negative = signed negative bits := by
  simp only [toFloat]
  split
  · exact nearest_signed _ _
  · split
    · exact ⟨0x7FF0000000000000, Nat.le_refl _, fun negative => by cases negative <;> rfl⟩
    · split <;> exact nearest_signed _ _

/-- A double without a sign is a number that is not negative. -/
theorem toBits_nearest_le (num den : Nat) :
    (nearest false num den).toBits.toNat ≤ 0x7FF0000000000000 := by
  obtain ⟨bits, hle, hbits⟩ := nearest_signed num den
  rwa [hbits, toBits_signed hle]

theorem Numeral.toBits_toFloat_le (n : Numeral) :
    (n.toFloat false).toBits.toNat ≤ 0x7FF0000000000000 := by
  obtain ⟨bits, hle, hbits⟩ := n.toFloat_signed
  rwa [hbits, toBits_signed hle]

/-- A numeral that is nearest to a fraction is so with a sign too. -/
theorem Numeral.toFloat_of_positive {n : Numeral} {num den : Nat}
    (h : n.toFloat false = nearest false num den) (negative : Bool) :
    n.toFloat negative = nearest negative num den := by
  obtain ⟨bits, hle, hbits⟩ := n.toFloat_signed
  obtain ⟨bits', hle', hbits'⟩ := nearest_signed num den
  rw [hbits, hbits'] at h
  rw [hbits, hbits', signed_injective hle hle' h]

theorem toFloat_of_neighbour? {x : Float} {num den : Nat} {e : Int} {n : Numeral}
    (h : neighbour? x num den e = some n) : n.toFloat false = x := by
  rw [neighbour?] at h
  split at h
  · next hlower hupper =>
    split at h
    · cases h
      exact of_decide_eq_true hlower
    · cases h
      exact of_decide_eq_true hupper
  · next hlower _ =>
    cases h
    exact of_decide_eq_true hlower
  · next _ hupper =>
    cases h
    exact of_decide_eq_true hupper
  · cases h

/-- The shortest numeral of a double reads back as it. -/
theorem shortest_toFloat {x : Float} {negative : Bool} {m : Nat} {e : Int}
    (h : Binary.ofFloat x = .finite negative m e) (hm : 0 < m) :
    (shortest m e).toFloat negative = x := by
  obtain ⟨hupper, he, hfinite, -⟩ := finite_of_ofFloat h
  have hden : 0 < denominator e := Nat.pow_pos (by decide)
  have hexact : (exactNumeral m e).toFloat false =
      nearest false (numerator m e) (denominator e) := by
    have hvalue : (exactNumeral m e).value = numerator m e / denominator e :=
      (value_exactNumeral m e).trans (numerator_div_denominator m e).symm
    refine Numeral.toFloat_eq_nearest hden hvalue ?_ ?_ false
    · rw [value_exactNumeral]
      have hpow : (2 : ℚ) ^ 1074 ≤ 10 ^ 401 := by
        exact_mod_cast (by decide +kernel : 2 ^ 1074 ≤ 10 ^ 401)
      calc (10 : ℚ) ^ (-401 : Int) ≤ 1 * 2 ^ (-1074 : Int) := by
            rw [one_mul]
            exact inv_anti₀ (by positivity) hpow
        _ ≤ m * 2 ^ e := by
          refine mul_le_mul (by exact_mod_cast hm) ?_ (by positivity) (by positivity)
          exact zpow_le_zpow_right₀ (by decide) (by omega)
    · rw [value_exactNumeral]
      calc (m : ℚ) * 2 ^ e < 2 ^ 53 * 2 ^ (971 : Int) := by
            refine mul_lt_mul (by exact_mod_cast hupper) ?_ (by positivity) (by positivity)
            exact zpow_le_zpow_right₀ (by decide) (by omega)
        _ < 10 ^ (400 : Int) := by
            exact_mod_cast (by decide +kernel : 2 ^ 53 * 2 ^ 971 < 10 ^ 400)
  have hfound : ∀ found : Option Numeral,
      (∀ n ∈ found, n.toFloat false = nearest false (numerator m e) (denominator e)) →
      ((found.getD (exactNumeral m e)).strip 1100).toFloat negative = x := by
    intro found hreads
    rw [Numeral.toFloat_congr (Numeral.value_strip _ _), ← nearest_ofFloat h]
    cases found with
    | none => exact Numeral.toFloat_of_positive hexact negative
    | some n => exact Numeral.toFloat_of_positive (hreads n rfl) negative
  refine hfound _ fun n hn => ?_
  obtain ⟨k, -, hk⟩ := List.exists_of_findSome?_eq_some hn
  exact toFloat_of_neighbour? hk

theorem shortest_coefficient_pos {x : Float} {negative : Bool} {m : Nat} {e : Int}
    (h : Binary.ofFloat x = .finite negative m e) (hm : 0 < m) :
    0 < (shortest m e).coefficient := by
  refine Nat.pos_of_ne_zero fun hzero => ?_
  have hread := shortest_toFloat h hm
  have hbinary : Binary.ofFloat (nearest negative 0 1) = .finite negative 0 (-1074) := by
    cases negative <;> decide +kernel
  rw [Numeral.toFloat, if_pos hzero] at hread
  rw [hread, h] at hbinary
  cases hbinary
  exact Nat.lt_irrefl _ hm

end Microtemplate.Decimal
