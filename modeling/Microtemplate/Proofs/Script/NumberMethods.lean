import Microtemplate.Proofs.Decimal.Fixed
import Microtemplate.Proofs.Decimal.Radix
import Microtemplate.Proofs.Script.Running

/-!
The methods of numbers. A whole number is written in a base, and any number is rounded to a count of
places, as the exact values say; only `2 ^ 64`, the largest number that is written in another base than
ten, is written as the number before it.
-/

namespace Microtemplate.Script

open Decimal

namespace Evaluator

variable {self : Evaluator} {c : Context} {s : Store} {m : Address} {x : Float} {args : List Value}

/-- Calling a method of a number gives what the method gives and changes nothing. -/
theorem callStep_number {method : Method} {v : Value} (hm : s.methods[m]? = some ⟨.number x, method⟩)
    (hrun : NumberMethod.run s x method args = .ok v) :
    (self.callStep c (.method m) args).Gives s v s := by
  refine callStep_method hm (.bind (.read _) ?_)
  rw [hrun]
  exact .pure v

end Evaluator

namespace NumberMethod

variable {s : Store} {x : Float} {args : List Value}

/-- A base is never `undefined`, which stands for base ten. -/
theorem toText_eq {base : Nat} (hbase : s.whole (argument args 0) = .int base) (hlow : 2 ≤ base)
    (hhigh : base ≤ 36) : toText s x args = .ok (radixText x base) := by
  have hzero : s.whole .undefined = .int 0 := (by decide +kernel : Whole.ofFloat nan = .int 0)
  unfold toText
  split
  · next hundefined =>
    rw [hundefined, hzero] at hbase
    have := Whole.int.inj hbase
    omega
  · rw [hbase]
    exact if_neg (by omega)

/-- A number below `10 ^ 21` is rounded to as many places as the argument says. -/
theorem toFixed_eq {negative : Bool} {significand : Nat} {exponent : Int} {places : Nat} {q : ℚ}
    (hx : Exactly x q) (hfinite : Binary.ofFloat x = .finite negative significand exponent)
    (hq : |q| < 10 ^ 21) (hplaces : s.whole (argument args 0) = .int places)
    (hmost : places ≤ 100) :
    toFixed s x args = .ok (fixedText negative significand exponent places) := by
  have hsmall : ¬ Nat.pow 10 21 * denominator exponent ≤ numerator significand exponent := by
    have hden : (0 : ℚ) < denominator exponent := by
      exact_mod_cast (Nat.pow_pos (by decide) : 0 < denominator exponent)
    rw [hx.abs_eq hfinite, ← numerator_div_denominator, div_lt_iff₀ hden] at hq
    rw [Nat.not_le, Nat.pow_eq]
    exact_mod_cast hq
  simp only [toFixed, hplaces, hfinite, if_neg hsmall, Int.toNat_natCast]
  exact if_neg (by omega)

end NumberMethod

namespace Evaluator

variable {self : Evaluator} {c : Context} {s : Store} {m : Address} {x : Float} {args : List Value}

/-- The text of a whole number in a base, for every base but ten and every number below `2 ^ 64` in
size: a minus sign if the number is negative, and the number written in the base. At `2 ^ 64` it is the
text of the number before it. -/
theorem number_in_base {i : Int} {base : Nat}
    (hm : s.methods[m]? = some ⟨.number x, .toString⟩) (hx : Exactly x i)
    (hrange : i.natAbs ≤ 2 ^ 64) (hbase : s.whole (argument args 0) = .int base)
    (hlow : 2 ≤ base) (hhigh : base ≤ 36) (hten : base ≠ 10) :
    ∃ cs, (self.callStep c (.method m) args).Gives s
        (.string (String.ofList (if i < 0 then '-' :: cs else cs))) s ∧
      (i.natAbs < 2 ^ 64 → WrittenIn base i.natAbs cs) ∧
      (i.natAbs = 2 ^ 64 → WrittenIn base (2 ^ 64 - 1) cs) := by
  have hwritten := writtenIn_inBase hlow hhigh (min i.natAbs (2 ^ 64 - 1))
  refine ⟨inBase base (min i.natAbs (2 ^ 64 - 1)), callStep_number hm ?_, fun hless => ?_,
    fun hlargest => ?_⟩
  · rw [NumberMethod.run, NumberMethod.toText_eq hbase hlow hhigh, radixText_eq hx hrange hten]
    rfl
  · rwa [Nat.min_eq_left (by omega)] at hwritten ⊢
  · rwa [hlargest] at hwritten ⊢

/-- A negative number in base sixteen. -/
theorem number_in_base_negative :
    let s : Store := ⟨#[], #[], #[], #[⟨.number (-255.0), .toString⟩], #[]⟩
    let args : List Value := [.number 16.0]
    Exactly (-255.0) (-255 : Int) ∧ s.whole (argument args 0) = .int (16 : Nat) ∧
      ∃ cs, ((within 0).callStep ⟨[], 0, 0⟩ (.method 0) args).Gives s
        (.string (String.ofList ('-' :: cs))) s ∧ WrittenIn 16 255 cs := by
  intro s args
  have hx : Exactly (-255.0) (-255 : Int) :=
    ⟨true, 255 * 2 ^ 45, -45, by decide +kernel, by norm_num⟩
  have hbase : s.whole (argument args 0) = .int (16 : Nat) :=
    (by decide +kernel : Whole.ofFloat 16.0 = .int (16 : Nat))
  obtain ⟨cs, hgives, hwritten, -⟩ := @number_in_base (within 0) ⟨[], 0, 0⟩ s 0 (-255.0) args (-255) 16
    rfl hx (by decide) hbase (by decide) (by decide) (by decide)
  exact ⟨hx, hbase, cs, hgives, hwritten (by decide)⟩

/-- The largest number that is written in base sixteen is not written as itself. -/
theorem radixText_largest : Exactly 18446744073709551616.0 (2 ^ 64 : Int) ∧
    radixText 18446744073709551616.0 16 = "ffffffffffffffff" ∧
    ¬ WrittenIn 16 (2 ^ 64) "ffffffffffffffff".toList :=
  ⟨⟨false, 2 ^ 52, 12, by decide +kernel, by norm_num⟩, by decide +kernel,
    fun h => absurd h.value (by decide +kernel)⟩

/-- Rounding a finite number below `10 ^ 21` to a count of places: a minus sign if the number is
negative, and the exact value rounded to the nearest decimal with these places, a half away from
zero. -/
theorem number_rounded {q : ℚ} {places : Nat}
    (hm : s.methods[m]? = some ⟨.number x, .toFixed⟩) (hx : Exactly x q) (hq : |q| < 10 ^ 21)
    (hplaces : s.whole (argument args 0) = .int places) (hmost : places ≤ 100) :
    ∃ cs, (self.callStep c (.method m) args).Gives s
        (.string (String.ofList (if q < 0 then '-' :: cs else cs))) s ∧
      FixedNumeral places cs (⌊|q| * 10 ^ places + 1 / 2⌋₊ / 10 ^ places) := by
  obtain ⟨negative, significand, exponent, hfinite, -⟩ := id hx
  have hden : 0 < denominator exponent := Nat.pow_pos (by decide)
  have hexact : places < exactPlaces := Nat.lt_of_le_of_lt hmost (by decide)
  have hnumeral :=
    (@placed_roundedDigits (numerator significand exponent) _ places hden hexact).fixedNumeral
  rw [numerator_div_denominator, ← hx.abs_eq hfinite] at hnumeral
  refine ⟨_, callStep_number hm ?_, hnumeral⟩
  rw [NumberMethod.run, NumberMethod.toFixed_eq hx hfinite hq hplaces hmost]
  simp only [hx.neg_iff hfinite]
  rfl

/-- A half is rounded away from zero, here with a carry that adds a figure. -/
theorem number_rounded_carrying :
    let s : Store := ⟨#[], #[], #[], #[⟨.number (-9.5), .toFixed⟩], #[]⟩
    Exactly (-9.5) (-19 / 2) ∧ s.whole (argument [] 0) = .int (0 : Nat) ∧
      ∃ cs, ((within 0).callStep ⟨[], 0, 0⟩ (.method 0) []).Gives s
        (.string (String.ofList ('-' :: cs))) s ∧ FixedNumeral 0 cs 10 := by
  intro s
  have hx : Exactly (-9.5) (-19 / 2) := ⟨true, 19 * 2 ^ 48, -49, by decide +kernel, by norm_num⟩
  have hplaces : s.whole (argument [] 0) = .int (0 : Nat) :=
    (by decide +kernel : Whole.ofFloat nan = .int (0 : Nat))
  obtain ⟨cs, hgives, hnumeral⟩ := @number_rounded (within 0) ⟨[], 0, 0⟩ s 0 (-9.5) [] (-19 / 2) 0
    rfl hx (by norm_num [abs_div]) hplaces (by decide)
  have hnegative : (-19 / 2 : ℚ) < 0 := by norm_num
  have hrounded : ⌊|(-19 / 2 : ℚ)| * 10 ^ 0 + 1 / 2⌋₊ = 10 := by
    rw [Nat.floor_eq_iff (by positivity)]
    norm_num [abs_div]
  rw [if_pos hnegative] at hgives
  rw [hrounded] at hnumeral
  exact ⟨hx, hplaces, cs, hgives, by simpa using hnumeral⟩

end Evaluator

end Microtemplate.Script
