import Mathlib
import Microtemplate.Decimal.Binary

/-!
The order of doubles. Two doubles are compared in one way: one is smaller, or neither is, and only what is
no number is not compared with anything. The same comparison from the other side gives the opposite answer.
-/

namespace Microtemplate.Decimal

open Float.Model (UnpackedFloat)

/-- The order of two doubles; none if one of them is no number. -/
def compare? (x y : Float) : Option Ordering := x.toModel.unpack.compare y.toModel.unpack

variable {x y : Float}

theorem lt_iff_compare? : x < y ↔ compare? x y = some .lt := by
  change Float.lt x y = true ↔ _
  rw [Float.lt, decide_eq_true_eq]
  exact beq_iff_eq (α := Option Ordering)

theorem beq_iff_compare? : (x == y) = true ↔ compare? x y = some .eq :=
  beq_iff_eq (α := Option Ordering)

theorem unpacked_compare_swap (a b : UnpackedFloat) :
    (a.compare b).map Ordering.swap = b.compare a := by
  cases a with
  | notANumber => cases b <;> rfl
  | infinity s =>
    cases b with
    | notANumber => rfl
    | infinity s' => cases s <;> cases s' <;> rfl
    | zero s' => cases s <;> rfl
    | finite s' m' e' => cases s <;> rfl
  | zero s =>
    cases b with
    | notANumber => rfl
    | infinity s' => cases s' <;> rfl
    | zero s' => rfl
    | finite s' m' e' => cases s' <;> rfl
  | finite s m e =>
    cases b with
    | notANumber => cases s <;> rfl
    | infinity s' => cases s <;> cases s' <;> rfl
    | zero s' => cases s <;> rfl
    | finite s' m' e' =>
      cases s <;> cases s' <;>
        simp [UnpackedFloat.compare, Ordering.swap_then, Nat.compare_swap, Int.compare_swap]

theorem compare?_swap (x y : Float) : (compare? x y).map Ordering.swap = compare? y x :=
  unpacked_compare_swap _ _

theorem unpacked_compare_eq_none_iff {a b : UnpackedFloat} :
    a.compare b = none ↔ a = .notANumber ∨ b = .notANumber := by
  constructor
  · intro h
    cases a with
    | notANumber => exact .inl rfl
    | infinity s =>
      cases b with
      | notANumber => exact .inr rfl
      | _ => cases s <;> cases h
    | zero s =>
      cases b with
      | notANumber => exact .inr rfl
      | zero s' => cases h
      | infinity s' => cases s' <;> cases h
      | finite s' m' e' => cases s' <;> cases h
    | finite s m e =>
      cases b with
      | notANumber => exact .inr rfl
      | zero s' => cases s <;> cases h
      | infinity s' => cases s <;> cases s' <;> cases h
      | finite s' m' e' => cases s <;> cases s' <;> cases h
  · rintro (rfl | rfl)
    · rfl
    · rw [← unpacked_compare_swap]
      rfl

/-- What is no number is not compared, and all else is. -/
theorem compare?_eq_none_iff : compare? x y = none ↔ x = nan ∨ y = nan := by
  have hnan : ∀ z : Float, z.toModel.unpack = .notANumber ↔ z = nan := by
    intro z
    have hz := Float.isNaN_eq_decide_eq_nan (f := z)
    rw [← UnpackedFloat.isNaN_iff, show nan = Float.nan by decide +kernel]
    change z.isNaN = true ↔ _
    rw [hz, decide_eq_true_eq]
  rw [compare?, unpacked_compare_eq_none_iff, hnan, hnan]

end Microtemplate.Decimal
