import Mathlib.Data.List.Lex
import Microtemplate.Text.Units

/-!
The order of texts by UTF-16 code units. Each text has one row of units, and since the halves of a pair
are no characters by themselves, different texts have different rows. The first difference of two rows
decides their order, and a row comes before one that goes on after it.
-/

namespace Microtemplate.Text

/-- The UTF-16 form of a text. A character up to U+FFFF is one unit; one beyond it is a pair of surrogates
with ten bits of its number in each. -/
inductive InUnits : List Char → List Nat → Prop
  | nil : InUnits [] []
  | single {c : Char} {u : Nat} {cs : List Char} {us : List Nat} (hu : u < 0x10000)
      (hc : c.toNat = u) (h : InUnits cs us) : InUnits (c :: cs) (u :: us)
  | pair {c : Char} {high low : Nat} {cs : List Char} {us : List Nat}
      (hhigh : 0xD800 ≤ high ∧ high < 0xDC00) (hlow : 0xDC00 ≤ low ∧ low < 0xE000)
      (hc : c.toNat = 0x10000 + (high - 0xD800) * 0x400 + (low - 0xDC00)) (h : InUnits cs us) :
      InUnits (c :: cs) (high :: low :: us)

variable {cs ds : List Char} {us vs : List Nat}

/-- The number of a character is no surrogate and has at most 21 bits. -/
theorem toNat_cases (c : Char) : c.toNat < 0xD800 ∨ 0xDFFF < c.toNat ∧ c.toNat < 0x110000 := c.valid

theorem inUnits_units (cs : List Char) : InUnits cs (units cs) := by
  induction cs with
  | nil => exact .nil
  | cons c cs ih =>
    have hbounds := toNat_cases c
    rw [units, List.flatMap_cons, unitsOfChar]
    by_cases hc : c.toNat < 0x10000
    · rw [if_pos hc]
      exact .single hc rfl ih
    · rw [if_neg hc]
      apply InUnits.pair _ _ _ ih <;> omega

/-- A row of units is the form of one text only. -/
theorem InUnits.injective (hc : InUnits cs us) (hd : InUnits ds us) : cs = ds := by
  induction hc generalizing ds with
  | nil =>
    cases hd
    rfl
  | @single c _ _ _ _ hc _ ih =>
    cases hd with
    | single _ hd hrest => rw [Char.toNat_inj.mp (hc.trans hd.symm), ih hrest]
    | pair hhigh =>
      have hbounds := toNat_cases c
      omega
  | pair hhigh _ hc _ ih =>
    cases hd with
    | @single d _ _ _ _ hd =>
      have hbounds := toNat_cases d
      omega
    | pair _ _ hd hrest => rw [Char.toNat_inj.mp (hc.trans hd.symm), ih hrest]

/-- A text has one row of units. -/
theorem InUnits.eq_units (h : InUnits cs us) : us = units cs := by
  induction h with
  | nil => rfl
  | @single c _ _ _ hu hc _ ih =>
    rw [units, List.flatMap_cons, unitsOfChar, hc, if_pos hu, ih]
    rfl
  | @pair c high low _ _ hhigh hlow hc _ ih =>
    rw [units, List.flatMap_cons, unitsOfChar, if_neg (by omega), ih]
    have hfirst : 0xD800 + (c.toNat - 0x10000) / 1024 = high := by omega
    have hsecond : 0xDC00 + (c.toNat - 0x10000) % 1024 = low := by omega
    rw [hfirst, hsecond]
    rfl

theorem units_inj : units cs = units ds ↔ cs = ds := by
  constructor
  · intro h
    exact (inUnits_units cs).injective (h ▸ inUnits_units ds)
  · exact congrArg units

theorem compareUnits_swap (us vs : List Nat) : (compareUnits us vs).swap = compareUnits vs us := by
  fun_induction compareUnits us vs with
  | case1 => rfl
  | case2 => rfl
  | case3 => rfl
  | case4 u us v vs hlt => simp [compareUnits, hlt, Nat.lt_asymm hlt]
  | case5 u us v vs hlt hgt => simp [compareUnits, hgt]
  | case6 u us v vs hlt hgt ih => simp [compareUnits, hlt, hgt, ih]

theorem compareUnits_eq_lt_iff : compareUnits us vs = .lt ↔ us < vs := by
  fun_induction compareUnits us vs with
  | case1 => simp
  | case2 => simp
  | case3 => simp
  | case4 u us v vs hlt => simp [List.cons_lt_cons_iff, hlt]
  | case5 u us v vs hlt hgt => simp [List.cons_lt_cons_iff, hlt, Nat.ne_of_gt hgt]
  | case6 u us v vs hlt hgt ih =>
    have heq : u = v := by omega
    simp [heq, ih]

end Microtemplate.Text
