import Mathlib
import Microtemplate.Script.Comparison

/-!
Equality of values. Strict equality is symmetric and transitive, and what is no number is the only value
that differs from itself. Loose equality converts one of the two values and compares again until the two
are compared as they are. No comparison takes more than two conversions, whatever arrays contain each
other, and the order of the two values makes no difference.
-/

namespace Microtemplate.Script

namespace Value

variable {a b c : Value}

/-- Strictly equal values are the same, but for numbers, which are compared as numbers. -/
theorem strictEquals_iff : a.strictEquals b = true ↔
    (∃ x y, a = .number x ∧ b = .number y ∧ (x == y) = true) ∨ a = b ∧ ∀ x, a ≠ .number x := by
  cases a <;> cases b <;> simp [strictEquals]

theorem strictEquals_comm (a b : Value) : a.strictEquals b = b.strictEquals a := by
  rw [Bool.eq_iff_iff, strictEquals_iff, strictEquals_iff]
  constructor
  all_goals
    rintro (⟨x, y, rfl, rfl, h⟩ | ⟨rfl, h⟩)
    · exact .inl ⟨y, x, rfl, rfl, BEq.symm h⟩
    · exact .inr ⟨rfl, h⟩

theorem strictEquals_trans (h : a.strictEquals b = true) (h' : b.strictEquals c = true) :
    a.strictEquals c = true := by
  rw [strictEquals_iff] at h h' ⊢
  obtain ⟨x, y, rfl, rfl, hxy⟩ | ⟨rfl, ha⟩ := h
  · obtain ⟨y, z, ⟨⟩, rfl, hyz⟩ | ⟨-, hb⟩ := h'
    · exact .inl ⟨x, z, rfl, rfl, BEq.trans hxy hyz⟩
    · exact absurd rfl (hb y)
  · exact h'

/-- The value that is no number is the only one that differs from itself. -/
theorem strictEquals_self_iff : a.strictEquals a = true ↔ a ≠ .number Decimal.nan := by
  have hnan : Decimal.nan = Float.nan := by decide +kernel
  cases a <;> simp [strictEquals, hnan]

theorem isNullish_iff : a.isNullish = true ↔ a = .undefined ∨ a = .null := by
  cases a <;> simp [isNullish]

theorem scalarEquals_comm (a b : Value) : a.scalarEquals b = b.scalarEquals a := by
  unfold scalarEquals
  split
  · exact BEq.comm
  · exact BEq.comm
  · next hnumber hstring =>
    rw [strictEquals_comm]
    split
    · next x t => exact (hstring t x rfl rfl).elim
    · next t x => exact (hnumber x t rfl rfl).elim
    · rfl

/-- Comparing two values as they are: all that stands for nothing is equal, a number and a text are
compared as numbers. -/
def plainEquals (a b : Value) : Bool := a.isNullish && b.isNullish || a.scalarEquals b

/-- How many conversions a value can still go through. -/
def conversions : Value → Nat
  | boolean _ | array _ | object _ => 1
  | _ => 0

theorem conversions_le (v : Value) : v.conversions ≤ 1 := by
  cases v <;> simp [conversions]

end Value

namespace Store

open Value

variable {s : Store} {a b a' b' : Value} {n : Nat} {r : Bool}

/-- The conversion with which a comparison starts: a boolean becomes a number, and a container against a
number or a text becomes its text. None if the two values are compared as they are. -/
def converted? (s : Store) (a b : Value) : Option (Value × Value) :=
  if a.isNullish || b.isNullish then none
  else
    match a, b with
    | .boolean _, _ => some (.number (s.number a), b)
    | _, .boolean _ => some (a, .number (s.number b))
    | .number _, .array _ | .number _, .object _ | .string _, .array _ | .string _, .object _ =>
      some (a, s.primitive b)
    | .array _, .number _ | .object _, .number _ | .array _, .string _ | .object _, .string _ =>
      some (s.primitive a, b)
    | _, _ => none

/-- Two values are compared after so many conversions. -/
inductive Compares (s : Store) : Nat → Value → Value → Bool → Prop
  | plain {a b : Value} (h : s.converted? a b = none) : Compares s 0 a b (plainEquals a b)
  | converted {a b a' b' : Value} {n : Nat} {r : Bool} (h : s.converted? a b = some (a', b'))
      (hrest : Compares s n a' b' r) : Compares s (n + 1) a b r

theorem conversions_of_converted? (h : s.converted? a b = some (a', b')) :
    conversions a' + conversions b' + 1 = conversions a + conversions b := by
  unfold converted? at h
  split at h
  · cases h
  · split at h <;> cases h <;> simp [conversions, primitive, Nat.add_comm]

/-- A conversion does not change the answer. -/
theorem looseEquals_of_converted? (h : s.converted? a b = some (a', b')) :
    s.looseEquals a b = s.looseEquals a' b' := by
  unfold converted? at h
  split at h
  · cases h
  · split at h <;> cases h <;> simp_all [looseEquals, isNullish, withoutBoolean, primitive, number]

theorem looseEquals_of_converted?_eq_none (h : s.converted? a b = none) :
    s.looseEquals a b = plainEquals a b := by
  cases a <;> cases b <;> first | rfl | cases h

/-- Whatever a comparison converts, its answer is that of loose equality. -/
theorem Compares.eq_looseEquals (h : s.Compares n a b r) : r = s.looseEquals a b := by
  induction h with
  | plain h => exact (looseEquals_of_converted?_eq_none h).symm
  | converted h _ ih => exact ih.trans (looseEquals_of_converted? h).symm

/-- A comparison ends: each conversion leaves less to convert. -/
theorem exists_compares (s : Store) (a b : Value) :
    ∃ n ≤ conversions a + conversions b, s.Compares n a b (s.looseEquals a b) := by
  cases hconverted : s.converted? a b with
  | none =>
    rw [looseEquals_of_converted?_eq_none hconverted]
    exact ⟨0, Nat.zero_le _, .plain hconverted⟩
  | some pair =>
    have hless := conversions_of_converted? hconverted
    obtain ⟨n, hn, hcompares⟩ := exists_compares s pair.1 pair.2
    rw [looseEquals_of_converted? hconverted]
    exact ⟨n + 1, by omega, .converted hconverted hcompares⟩
termination_by conversions a + conversions b
decreasing_by omega

theorem looseEquals_comm (s : Store) (a b : Value) : s.looseEquals a b = s.looseEquals b a := by
  unfold looseEquals
  rw [Bool.or_comm, Bool.and_comm]
  split
  · rfl
  · generalize a.withoutBoolean = x
    generalize b.withoutBoolean = y
    cases x <;> cases y <;> exact scalarEquals_comm _ _

theorem looseEquals_of_strictEquals (h : a.strictEquals b = true) : s.looseEquals a b = true := by
  rw [strictEquals_iff] at h
  obtain ⟨x, y, rfl, rfl, hxy⟩ | ⟨rfl, hnumber⟩ := h
  · exact hxy
  · cases a with
    | boolean b => cases b <;> exact Float.beq_self_iff.mpr (by decide +kernel)
    | number x => exact absurd rfl (hnumber x)
    | _ => simp [looseEquals, isNullish, withoutBoolean, scalarEquals, strictEquals]

theorem looseEquals_of_isNullish (h : a.isNullish = true) (b : Value) :
    s.looseEquals a b = b.isNullish := by
  simp [looseEquals, h]

theorem looseEquals_string (h : ∃ p, a = .array p ∨ a = .object p) (t : String) :
    s.looseEquals a (.string t) = (s.text a == t) := by
  obtain ⟨p, rfl | rfl⟩ := h <;> rfl

/-- Loose equality ends after at most two conversions with the one answer that its conversions allow. It
is symmetric and extends strict equality, which is symmetric, transitive and reflexive but for what is no
number. What stands for nothing is loosely equal to nothing else, and a container is loosely equal to a
text that is its own text. -/
theorem looseEquals_extends_strictEquals (s : Store) :
    (∀ a b, (∃ n ≤ 2, s.Compares n a b (s.looseEquals a b)) ∧
      ∀ n r, s.Compares n a b r → r = s.looseEquals a b) ∧
    (∀ a b, s.looseEquals a b = s.looseEquals b a) ∧
    (∀ a b : Value, a.strictEquals b = true → s.looseEquals a b = true) ∧
    (∀ a b : Value, a.strictEquals b = b.strictEquals a) ∧
    (∀ a b c : Value, a.strictEquals b = true → b.strictEquals c = true → a.strictEquals c = true) ∧
    (∀ a : Value, a.strictEquals a = true ↔ a ≠ .number Decimal.nan) ∧
    (∀ a b : Value, a = .undefined ∨ a = .null →
      (s.looseEquals a b = true ↔ b = .undefined ∨ b = .null)) ∧
    ∀ (a : Value) (t : String), (∃ p, a = .array p ∨ a = .object p) →
      (s.looseEquals a (.string t) = true ↔ t = s.text a) := by
  refine ⟨fun a b => ⟨?_, fun n r h => h.eq_looseEquals⟩, s.looseEquals_comm,
    fun a b => looseEquals_of_strictEquals, strictEquals_comm, fun a b c => strictEquals_trans,
    fun a => strictEquals_self_iff, fun a b ha => ?_, fun a t ha => ?_⟩
  · have ha := conversions_le a
    have hb := conversions_le b
    obtain ⟨n, hn, hcompares⟩ := s.exists_compares a b
    exact ⟨n, by omega, hcompares⟩
  · rw [looseEquals_of_isNullish (isNullish_iff.mpr ha), isNullish_iff]
  · rw [looseEquals_string ha, beq_iff_eq, eq_comm]

/-- An array that holds itself is compared with a text and with a boolean. -/
theorem looseEquals_extends_strictEquals_in_cycle :
    let s : Store := ⟨#[#[.number 1.0, .array 0]], #[], #[], #[], #[]⟩
    (Value.array 0).strictEquals (.array 0) = true ∧ s.looseEquals (.array 0) (.array 0) = true ∧
      s.looseEquals (.array 0) (.string "1,") = true ∧
      s.looseEquals (.boolean true) (.array 0) = s.looseEquals (.array 0) (.boolean true) ∧
      s.looseEquals .null (.array 0) ≠ true := by
  intro s
  obtain ⟨-, hsymm, hextends, -, -, -, hnothing, htext⟩ := looseEquals_extends_strictEquals s
  refine ⟨rfl, hextends _ _ rfl, (htext _ _ ⟨0, .inl rfl⟩).mpr (by decide +kernel), hsymm _ _, ?_⟩
  rw [Ne, hnothing _ _ (.inr rfl)]
  simp

end Store

end Microtemplate.Script
