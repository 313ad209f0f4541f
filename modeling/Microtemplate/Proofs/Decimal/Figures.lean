import Mathlib.Data.List.TakeWhile
import Microtemplate.Proofs.Decimal.Shortest

/-!
Figures and their value: the figures of a number have the number as their value, and a row of figures
is cut off where something else follows.
-/

namespace Microtemplate.Decimal

theorem figuresValue_concat (cs : List Char) (c : Char) :
    figuresValue (cs ++ [c]) = figuresValue cs * 10 + (c.toNat - '0'.toNat) := by
  rw [figuresValue, List.foldl_append]
  rfl

theorem digitChar_of_lt {d : Nat} (h : d < 10) :
    (digitChar d).isDigit = true ∧ (digitChar d).toNat - '0'.toNat = d ∧
      (digitChar d = '0' → d = 0) := by
  revert d
  decide

/-- The figures of a number, the last one first. -/
theorem figures_eq {n : Nat} (hn : 0 < n) :
    figures n = (Nat.digits 10 n).reverse.map digitChar := by
  rw [figures, inBase, digits_eq (by decide) hn]

theorem isDigit_of_mem_figures {n : Nat} (hn : 0 < n) {c : Char} (hc : c ∈ figures n) :
    c.isDigit = true := by
  rw [figures_eq hn] at hc
  obtain ⟨d, hd, rfl⟩ := List.mem_map.mp hc
  exact (digitChar_of_lt (Nat.digits_lt_base (by decide) (List.mem_reverse.mp hd))).1

/-- Digits, the first one least, have their value when they are written. -/
theorem figuresValue_digits {ds : List Nat} (hds : ∀ d ∈ ds, d < 10) :
    figuresValue (ds.reverse.map digitChar) = Nat.ofDigits 10 ds := by
  induction ds with
  | nil => rfl
  | cons d ds ih =>
    obtain ⟨hd, hmore⟩ := List.forall_mem_cons.mp hds
    rw [List.reverse_cons, List.map_append, List.map_singleton, figuresValue_concat, ih hmore,
      (digitChar_of_lt hd).2.1, Nat.ofDigits_cons]
    omega

theorem figuresValue_figures {n : Nat} (hn : 0 < n) : figuresValue (figures n) = n := by
  rw [figures_eq hn, figuresValue_digits fun d hd => Nat.digits_lt_base (by decide) hd,
    Nat.ofDigits_digits]

/-- The figures of a number do not start with zero. -/
theorem exists_cons_figures {n : Nat} (hn : 0 < n) : ∃ c cs, figures n = c :: cs ∧ c ≠ '0' := by
  have hne : Nat.digits 10 n ≠ [] := Nat.digits_ne_nil_iff_ne_zero.mpr hn.ne'
  obtain ⟨init, last, hlast⟩ : ∃ init last, Nat.digits 10 n = init ++ [last] :=
    ⟨_, _, (List.dropLast_append_getLast hne).symm⟩
  have hlastne : last ≠ 0 := by
    have h := Nat.getLast_digit_ne_zero 10 hn.ne'
    simpa [hlast] using h
  refine ⟨digitChar last, init.reverse.map digitChar, ?_, fun hzero => hlastne ?_⟩
  · rw [figures_eq hn, hlast, List.reverse_append]
    rfl
  · exact (digitChar_of_lt
      (Nat.digits_lt_base (m := n) (by decide) (by rw [hlast]; simp))).2.2 hzero

theorem figuresValue_zeros_append (k : Nat) (cs : List Char) :
    figuresValue (List.replicate k '0' ++ cs) = figuresValue cs := by
  induction k with
  | zero => rfl
  | succ k ih => exact ih

theorem figuresValue_append_zeros (cs : List Char) (k : Nat) :
    figuresValue (cs ++ List.replicate k '0') = figuresValue cs * 10 ^ k := by
  induction k with
  | zero => rw [List.replicate_zero, List.append_nil, Nat.pow_zero, Nat.mul_one]
  | succ k ih =>
    rw [List.replicate_succ', ← List.append_assoc, figuresValue_concat, ih, Nat.pow_succ]
    exact Nat.mul_assoc _ _ _

theorem figuresValue_append (cs ds : List Char) :
    figuresValue (cs ++ ds) = figuresValue cs * 10 ^ ds.length + figuresValue ds := by
  induction ds using List.reverseRecOn with
  | nil => simp [figuresValue]
  | append_singleton ds d ih =>
    rw [← List.append_assoc, figuresValue_concat, ih, figuresValue_concat, List.length_append,
      List.length_singleton, Nat.pow_succ]
    ring

theorem span_figures {ds rest : List Char} (hds : ∀ c ∈ ds, c.isDigit = true)
    (hrest : ∀ c ∈ rest.head?, c.isDigit = false) :
    (ds ++ rest).span Char.isDigit = (ds, rest) := by
  rw [List.span_eq_takeWhile_dropWhile, List.takeWhile_append_of_pos hds,
    List.dropWhile_append_of_pos hds]
  cases rest with
  | nil => simp
  | cons c rest =>
    have hc : ¬ c.isDigit = true := by simp [hrest c rfl]
    rw [List.takeWhile_cons_of_neg hc, List.dropWhile_cons_of_neg hc, List.append_nil]

end Microtemplate.Decimal
