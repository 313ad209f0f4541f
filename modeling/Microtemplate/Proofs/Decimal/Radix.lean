import Microtemplate.Decimal.Notation
import Microtemplate.Proofs.Decimal.Exact
import Microtemplate.Proofs.Decimal.Shortest

/-!
Whole numbers in a base. The text of a number in a base from two to thirty-six has the first figures
of one alphabet, none of them superfluous, and is read back as the number. Numbers of `2 ^ 64` and
more are left out: the largest one that `radixText` takes, `2 ^ 64` itself, is written as
`2 ^ 64 - 1`.
-/

namespace Microtemplate.Decimal

/-- The figures of all bases, the smallest one first. -/
def alphabet : List Char := "0123456789abcdefghijklmnopqrstuvwxyz".toList

/-- What a row of figures stands for in a base. -/
def valueIn (base : Nat) (cs : List Char) : Nat :=
  cs.foldl (fun n c => n * base + alphabet.idxOf c) 0

/-- A text is a number written in a base: it has figures of the base only, no superfluous zero before
them, and their value is the number. -/
structure WrittenIn (base n : Nat) (cs : List Char) : Prop where
  figures : cs ≠ [] ∧ ∀ c ∈ cs, c ∈ alphabet.take base
  first : ∀ rest, cs = '0' :: rest → rest = []
  value : valueIn base cs = n

theorem valueIn_concat (base : Nat) (cs : List Char) (c : Char) :
    valueIn base (cs ++ [c]) = valueIn base cs * base + alphabet.idxOf c := by
  rw [valueIn, List.foldl_append]
  rfl

/-- A digit is written as the figure at its place in the alphabet. -/
theorem digitChar_eq {d : Nat} (h : d < 36) :
    alphabet[d]? = some (digitChar d) ∧ alphabet.idxOf (digitChar d) = d ∧
      (digitChar d = '0' → d = 0) := by
  revert d
  decide +kernel

variable {base : Nat}

theorem mem_alphabet_take {d : Nat} (h : d < base) (hbase : base ≤ 36) :
    digitChar d ∈ alphabet.take base := by
  refine List.mem_of_getElem? (i := d) ?_
  rw [List.getElem?_take_of_lt h]
  exact (digitChar_eq (by omega)).1

theorem valueIn_digits (hbase : base ≤ 36) (ds : List Nat) (hds : ∀ d ∈ ds, d < base) :
    valueIn base (ds.reverse.map digitChar) = Nat.ofDigits base ds := by
  induction ds with
  | nil => rfl
  | cons d ds ih =>
    obtain ⟨hd, hmore⟩ := List.forall_mem_cons.mp hds
    rw [List.reverse_cons, List.map_append, List.map_singleton, valueIn_concat, ih hmore,
      (digitChar_eq (Nat.lt_of_lt_of_le hd hbase)).2.1, Nat.ofDigits_cons]
    exact (Nat.add_comm _ _).trans (congrArg _ (Nat.mul_comm _ _))

/-- The digits of a number in a base are written as the number. -/
theorem writtenIn_inBase (hlow : 2 ≤ base) (hhigh : base ≤ 36) (n : Nat) :
    WrittenIn base n (inBase base n) := by
  rcases Nat.eq_zero_or_pos n with rfl | hn
  · have hzero : inBase base 0 = ['0'] := by
      rw [inBase, digits, digits.go, if_pos (by omega)]
      rfl
    rw [hzero]
    refine ⟨⟨List.cons_ne_nil _ _, fun c hc => ?_⟩, fun rest hrest => (List.cons.inj hrest).2.symm,
      ?_⟩
    · rw [List.mem_singleton.mp hc]
      exact mem_alphabet_take (d := 0) (by omega) hhigh
    · rw [valueIn, List.foldl_cons, Nat.zero_mul]
      rfl
  · have hlt : ∀ d ∈ Nat.digits base n, d < base := fun d hd => Nat.digits_lt_base hlow hd
    have hne : Nat.digits base n ≠ [] := Nat.digits_ne_nil_iff_ne_zero.mpr hn.ne'
    rw [inBase, digits_eq hlow hn]
    refine ⟨⟨by simpa using hne, fun c hc => ?_⟩, fun rest hrest => ?_, ?_⟩
    · obtain ⟨d, hd, rfl⟩ := List.mem_map.mp hc
      exact mem_alphabet_take (hlt d (List.mem_reverse.mp hd)) hhigh
    · -- The first figure is the last of Mathlib's digits, which is no zero.
      have hlast := Nat.getLast_digit_ne_zero base hn.ne'
      rw [List.getLast_eq_head_reverse] at hlast
      cases hdigits : (Nat.digits base n).reverse with
      | nil => exact absurd (by simpa using hdigits) hne
      | cons d ds =>
        simp only [hdigits, List.map_cons, List.head_cons] at hrest hlast
        have hd : d < base := hlt d (List.mem_reverse.mp (by rw [hdigits]; exact List.mem_cons_self))
        exact absurd ((digitChar_eq (by omega)).2.2 (List.cons.inj hrest).1) hlast
    · rw [valueIn_digits hhigh _ hlt, Nat.ofDigits_digits]

/-- A whole number up to `2 ^ 64` is written in any base but ten, the largest one as if it were one
less. -/
theorem radixText_eq {x : Float} {i : Int} (hx : Exactly x i) (hrange : i.natAbs ≤ 2 ^ 64)
    (hten : base ≠ 10) : radixText x base =
      String.ofList (if i < 0 then '-' :: inBase base (min i.natAbs (2 ^ 64 - 1))
        else inBase base (min i.natAbs (2 ^ 64 - 1))) := by
  have hguard : ¬ (base = 10 ∨ Nat.pow 2 64 < i.natAbs) := by
    rintro (h | h)
    · exact hten h
    · exact absurd h (Nat.not_lt.mpr hrange)
  simp only [radixText, hx.exactInt?_eq, if_neg hguard]
  rfl

end Microtemplate.Decimal
