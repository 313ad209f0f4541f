import Mathlib.Data.Nat.Find
import Mathlib.Order.Bounds.Basic
import Microtemplate.Text.Search

/-!
Searching in texts, said with positions: where a text stands in another, and which of these places is
the first one at or after a position. A text that stands in another cuts it at its first place.
-/

namespace Microtemplate.Text

variable {wanted cs : List Char} {start i : Nat}

/-- An occurrence is the first one: the text stands there, and nowhere before. -/
theorem occurrence?_eq_some_iff :
    occurrence? wanted cs = some i ↔
      i ≤ cs.length ∧ wanted <+: cs.drop i ∧ ∀ k, k < i → ¬ wanted <+: cs.drop k := by
  induction cs generalizing i with
  | nil =>
    cases wanted with
    | nil => cases i <;> simp [occurrence?]
    | cons w ws => simp [occurrence?]
  | cons c cs ih =>
    by_cases h : wanted <+: c :: cs
    · have hfirst : occurrence? wanted (c :: cs) = some 0 := by
        simp [occurrence?, List.isPrefixOf_iff_prefix.mpr h]
      rw [hfirst]
      constructor
      · rintro ⟨⟩
        exact ⟨Nat.zero_le _, h, by simp⟩
      · rintro ⟨-, -, hfresh⟩
        cases i with
        | zero => rfl
        | succ i => exact absurd h (hfresh 0 (Nat.succ_pos i))
    · have hlater : occurrence? wanted (c :: cs) = (occurrence? wanted cs).map (· + 1) := by
        have hnot : wanted.isPrefixOf (c :: cs) = false :=
          Bool.eq_false_iff.mpr fun hp => h (List.isPrefixOf_iff_prefix.mp hp)
        simp [occurrence?, hnot]
      rw [hlater, Option.map_eq_some_iff]
      constructor
      · rintro ⟨j, hj, rfl⟩
        obtain ⟨hle, hat, hfresh⟩ := ih.mp hj
        refine ⟨Nat.succ_le_succ hle, hat, fun k hk => ?_⟩
        cases k with
        | zero => exact h
        | succ k => exact hfresh k (Nat.lt_of_succ_lt_succ hk)
      · rintro ⟨hle, hat, hfresh⟩
        cases i with
        | zero => exact absurd hat h
        | succ i =>
          exact ⟨i, ih.mpr ⟨Nat.le_of_succ_le_succ hle, hat,
            fun k hk => hfresh (k + 1) (Nat.succ_lt_succ hk)⟩, rfl⟩

/-- A text stands at a position of another. -/
def OccursAt (wanted cs : List Char) (i : Nat) : Prop := i ≤ cs.length ∧ wanted <+: cs.drop i

theorem occurrence?_eq_some_iff_isLeast :
    occurrence? wanted cs = some i ↔ IsLeast {j | OccursAt wanted cs j} i := by
  rw [occurrence?_eq_some_iff]
  constructor
  · rintro ⟨hle, hat, hfresh⟩
    exact ⟨⟨hle, hat⟩, fun k hk => Nat.le_of_not_lt fun hlt => hfresh k hlt hk.2⟩
  · rintro ⟨⟨hle, hat⟩, hfirst⟩
    refine ⟨hle, hat, fun k hlt hat' => ?_⟩
    have hle' := hfirst ⟨by omega, hat'⟩
    omega

/-- What gives the least place there is gives one if there is one. -/
theorem isSome_iff_of_isLeast {places : Set Nat} {found : Option Nat}
    (h : ∀ i, found = some i ↔ IsLeast places i) : found.isSome = true ↔ places.Nonempty := by
  rw [Option.isSome_iff_exists]
  constructor
  · rintro ⟨i, hi⟩
    exact ⟨i, ((h i).mp hi).1⟩
  · intro hplaces
    classical
    exact ⟨Nat.find hplaces, (h _).mpr ⟨Nat.find_spec hplaces, fun k hk => Nat.find_min' hplaces hk⟩⟩

/-- What is first found so many places after the start is first found at or after the start. -/
theorem map_add_eq_some_iff_isLeast {P : Nat → Prop} {found : Option Nat}
    (h : ∀ i, found = some i ↔ IsLeast {j | P (start + j)} i) :
    found.map (· + start) = some i ↔ IsLeast {j | start ≤ j ∧ P j} i := by
  rw [Option.map_eq_some_iff]
  constructor
  · rintro ⟨j, hj, rfl⟩
    obtain ⟨hat, hfirst⟩ := (h j).mp hj
    refine ⟨⟨Nat.le_add_left _ _, Nat.add_comm start j ▸ hat⟩, fun k ⟨hk, hP⟩ => ?_⟩
    have hle : j ≤ k - start := hfirst (show P (start + (k - start)) by rwa [Nat.add_sub_cancel' hk])
    omega
  · rintro ⟨⟨hle, hat⟩, hfirst⟩
    refine ⟨i - start, (h _).mpr ⟨?_, fun k hk => ?_⟩, Nat.sub_add_cancel hle⟩
    · change P (start + (i - start))
      rwa [Nat.add_sub_cancel' hle]
    · have hle := hfirst ⟨Nat.le_add_right start k, hk⟩
      omega

theorem occurrenceFrom?_eq_some_iff_isLeast (hstart : start ≤ cs.length) :
    occurrenceFrom? wanted start cs = some i ↔
      IsLeast {j | start ≤ j ∧ OccursAt wanted cs j} i := by
  refine map_add_eq_some_iff_isLeast fun i => ?_
  rw [occurrence?_eq_some_iff_isLeast]
  simp only [OccursAt, List.length_drop, List.drop_drop, Nat.le_sub_iff_add_le' hstart]

/-- A text is cut at the first place where another one stands. -/
structure FirstCut (wanted cs before after : List Char) : Prop where
  text : cs = before ++ wanted ++ after
  first : ∀ before' after', cs = before' ++ wanted ++ after' → before.length ≤ before'.length

theorem isSome_occurrence?_iff : (occurrence? wanted cs).isSome = true ↔ wanted <:+: cs := by
  rw [isSome_iff_of_isLeast fun i => occurrence?_eq_some_iff_isLeast]
  constructor
  · rintro ⟨i, -, hat⟩
    exact hat.isInfix.trans (List.drop_suffix i cs).isInfix
  · rintro ⟨before, after, rfl⟩
    refine ⟨before.length, ?_, after, ?_⟩
    · simp only [List.length_append]
      omega
    · rw [List.append_assoc, List.drop_left]

theorem firstCut_of_occurrence? (h : occurrence? wanted cs = some i) :
    FirstCut wanted cs (cs.take i) (cs.drop (i + wanted.length)) := by
  obtain ⟨hle, ⟨after, hafter⟩, hfresh⟩ := occurrence?_eq_some_iff.mp h
  refine ⟨?_, fun before' after' hcs => ?_⟩
  · have hdrop : cs.drop (i + wanted.length) = after := by
      rw [← List.drop_drop, ← hafter, List.drop_left]
    rw [hdrop, List.append_assoc, hafter, List.take_append_drop]
  · rw [List.length_take, Nat.min_eq_left hle]
    refine Nat.le_of_not_lt fun hlt => hfresh _ hlt ⟨after', ?_⟩
    rw [hcs, List.append_assoc, List.drop_left]

section Replacing

variable {new rest : List Char} {c : Char}

theorem splitAfter_ne_nil (skip : Nat) (cs : List Char) : splitAfter wanted skip cs ≠ [] := by
  induction cs generalizing skip with
  | nil => cases skip <;> exact List.cons_ne_nil _ _
  | cons c cs ih =>
    cases skip with
    | zero =>
      rw [splitAfter]
      split
      · exact List.cons_ne_nil _ _
      · unfold extendFirst
        split <;> exact List.cons_ne_nil _ _
    | succ skip => exact ih skip

theorem splitAfter_length (before rest : List Char) :
    splitAfter wanted before.length (before ++ rest) = splitAfter wanted 0 rest := by
  induction before with
  | nil => rfl
  | cons c cs ih => exact ih

/-- What stands at the beginning is cut off, with nothing before it. -/
theorem splitAfter_append (hwanted : wanted ≠ []) (rest : List Char) :
    splitAfter wanted 0 (wanted ++ rest) = [] :: splitAfter wanted 0 rest := by
  obtain ⟨c, cs, rfl⟩ := List.exists_cons_of_ne_nil hwanted
  have hprefix : (c :: cs).isPrefixOf (c :: (cs ++ rest)) = true :=
    List.isPrefixOf_iff_prefix.mpr ⟨rest, rfl⟩
  rw [List.cons_append, splitAfter, if_pos hprefix, ← @splitAfter_length (c :: cs) cs rest]
  rfl

/-- Where nothing is to be cut off, the character belongs to the first part. -/
theorem splitAfter_cons (h : ¬ wanted <+: c :: rest) :
    splitAfter wanted 0 (c :: rest) = extendFirst c (splitAfter wanted 0 rest) := by
  rw [splitAfter, if_neg (mt List.isPrefixOf_iff_prefix.mp h)]

/-- What stands at the beginning is replaced, and then the rest is read. -/
theorem replaceAll_append (hwanted : wanted ≠ []) (rest : List Char) :
    replaceAll wanted new (wanted ++ rest) = new ++ replaceAll wanted new rest := by
  obtain ⟨part, parts, hparts⟩ := List.exists_cons_of_ne_nil (@splitAfter_ne_nil wanted 0 rest)
  rw [replaceAll, replaceAll, splitAfter_append hwanted, hparts, List.intercalate_cons_cons]
  rfl

/-- Where nothing is to be replaced, the character stays. -/
theorem replaceAll_cons (h : ¬ wanted <+: c :: rest) :
    replaceAll wanted new (c :: rest) = c :: replaceAll wanted new rest := by
  obtain ⟨part, parts, hparts⟩ := List.exists_cons_of_ne_nil (@splitAfter_ne_nil wanted 0 rest)
  rw [replaceAll, replaceAll, splitAfter_cons h, hparts]
  cases parts with
  | nil => rfl
  | cons next parts => simp only [extendFirst, List.intercalate_cons_cons, List.cons_append]

end Replacing

end Microtemplate.Text
