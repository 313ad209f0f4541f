import Mathlib.Algebra.GroupWithZero.Nat
import Mathlib.Data.List.Induction
import Mathlib.Data.Prod.Lex
import Mathlib.Data.String.Basic
import Mathlib.Order.Bounds.Basic
import Microtemplate.Proofs.Text.Boundaries
import Microtemplate.Script.Fault

/-!
Places and offsets. A place tells the offset that it is the place of: the lines before it and the characters
before it in its line have so many bytes. Going on in the text takes a place further on, by line and then by
column. An offset inside a character or beyond the end has the place of the boundary below it, which is found
by going down from the offset, and this ends at the start of the text if not before.
-/

namespace Microtemplate.Text

variable {cs : List Char} {i j offset : Nat}

theorem byteLength_toList (t : String) : byteLength t.toList = t.utf8ByteSize := by
  have hlength : ∀ cs : List Char, byteLength cs = (String.ofList cs).utf8ByteSize := by
    intro cs
    rw [String.utf8ByteSize_ofList]
    induction cs with
    | nil => rfl
    | cons c cs ih => rw [byteLength, ih, String.utf8Len, Nat.add_comm]
  rw [hlength, String.ofList_toList]

theorem beforeOffset_prefix (offset : Nat) (cs : List Char) : beforeOffset offset cs <+: cs := by
  induction cs generalizing offset with
  | nil => exact List.prefix_rfl
  | cons c cs ih =>
    rw [beforeOffset]
    split
    · exact List.cons_prefix_cons.mpr ⟨rfl, ih _⟩
    · exact List.nil_prefix

theorem byteLength_beforeOffset_le (offset : Nat) (cs : List Char) :
    byteLength (beforeOffset offset cs) ≤ offset := by
  induction cs generalizing offset with
  | nil => exact Nat.zero_le _
  | cons c cs ih =>
    rw [beforeOffset]
    split
    · have hrest := ih (offset - c.utf8Size)
      rw [byteLength]
      omega
    · exact Nat.zero_le _

/-- A beginning with at most so many bytes is a beginning of the longest one. -/
theorem prefix_beforeOffset {before : List Char} (h : byteLength before ≤ offset) (after : List Char) :
    before <+: beforeOffset offset (before ++ after) := by
  induction before generalizing offset with
  | nil => exact List.nil_prefix
  | cons c before ih =>
    rw [byteLength] at h
    rw [List.cons_append, beforeOffset, if_pos (by omega)]
    exact List.cons_prefix_cons.mpr ⟨rfl, ih (by omega)⟩

/-- The text before an offset ends at the largest boundary that is not beyond the offset. -/
theorem isGreatest_beforeOffset (offset : Nat) (cs : List Char) :
    IsGreatest {i | IsBoundary i cs ∧ i ≤ offset} (byteLength (beforeOffset offset cs)) := by
  constructor
  · obtain ⟨after, hafter⟩ := beforeOffset_prefix offset cs
    exact ⟨⟨_, after, hafter.symm, rfl⟩, byteLength_beforeOffset_le offset cs⟩
  · rintro _ ⟨⟨before, after, rfl, rfl⟩, hle⟩
    obtain ⟨more, hmore⟩ := prefix_beforeOffset hle after
    rw [← hmore, byteLength_append]
    exact Nat.le_add_right _ _

theorem beforeOffset_byteLength (offset : Nat) (cs : List Char) :
    beforeOffset (byteLength (beforeOffset offset cs)) cs = beforeOffset offset cs := by
  obtain ⟨after, hafter⟩ := beforeOffset_prefix offset cs
  have hsame := beforeOffset_append (beforeOffset offset cs) after
  rwa [hafter] at hsame

/-- An offset beyond the end has the text before it that the end has. -/
theorem beforeOffset_min (offset : Nat) (cs : List Char) :
    beforeOffset (min offset (byteLength cs)) cs = beforeOffset offset cs := by
  have hset : {i | IsBoundary i cs ∧ i ≤ min offset (byteLength cs)} =
      {i | IsBoundary i cs ∧ i ≤ offset} := by
    ext i
    constructor
    · rintro ⟨hi, hle⟩
      exact ⟨hi, hle.trans (Nat.min_le_left _ _)⟩
    · rintro ⟨hi, hle⟩
      exact ⟨hi, Nat.le_min.mpr ⟨hle, hi.le⟩⟩
  have hgreatest := isGreatest_beforeOffset (min offset (byteLength cs)) cs
  rw [hset] at hgreatest
  rw [← beforeOffset_byteLength, hgreatest.unique (isGreatest_beforeOffset offset cs),
    beforeOffset_byteLength]

/-- Going down from an offset, byte by byte, to the first boundary. -/
inductive Descends (cs : List Char) : Nat → Nat → Prop
  | here {i : Nat} (h : IsBoundary i cs) : Descends cs i i
  | down {i j : Nat} (h : ¬ IsBoundary (i + 1) cs) (hrest : Descends cs i j) : Descends cs (i + 1) j

theorem isBoundary_zero (cs : List Char) : IsBoundary 0 cs := ⟨[], cs, rfl, rfl⟩

/-- Where the search goes on there is a byte to go down. -/
theorem pos_of_not_isBoundary (h : ¬ IsBoundary i cs) : 0 < i := by
  apply Nat.pos_of_ne_zero
  rintro rfl
  exact h (isBoundary_zero cs)

theorem Descends.isGreatest (h : Descends cs i j) : IsGreatest {k | IsBoundary k cs ∧ k ≤ i} j := by
  induction h with
  | here h => exact ⟨⟨h, Nat.le_refl _⟩, fun k hk => hk.2⟩
  | @down i j h _ ih =>
    refine ⟨⟨ih.1.1, Nat.le_succ_of_le ih.1.2⟩, ?_⟩
    rintro k ⟨hk, hle⟩
    have hne : k ≠ i + 1 := by
      rintro rfl
      exact h hk
    exact ih.2 ⟨hk, by omega⟩

theorem exists_descends (cs : List Char) (i : Nat) : ∃ j, Descends cs i j := by
  induction i with
  | zero => exact ⟨0, .here (isBoundary_zero cs)⟩
  | succ i ih =>
    by_cases h : IsBoundary (i + 1) cs
    · exact ⟨i + 1, .here h⟩
    · obtain ⟨j, hj⟩ := ih
      exact ⟨j, .down h hj⟩

/-- The search ends at the end of the text before the offset. -/
theorem descends_iff : Descends cs offset i ↔ i = byteLength (beforeOffset offset cs) := by
  constructor
  · intro h
    exact h.isGreatest.unique (isGreatest_beforeOffset offset cs)
  · rintro rfl
    obtain ⟨j, hj⟩ := exists_descends cs offset
    rwa [← hj.isGreatest.unique (isGreatest_beforeOffset offset cs)]

/-- The order of places: by line, then by column. -/
def Place.key (p : Place) : ℕ ×ₗ ℕ := toLex (p.line, p.column)

theorem Place.key_lt_after (p : Place) (c : Char) : p.key < (p.after c).key := by
  rw [key, key, Prod.Lex.toLex_lt_toLex, after]
  split
  · exact .inl (Nat.lt_succ_self _)
  · exact .inr ⟨rfl, Nat.lt_succ_self _⟩

theorem key_placeAfter_lt (before : List Char) {more : List Char} (h : more ≠ []) :
    (placeAfter before).key < (placeAfter (before ++ more)).key := by
  induction more using List.reverseRecOn with
  | nil => exact absurd rfl h
  | append_singleton more c ih =>
    have hlast : placeAfter (before ++ (more ++ [c])) = (placeAfter (before ++ more)).after c := by
      simp only [placeAfter, ← List.append_assoc, List.foldl_append, List.foldl_cons, List.foldl_nil]
    rw [hlast]
    by_cases hmore : more = []
    · subst hmore
      rw [List.append_nil]
      exact Place.key_lt_after _ c
    · exact (ih hmore).trans (Place.key_lt_after _ c)

/-- The places of boundaries are in the order of the text. -/
theorem strictMonoOn_placeAt (cs : List Char) :
    StrictMonoOn (fun i => (placeAt i cs).key) {i | IsBoundary i cs} := by
  rintro _ ⟨before, after, rfl, rfl⟩ _ ⟨before', after', hsame, rfl⟩ hlt
  have hprefix : before <+: before' := by
    have hlonger := prefix_beforeOffset hlt.le after
    rwa [hsame, beforeOffset_append] at hlonger
  obtain ⟨more, rfl⟩ := hprefix
  have hmore : more ≠ [] := by
    rintro rfl
    rw [List.append_nil] at hlt
    exact Nat.lt_irrefl _ hlt
  change (placeAt _ _).key < (placeAt _ _).key
  rw [placeAt, placeAt, beforeOffset_append, hsame, beforeOffset_append]
  exact key_placeAfter_lt before hmore

/-- Two texts in a row have the lines of both, the last one of the first text going on with the first one of
the second text. -/
theorem splitOn_append {α : Type} [BEq α] {a : α} {xs ys last first : List α} {ls more : List (List α)}
    (hxs : xs.splitOn a = ls ++ [last]) (hys : ys.splitOn a = first :: more) :
    (xs ++ ys).splitOn a = ls ++ (last ++ first) :: more := by
  induction xs generalizing ls last with
  | nil =>
    have hone : [] ++ [[]] = ls ++ [last] := hxs
    obtain ⟨rfl, hlast⟩ := List.append_inj' hone rfl
    obtain ⟨rfl, -⟩ := List.cons.inj hlast
    exact hys
  | cons x xs ih =>
    rw [List.splitOn_cons_eq_if_modifyHead] at hxs
    rw [List.cons_append, List.splitOn_cons_eq_if_modifyHead]
    obtain ⟨l, rest, hl⟩ := List.exists_cons_of_ne_nil (List.splitOn_ne_nil a xs)
    by_cases hx : (x == a) = true
    · rw [if_pos hx] at hxs ⊢
      cases ls with
      | nil =>
        exact absurd (List.cons.inj hxs).2 (List.splitOn_ne_nil a xs)
      | cons l' ls =>
        obtain ⟨rfl, hrest⟩ := List.cons.inj hxs
        rw [ih hrest, List.cons_append]
    · rw [if_neg hx, hl, List.modifyHead_cons] at hxs
      rw [if_neg hx]
      cases ls with
      | nil =>
        obtain ⟨rfl, rfl⟩ := List.cons.inj hxs
        rw [@ih l [] hl]
        rfl
      | cons l' ls =>
        obtain ⟨rfl, rfl⟩ := List.cons.inj hxs
        rw [@ih last (l :: ls) hl]
        rfl

/-- The offset of a place: the bytes of the lines before it, their line feeds included, and of the characters
before it in its line. -/
def offsetOf (p : Place) (cs : List Char) : Nat :=
  let ls := cs.splitOn '\n'
  ((ls.take (p.line - 1)).map (byteLength · + 1)).sum +
    byteLength ((ls[p.line - 1]?.getD []).take (p.column - 1))

/-- A place is in a text: its line is one of the text's, and its column is that of a character of the line or
the one after them. -/
def HasPlace (p : Place) (cs : List Char) : Prop :=
  1 ≤ p.line ∧ 1 ≤ p.column ∧
    ∃ line, (cs.splitOn '\n')[p.line - 1]? = some line ∧ p.column ≤ line.length + 1

theorem exists_lines (before : List Char) : ∃ ls last, before.splitOn '\n' = ls ++ [last] ∧
    placeAfter before = ⟨ls.length + 1, last.length + 1⟩ ∧
    byteLength before = (ls.map (byteLength · + 1)).sum + byteLength last := by
  induction before using List.reverseRecOn with
  | nil => exact ⟨[], [], rfl, rfl, rfl⟩
  | append_singleton before c ih =>
    obtain ⟨ls, last, hlines, hplace, hbytes⟩ := ih
    have hafter : placeAfter (before ++ [c]) = (placeAfter before).after c := by
      simp only [placeAfter, List.foldl_append, List.foldl_cons, List.foldl_nil]
    rw [hafter, hplace, byteLength_append, hbytes, Place.after]
    by_cases hc : c = '\n'
    · subst hc
      refine ⟨ls ++ [last], [], ?_, ?_, ?_⟩
      · rw [List.splitOn_append_cons_self, hlines, List.splitOn_nil]
      · rw [if_pos rfl, List.length_append]
        rfl
      · rw [List.map_append, List.sum_append, List.map_singleton, List.sum_singleton]
        rfl
    · refine ⟨ls, last ++ [c], ?_, ?_, ?_⟩
      · rw [splitOn_append hlines (List.splitOn_eq_singleton (by simpa using Ne.symm hc))]
      · rw [if_neg hc, List.length_append]
        rfl
      · rw [byteLength_append, Nat.add_assoc]

theorem offsetOf_placeAfter (before after : List Char) :
    HasPlace (placeAfter before) (before ++ after) ∧
      offsetOf (placeAfter before) (before ++ after) = byteLength before := by
  obtain ⟨ls, last, hlines, hplace, hbytes⟩ := exists_lines before
  obtain ⟨first, more, hafter⟩ := List.exists_cons_of_ne_nil (List.splitOn_ne_nil '\n' after)
  have hall := splitOn_append hlines hafter
  have hline : (ls ++ (last ++ first) :: more)[ls.length]? = some (last ++ first) := by
    simp
  rw [hplace, HasPlace, offsetOf, hall, Nat.add_sub_cancel, Nat.add_sub_cancel, hline]
  refine ⟨⟨Nat.succ_pos _, Nat.succ_pos _, _, rfl, ?_⟩, ?_⟩
  · simp
  · simp [hbytes]

end Microtemplate.Text

namespace Microtemplate.Script.SyntaxError

open Text

/-- The place of an error is that of the largest boundary not above its offset, or above the end of the
program. Going down from the offset to the first boundary ends there, and never beyond the start. Among
boundaries the places are in lexicographic order, and each place gives back its offset: that of the
character in its column, or of the end of the line, in its line. -/
theorem place_identifies (e : SyntaxError) :
    (∃ i, IsGreatest {i | IsBoundary i e.program.toList ∧ i ≤ min e.offset e.program.utf8ByteSize} i ∧
      (∀ j, Descends e.program.toList (min e.offset e.program.utf8ByteSize) j ↔ j = i) ∧
      e.place = ({ e with offset := i } : SyntaxError).place) ∧
    (∀ i, ¬ IsBoundary i e.program.toList → 0 < i) ∧
    StrictMonoOn (fun i => ({ e with offset := i } : SyntaxError).place.key)
      {i | IsBoundary i e.program.toList} ∧
    ∀ i, IsBoundary i e.program.toList →
      HasPlace ({ e with offset := i } : SyntaxError).place e.program.toList ∧
        offsetOf ({ e with offset := i } : SyntaxError).place e.program.toList = i := by
  refine ⟨?_, fun i => pos_of_not_isBoundary, strictMonoOn_placeAt _, ?_⟩
  · have hgreatest := isGreatest_beforeOffset (min e.offset e.program.utf8ByteSize) e.program.toList
    refine ⟨_, hgreatest, fun j => descends_iff, ?_⟩
    rw [place, place, placeAt, placeAt, beforeOffset_byteLength, ← byteLength_toList,
      beforeOffset_min]
  · rintro _ ⟨before, after, hprogram, rfl⟩
    have hplace : ({ e with offset := byteLength before } : SyntaxError).place = placeAfter before := by
      rw [place, placeAt, hprogram, beforeOffset_append]
    rw [hplace, hprogram]
    exact offsetOf_placeAfter before after

/-- An offset inside the first character of the second line, and the two boundaries around it. -/
theorem place_identifies_inside_character :
    let e : SyntaxError := ⟨"unexpected", 4, "é\n日x"⟩
    ¬ IsBoundary 4 e.program.toList ∧ 0 < 4 ∧ e.place = ⟨2, 1⟩ ∧
      IsBoundary 3 e.program.toList ∧ offsetOf ⟨2, 1⟩ e.program.toList = 3 ∧
      IsBoundary 6 e.program.toList ∧ offsetOf ⟨2, 2⟩ e.program.toList = 6 ∧
      (⟨2, 1⟩ : Place).key < (⟨2, 2⟩ : Place).key := by
  intro e
  have hinside : ¬ IsBoundary 4 e.program.toList := by
    intro h
    exact absurd ((isGreatest_beforeOffset 4 e.program.toList).2 ⟨h, Nat.le_refl 4⟩) (by decide)
  have hbefore : IsBoundary 3 e.program.toList := ⟨['é', '\n'], ['日', 'x'], by decide, by decide⟩
  have hafter : IsBoundary 6 e.program.toList := ⟨['é', '\n', '日'], ['x'], by decide, by decide⟩
  have hplace : ({ e with offset := 3 } : SyntaxError).place = ⟨2, 1⟩ := by decide
  have hplace' : ({ e with offset := 6 } : SyntaxError).place = ⟨2, 2⟩ := by decide
  obtain ⟨-, hdown, hmono, hback⟩ := place_identifies e
  have hless := hmono hbefore hafter (by decide)
  have hthree := (hback 3 hbefore).2
  have hsix := (hback 6 hafter).2
  rw [hplace] at hthree
  rw [hplace'] at hsix
  simp only [hplace, hplace'] at hless
  exact ⟨hinside, hdown 4 hinside, by decide, hbefore, hthree, hafter, hsix, hless⟩

end Microtemplate.Script.SyntaxError
