import Microtemplate.Text.Position

/-!
Character boundaries. An offset is a boundary of a text if it is the number of bytes of a beginning of
the text; the end of the text is one.
-/

namespace Microtemplate.Text

/-- Whether a character of the text starts at an offset, or the text ends there. -/
def IsBoundary (offset : Nat) (cs : List Char) : Prop :=
  ∃ before after, cs = before ++ after ∧ byteLength before = offset

theorem IsBoundary.le {offset : Nat} {cs : List Char} (h : IsBoundary offset cs) :
    offset ≤ byteLength cs := by
  obtain ⟨before, after, rfl, rfl⟩ := h
  rw [byteLength_append]
  exact Nat.le_add_right _ _

/-- Where an end of a text starts there is a boundary. -/
theorem isBoundary_of_suffix {rest cs : List Char} (h : rest <:+ cs) :
    IsBoundary (byteLength cs - byteLength rest) cs := by
  obtain ⟨before, rfl⟩ := h
  exact ⟨before, rest, rfl, by rw [byteLength_append, Nat.add_sub_cancel_right]⟩

theorem length_le_byteLength (cs : List Char) : cs.length ≤ byteLength cs := by
  induction cs with
  | nil => exact Nat.le_refl _
  | cons c cs ih =>
    have hc := Char.utf8Size_pos c
    rw [List.length_cons, byteLength]
    omega

/-- A shorter end of a text has fewer bytes. -/
theorem byteLength_lt_of_suffix {rest cs : List Char} (h : rest <:+ cs)
    (hlength : rest.length < cs.length) : byteLength rest < byteLength cs := by
  obtain ⟨before, rfl⟩ := h
  have hbefore := length_le_byteLength before
  rw [List.length_append] at hlength
  rw [byteLength_append]
  omega

theorem byteLength_le_of_suffix {rest cs : List Char} (h : rest <:+ cs) :
    byteLength rest ≤ byteLength cs := by
  obtain ⟨before, rfl⟩ := h
  rw [byteLength_append]
  exact Nat.le_add_left _ _

/-- A text has as many bytes as characters if all of them have one byte. -/
theorem byteLength_eq_length_iff {cs : List Char} :
    byteLength cs = cs.length ↔ ∀ c ∈ cs, c.utf8Size = 1 := by
  induction cs with
  | nil => simp [byteLength]
  | cons c cs ih =>
    have hc := Char.utf8Size_pos c
    have hle := length_le_byteLength cs
    rw [List.forall_mem_cons, ← ih, List.length_cons, byteLength]
    omega

/-- The text before the offset where a beginning of the text ends is this beginning. -/
theorem beforeOffset_append (a b : List Char) : beforeOffset (byteLength a) (a ++ b) = a := by
  induction a with
  | nil =>
    cases b with
    | nil => rfl
    | cons c cs =>
      have hpos := c.utf8Size_pos
      simp [beforeOffset, byteLength, Nat.pos_iff_ne_zero.mp hpos]
  | cons c cs ih =>
    simp only [List.cons_append, byteLength, beforeOffset]
    rw [if_pos (Nat.le_add_right _ _), Nat.add_sub_cancel_left, ih]

end Microtemplate.Text
