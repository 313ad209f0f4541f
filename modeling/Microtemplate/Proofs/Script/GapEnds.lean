import Microtemplate.Proofs.Script.Gaps

/-!
Gaps of a text that goes on. A gap that ends before a token ends there in the longer text as well.
One that runs to the end of the text goes on after it; a comment that would end with its line does
so only if a line ends.
-/

namespace Microtemplate.Script

namespace Lexer

variable {c : Char} {cs gap body start : List Char}

/-- Whether a gap that starts in some way runs to the end of the text in a comment that would end
with its line. -/
def gapEndsInComment : Gap → List Char → Bool
  | .line, [] => true
  | .line, c :: cs =>
    if isLineEnd c then gapEndsInComment .blank cs else gapEndsInComment .line cs
  | .blank, '/' :: '/' :: cs => gapEndsInComment .line cs
  | .blank, '/' :: '*' :: cs => gapEndsInComment (.block ('/' :: '*' :: cs)) cs
  | .blank, _ :: cs => gapEndsInComment .blank cs
  | .block _, '*' :: '/' :: cs => gapEndsInComment .blank cs
  | .block opened, _ :: cs => gapEndsInComment (.block opened) cs
  | _, [] => false

theorem gapEndsInComment_blank {c : Char} {cs : List Char} (hline : ∀ ds, c = '/' → cs ≠ '/' :: ds)
    (hblock : ∀ ds, c = '/' → cs ≠ '*' :: ds) :
    gapEndsInComment .blank (c :: cs) = gapEndsInComment .blank cs := by
  rw [gapEndsInComment]
  · rintro ds rfl rfl
    exact hline ds rfl rfl
  · rintro ds rfl rfl
    exact hblock ds rfl rfl

theorem gapEndsInComment_block {c : Char} {cs : List Char} (hclose : ∀ ds, c = '*' → cs ≠ '/' :: ds)
    (opened : List Char) :
    gapEndsInComment (.block opened) (c :: cs) = gapEndsInComment (.block opened) cs := by
  rw [gapEndsInComment]
  rintro ds rfl rfl
  exact hclose ds rfl rfl

theorem gapEndsInComment_line_append (hbody : OnOneLine body) (hc : isLineEnd c = true)
    (cs : List Char) : gapEndsInComment .line (body ++ c :: cs) = gapEndsInComment .blank cs := by
  induction body with
  | nil => rw [List.nil_append, gapEndsInComment, if_pos hc]
  | cons d body ih =>
    obtain ⟨hd, hbody⟩ := List.forall_mem_cons.mp hbody
    rw [List.cons_append, gapEndsInComment, if_neg (by rw [hd]; exact Bool.false_ne_true), ih hbody]

theorem gapEndsInComment_block_append (hbody : ¬ ['*', '/'] <:+: body) (opened cs : List Char) :
    gapEndsInComment (.block opened) (body ++ '*' :: '/' :: cs) = gapEndsInComment .blank cs := by
  induction body with
  | nil => rw [List.nil_append, gapEndsInComment]
  | cons d body ih =>
    rw [List.cons_append, gapEndsInComment_block (ne_close_append hbody cs),
      ih fun h => hbody (h.trans (List.suffix_cons _ _).isInfix)]

/-- A comment that is over says nothing about how a gap ends. -/
theorem ClosedGap.gapEndsInComment_append (h : ClosedGap gap) (cs : List Char) :
    gapEndsInComment .blank (gap ++ cs) = gapEndsInComment .blank cs := by
  induction h with
  | nil => rfl
  | blank hc _ ih =>
    have hslash := ne_slash_of_isGap hc
    rw [List.cons_append, gapEndsInComment_blank (fun _ h => absurd h hslash)
      (fun _ h => absurd h hslash), ih]
  | line hbody hc _ ih =>
    rw [List.cons_append, List.cons_append, List.append_assoc, gapEndsInComment, List.cons_append,
      gapEndsInComment_line_append hbody hc, ih]
  | block hbody _ ih =>
    rw [List.cons_append, List.cons_append, List.append_assoc, gapEndsInComment, List.cons_append,
      List.cons_append, gapEndsInComment_block_append hbody, ih]

theorem EndsInLineComment.gapEndsInComment_eq (h : EndsInLineComment gap) :
    gapEndsInComment .blank gap = true := by
  obtain ⟨closed, body, rfl, hclosed, hbody⟩ := h
  rw [hclosed.gapEndsInComment_append, gapEndsInComment]
  clear hclosed
  induction body with
  | nil => rfl
  | cons d body ih =>
    obtain ⟨hd, hbody⟩ := List.forall_mem_cons.mp hbody
    rw [gapEndsInComment, if_neg (by rw [hd]; exact Bool.false_ne_true), ih hbody]

/-- A gap that ends before a token ends there in the longer text as well; one that runs to the end
of the text goes on after it, unless it is in a comment and no line ends. -/
theorem skipGap_append (hc : closes c = true) (rest : List Char) {newline newline' : Bool}
    (h : skipGap .blank newline cs = .ok (newline', start))
    (hcomment : c = '\n' ∨ gapEndsInComment .blank cs = false ∨ start ≠ []) :
    skipGap .blank newline (cs ++ c :: rest) =
      if start = [] then skipGap .blank newline' (c :: rest)
      else .ok (newline', start ++ c :: rest) := by
  by_cases hstart : start = []
  · subst hstart
    obtain ⟨gap, hgap, rfl⟩ := exists_firstGap h
    obtain rfl : cs = gap := by rw [hgap.split, List.append_nil]
    rw [if_pos rfl]
    rcases hgap.before with hclosed | ⟨-, hopen⟩
    · exact hclosed.skipGap_append newline (c :: rest)
    · have hline : c = '\n' := by
        rcases hcomment with hline | hnone | hne
        · exact hline
        · rw [hopen.gapEndsInComment_eq] at hnone
          cases hnone
        · exact absurd rfl hne
      subst hline
      -- the end of the line closes the comment
      obtain ⟨closed, body, rfl, hclosed, hbody⟩ := hopen
      have hlonger : ClosedGap (closed ++ '/' :: '/' :: (body ++ ['\n'])) :=
        hclosed.append (.line hbody rfl .nil)
      have hskip := hlonger.skipGap_append newline rest
      simp only [List.append_assoc, List.cons_append, List.nil_append] at hskip ⊢
      rw [hskip, skipGap_isGap rfl]
      simp [isLineEnd]
  · rw [if_neg hstart]
    have hnew : Closing (c :: rest) := closing_cons hc rest
    rw [← List.append_nil cs, ← List.append_nil start] at h
    exact skipGap_replace h hstart hnew

end Lexer

end Microtemplate.Script
