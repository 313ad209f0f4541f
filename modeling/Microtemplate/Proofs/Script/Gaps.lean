import Microtemplate.Proofs.Script.Closing

/-!
What stands in gaps. A closed gap is a row of blanks and comments that are over when it is, so the lexer
goes over it whatever text follows, and remembers only whether a line ended. Where the lexer has gone
over a gap before a token, the gap was closed; only at the end of a text may a comment be left open that
would end with its line.
-/

namespace Microtemplate.Script

namespace Lexer

/-- No character of these ends a line. -/
def OnOneLine (cs : List Char) : Prop := ∀ c ∈ cs, isLineEnd c = false

/-- Blanks, ends of lines and comments, all of which are over at the end. -/
inductive ClosedGap : List Char → Prop
  | nil : ClosedGap []
  | blank {c : Char} {cs : List Char} : isGap c = true → ClosedGap cs → ClosedGap (c :: cs)
  | line {body cs : List Char} {c : Char} : OnOneLine body → isLineEnd c = true → ClosedGap cs →
      ClosedGap ('/' :: '/' :: (body ++ c :: cs))
  | block {body cs : List Char} : ¬ ['*', '/'] <:+: body → ClosedGap cs →
      ClosedGap ('/' :: '*' :: (body ++ '*' :: '/' :: cs))

/-- A gap that ends with a comment that is still open, but would be over with the line. -/
def EndsInLineComment (gap : List Char) : Prop :=
  ∃ closed body, gap = closed ++ '/' :: '/' :: body ∧ ClosedGap closed ∧ OnOneLine body

/-- What may stand before a place of a text: a closed gap or, at the end of the text, one that ends with
a comment which is still open. -/
def GapBefore (start gap : List Char) : Prop :=
  ClosedGap gap ∨ start = [] ∧ EndsInLineComment gap

theorem ClosedGap.append {gap more : List Char} (h : ClosedGap gap) (h' : ClosedGap more) :
    ClosedGap (gap ++ more) := by
  induction h with
  | nil => exact h'
  | blank hc _ ih => exact .blank hc ih
  | line hbody hc _ ih => simpa using ClosedGap.line hbody hc ih
  | block hbody _ ih => simpa using ClosedGap.block hbody ih

theorem closedGap_of_all {gap : List Char} (h : gap.all isGap = true) : ClosedGap gap := by
  induction gap with
  | nil => exact .nil
  | cons c gap ih =>
    rw [List.all_cons, Bool.and_eq_true] at h
    exact .blank h.1 (ih h.2)

theorem ClosedGap.append_before {start gap more : List Char} (h : ClosedGap gap)
    (h' : GapBefore start more) : GapBefore start (gap ++ more) := by
  refine h'.imp h.append fun ⟨hstart, closed, body, hsplit, hclosed, hbody⟩ => ⟨hstart, ?_⟩
  exact ⟨gap ++ closed, body, by rw [hsplit, List.append_assoc], h.append hclosed, hbody⟩

/-- Whether a line ends in some text. -/
def hasLineEnd (cs : List Char) : Bool := cs.any isLineEnd

@[simp]
theorem hasLineEnd_nil : hasLineEnd [] = false := rfl

@[simp]
theorem hasLineEnd_cons (c : Char) (cs : List Char) :
    hasLineEnd (c :: cs) = (isLineEnd c || hasLineEnd cs) := rfl

@[simp]
theorem hasLineEnd_append (cs ds : List Char) :
    hasLineEnd (cs ++ ds) = (hasLineEnd cs || hasLineEnd ds) := List.any_append

theorem OnOneLine.hasLineEnd_eq {cs : List Char} (h : OnOneLine cs) : hasLineEnd cs = false := by
  rw [hasLineEnd, List.any_eq_false]
  exact fun c hc => by rw [h c hc]; exact Bool.false_ne_true

section Skipping

variable {newline newline' : Bool} {c : Char} {cs gap start body rest old new : List Char}

theorem skipGap_blank {c : Char} {cs : List Char} (hline : ∀ ds, c = '/' → cs ≠ '/' :: ds)
    (hblock : ∀ ds, c = '/' → cs ≠ '*' :: ds) (newline : Bool) :
    skipGap .blank newline (c :: cs) =
      if isLineEnd c then skipGap .blank true cs
      else if Unicode.isBlank c || c = '\ufeff' then skipGap .blank newline cs
      else .ok (newline, c :: cs) := by
  rw [skipGap]
  · rintro ds rfl rfl
    exact hline ds rfl rfl
  · rintro ds rfl rfl
    exact hblock ds rfl rfl

theorem skipGap_line (newline : Bool) (c : Char) (cs : List Char) :
    skipGap .line newline (c :: cs) =
      if isLineEnd c then skipGap .blank true cs else skipGap .line newline cs := by
  rw [skipGap]

theorem skipGap_block {c : Char} {cs : List Char} (hclose : ∀ ds, c = '*' → cs ≠ '/' :: ds)
    (opened : List Char) (newline : Bool) :
    skipGap (.block opened) newline (c :: cs) =
      skipGap (.block opened) (newline || isLineEnd c) cs := by
  rw [skipGap]
  rintro ds rfl rfl
  exact hclose ds rfl rfl

theorem ne_slash_of_isGap (hc : isGap c = true) : c ≠ '/' := by
  rintro rfl
  revert hc
  decide

theorem skipGap_isGap (hc : isGap c = true) (newline : Bool) (cs : List Char) :
    skipGap .blank newline (c :: cs) = skipGap .blank (newline || isLineEnd c) cs := by
  have hslash := ne_slash_of_isGap hc
  rw [skipGap_blank (fun _ h => absurd h hslash) (fun _ h => absurd h hslash)]
  by_cases hline : isLineEnd c = true
  · rw [if_pos hline, hline, Bool.or_true]
  · have hblank : (Unicode.isBlank c || c = '\ufeff') = true := by simpa [isGap, hline] using hc
    rw [if_neg hline, if_pos hblank, Bool.not_eq_true _ |>.mp hline, Bool.or_false]

theorem skipGap_line_append (hbody : OnOneLine body) (hc : isLineEnd c = true) (newline : Bool)
    (cs : List Char) :
    skipGap .line newline (body ++ c :: cs) = skipGap .blank true cs := by
  induction body with
  | nil => rw [List.nil_append, skipGap_line, if_pos hc]
  | cons d body ih =>
    obtain ⟨hd, hbody⟩ := List.forall_mem_cons.mp hbody
    rw [List.cons_append, skipGap_line, if_neg (by rw [hd]; exact Bool.false_ne_true), ih hbody]

/-- The bracket that closes a comment is the first one. -/
theorem ne_close_append (hbody : ¬ ['*', '/'] <:+: c :: body) (cs ds : List Char) (hc : c = '*') :
    body ++ '*' :: '/' :: cs ≠ '/' :: ds := by
  subst hc
  intro hds
  cases body with
  | nil => cases hds
  | cons e body =>
    obtain ⟨rfl, -⟩ := List.cons.inj hds
    exact hbody (List.IsPrefix.isInfix ⟨body, rfl⟩)

theorem skipGap_block_append (hbody : ¬ ['*', '/'] <:+: body) (opened : List Char) (newline : Bool)
    (cs : List Char) : skipGap (.block opened) newline (body ++ '*' :: '/' :: cs) =
      skipGap .blank (newline || hasLineEnd body) cs := by
  induction body generalizing newline with
  | nil => rw [List.nil_append, skipGap, hasLineEnd_nil, Bool.or_false]
  | cons d body ih =>
    have hmore : ¬ ['*', '/'] <:+: body := fun h => hbody (h.trans (List.suffix_cons _ _).isInfix)
    rw [List.cons_append, skipGap_block (ne_close_append hbody cs), ih hmore, hasLineEnd_cons,
      Bool.or_assoc]

/-- A closed gap is gone over whatever text follows. -/
theorem ClosedGap.skipGap_append (h : ClosedGap gap) (newline : Bool) (cs : List Char) :
    skipGap .blank newline (gap ++ cs) = skipGap .blank (newline || hasLineEnd gap) cs := by
  induction h generalizing newline with
  | nil => rw [hasLineEnd_nil, Bool.or_false, List.nil_append]
  | blank hc _ ih => rw [List.cons_append, skipGap_isGap hc, ih, hasLineEnd_cons, Bool.or_assoc]
  | @line body more c hbody hc _ ih =>
    have hends : hasLineEnd ('/' :: '/' :: (body ++ c :: more)) = true := by simp [hc]
    rw [hends, Bool.or_true, List.cons_append, List.cons_append, List.append_assoc, skipGap,
      List.cons_append, skipGap_line_append hbody hc, ih, Bool.true_or]
  | @block body more hbody _ ih =>
    have hends : hasLineEnd ('/' :: '*' :: (body ++ '*' :: '/' :: more)) =
        (hasLineEnd body || hasLineEnd more) := hasLineEnd_append body ('*' :: '/' :: more)
    rw [hends, List.cons_append, List.cons_append, List.append_assoc, skipGap, List.cons_append,
      List.cons_append, skipGap_block_append hbody, ih, Bool.or_assoc]

/-- A comment that ends with its line runs to the end of the line or of the text. -/
theorem exists_lineComment (cs : List Char) :
    (∃ body c rest, cs = body ++ c :: rest ∧ OnOneLine body ∧ isLineEnd c = true) ∨
      OnOneLine cs := by
  induction cs with
  | nil => exact Or.inr fun _ h => (List.not_mem_nil h).elim
  | cons d ds ih =>
    cases hd : isLineEnd d with
    | true => exact Or.inl ⟨[], d, ds, rfl, fun _ h => (List.not_mem_nil h).elim, hd⟩
    | false =>
      rcases ih with ⟨body, c, rest, rfl, hbody, hc⟩ | hds
      · exact Or.inl ⟨d :: body, c, rest, rfl, List.forall_mem_cons.mpr ⟨hd, hbody⟩, hc⟩
      · exact Or.inr (List.forall_mem_cons.mpr ⟨hd, hds⟩)

theorem skipGap_line_of_onOneLine (h : OnOneLine cs) (newline : Bool) :
    skipGap .line newline cs = .ok (newline, []) := by
  induction cs with
  | nil => rfl
  | cons d ds ih =>
    obtain ⟨hd, hds⟩ := List.forall_mem_cons.mp h
    rw [skipGap_line, if_neg (by rw [hd]; exact Bool.false_ne_true), ih hds]

/-- A comment in brackets runs to its first closing bracket. -/
theorem exists_blockComment {opened : List Char}
    (h : skipGap (.block opened) newline cs = .ok (newline', start)) :
    ∃ body rest, cs = body ++ '*' :: '/' :: rest ∧ ¬ ['*', '/'] <:+: body := by
  induction cs generalizing newline with
  | nil => cases h
  | cons d ds ih =>
    by_cases hclose : ∃ rest, d = '*' ∧ ds = '/' :: rest
    · obtain ⟨rest, rfl, rfl⟩ := hclose
      exact ⟨[], rest, rfl, by simp⟩
    · have hopen : ∀ rest, d = '*' → ds ≠ '/' :: rest := fun rest hd hds => hclose ⟨rest, hd, hds⟩
      rw [skipGap_block hopen] at h
      obtain ⟨body, rest, rfl, hbody⟩ := ih h
      refine ⟨d :: body, rest, rfl, fun hinfix => ?_⟩
      rcases List.infix_cons_iff.mp hinfix with hbegins | hinfix
      · obtain ⟨more, hmore⟩ := hbegins
        obtain ⟨rfl, rfl⟩ := List.cons.inj hmore
        exact hopen _ rfl rfl
      · exact hbody hinfix

/-- A text that starts with no blank and no comment. -/
def StartsToken (start : List Char) : Prop :=
  ∃ c cs, start = c :: cs ∧ isGap c = false ∧ (c = '/' → ∀ d ∈ cs.head?, d ≠ '/' ∧ d ≠ '*')

theorem StartsToken.skipGap_eq (h : StartsToken start) (newline : Bool) :
    skipGap .blank newline start = .ok (newline, start) := by
  obtain ⟨c, cs, rfl, hc, hslash⟩ := h
  have hline : ∀ ds, c = '/' → cs ≠ '/' :: ds := by
    rintro ds hslash' rfl
    exact (hslash hslash' '/' rfl).1 rfl
  have hblock : ∀ ds, c = '/' → cs ≠ '*' :: ds := by
    rintro ds hslash' rfl
    exact (hslash hslash' '*' rfl).2 rfl
  simp only [isGap, Bool.or_eq_false_iff] at hc
  rw [skipGap_blank hline hblock, hc.1.1, hc.1.2, hc.2]
  rfl

/-- Whether a token starts is seen from its characters and from whether the text goes on with more of
them than closing characters. -/
theorem StartsToken.replace (h : StartsToken (body ++ old)) (hbody : body ≠ []) (hnew : Closing new) :
    StartsToken (body ++ new) := by
  obtain ⟨d, ds, rfl⟩ := List.exists_cons_of_ne_nil hbody
  obtain ⟨_, _, hsplit, hd, hslash⟩ := h
  obtain ⟨rfl, rfl⟩ := List.cons.inj hsplit
  refine ⟨d, ds ++ new, rfl, hd, fun hd' e he => ?_⟩
  cases ds with
  | nil => exact ⟨ne_of_closes (hnew e he) rfl, ne_of_closes (hnew e he) rfl⟩
  | cons e' ds => exact hslash hd' e he

/-- A text is cut at the end of its first gap. -/
structure FirstGap (cs gap start : List Char) : Prop where
  split : cs = gap ++ start
  before : GapBefore start gap
  starts : start ≠ [] → StartsToken start

namespace FirstGap

/-- A closed gap before another one is part of it. -/
theorem prepend {more : List Char} (h : FirstGap cs gap start) (hmore : ClosedGap more) :
    FirstGap (more ++ cs) (more ++ gap) start where
  split := by rw [h.split, List.append_assoc]
  before := hmore.append_before h.before
  starts := h.starts

/-- Where the first gap of a text ends, a closed gap may stand instead of it. -/
theorem replace (h : FirstGap cs gap start) {gap' : List Char} (hgap' : ClosedGap gap') :
    FirstGap (gap' ++ start) gap' start := ⟨rfl, Or.inl hgap', h.starts⟩

/-- Before a token the first gap is closed. -/
theorem closed (h : FirstGap cs gap start) (hstart : start ≠ []) : ClosedGap gap :=
  h.before.resolve_right fun hend => hstart hend.1

/-- The lexer goes over the first gap of a text, and it remembers whether a line ends in it. -/
theorem skipGap_eq (h : FirstGap cs gap start) (newline : Bool) :
    skipGap .blank newline cs = .ok (newline || hasLineEnd gap, start) := by
  rw [h.split]
  by_cases hstart : start = []
  · subst hstart
    rcases h.before with hclosed | ⟨-, closed, body, rfl, hclosed, hbody⟩
    · rw [hclosed.skipGap_append]
      rfl
    · have hnone : hasLineEnd ('/' :: '/' :: body) = false := hbody.hasLineEnd_eq
      rw [List.append_assoc, hclosed.skipGap_append, List.append_nil, skipGap,
        skipGap_line_of_onOneLine hbody, hasLineEnd_append, hnone, Bool.or_false]
  · rw [(h.closed hstart).skipGap_append, (h.starts hstart).skipGap_eq]

end FirstGap

/-- What the lexer goes over is the first gap of the text. -/
theorem exists_firstGap (h : skipGap .blank newline cs = .ok (newline', start)) :
    ∃ gap, FirstGap cs gap start ∧ newline' = (newline || hasLineEnd gap) := by
  induction hn : cs.length using Nat.strongRecOn generalizing cs newline with
  | ind n ih =>
    subst hn
    have hpiece : ∀ (c : Char) (piece rest : List Char), cs = c :: piece ++ rest →
        ClosedGap (c :: piece) →
        ∃ gap, FirstGap cs gap start ∧ newline' = (newline || hasLineEnd gap) := by
      rintro c piece rest rfl hpiece
      rw [hpiece.skipGap_append] at h
      have hshorter : rest.length < (c :: piece ++ rest).length := by
        simp only [List.length_append, List.length_cons]
        omega
      obtain ⟨gap, hgap, hnewline⟩ := ih _ hshorter h rfl
      refine ⟨c :: piece ++ gap, hgap.prepend hpiece, ?_⟩
      rw [hnewline, hasLineEnd_append, Bool.or_assoc]
    cases cs with
    | nil =>
      cases h
      exact ⟨[], ⟨rfl, Or.inl .nil, fun h => absurd rfl h⟩, (Bool.or_false _).symm⟩
    | cons c ds =>
      by_cases hline : ∃ es, c = '/' ∧ ds = '/' :: es
      · obtain ⟨es, rfl, rfl⟩ := hline
        rcases exists_lineComment es with ⟨body, c, rest, rfl, hbody, hc⟩ | hes
        · exact hpiece '/' ('/' :: (body ++ [c])) rest (by simp) (.line hbody hc .nil)
        · rw [skipGap, skipGap_line_of_onOneLine hes] at h
          cases h
          have hnone : hasLineEnd ('/' :: '/' :: es) = false := hes.hasLineEnd_eq
          refine ⟨'/' :: '/' :: es, ⟨(List.append_nil _).symm,
            Or.inr ⟨rfl, [], es, rfl, .nil, hes⟩, fun h => absurd rfl h⟩, ?_⟩
          rw [hnone, Bool.or_false]
      by_cases hblock : ∃ es, c = '/' ∧ ds = '*' :: es
      · obtain ⟨es, rfl, rfl⟩ := hblock
        have hcomment := h
        rw [skipGap] at hcomment
        obtain ⟨body, rest, rfl, hbody⟩ := exists_blockComment hcomment
        exact hpiece '/' ('*' :: (body ++ ['*', '/'])) rest (by simp) (.block hbody .nil)
      by_cases hc : isGap c = true
      · exact hpiece c [] ds rfl (.blank hc .nil)
      have hstart : StartsToken (c :: ds) := by
        refine ⟨c, ds, rfl, Bool.not_eq_true _ |>.mp hc, fun hslash d hd => ?_⟩
        obtain ⟨es, rfl⟩ := List.head?_eq_some_iff.mp hd
        exact ⟨fun hd => hline ⟨es, hslash, hd ▸ rfl⟩, fun hd => hblock ⟨es, hslash, hd ▸ rfl⟩⟩
      rw [hstart.skipGap_eq] at h
      cases h
      exact ⟨[], ⟨rfl, Or.inl .nil, fun _ => hstart⟩, (Bool.or_false _).symm⟩

theorem skipGap_eq_ok_iff : skipGap .blank newline cs = .ok (newline', start) ↔
    ∃ gap, FirstGap cs gap start ∧ newline' = (newline || hasLineEnd gap) := by
  refine ⟨exists_firstGap, ?_⟩
  rintro ⟨gap, hgap, rfl⟩
  exact hgap.skipGap_eq newline

/-- A gap before a token does not depend on what stands later in the text, as long as it closes the
token. -/
theorem skipGap_replace (h : skipGap .blank newline (cs ++ old) = .ok (newline', start ++ old))
    (hstart : start ≠ []) (hnew : Closing new) :
    skipGap .blank newline (cs ++ new) = .ok (newline', start ++ new) := by
  obtain ⟨gap, hgap, rfl⟩ := exists_firstGap h
  have hne : start ++ old ≠ [] := fun hnil => hstart (List.append_eq_nil_iff.mp hnil).1
  obtain rfl : cs = gap ++ start := by
    have hsplit := hgap.split
    rw [← List.append_assoc] at hsplit
    exact List.append_cancel_right hsplit
  have hgap' : FirstGap (gap ++ start ++ new) gap (start ++ new) :=
    ⟨List.append_assoc .., Or.inl (hgap.closed hne), fun _ => (hgap.starts hne).replace hstart hnew⟩
  exact hgap'.skipGap_eq newline

/-- What is left after a gap is an end of the text. -/
theorem skipGap_suffix (h : skipGap .blank newline cs = .ok (newline', start)) : start <:+ cs := by
  obtain ⟨gap, hgap, -⟩ := exists_firstGap h
  exact ⟨gap, hgap.split.symm⟩

/-- With the end of a line before it, a gap ends where it ended. -/
theorem skipGap_newline (h : skipGap .blank newline cs = .ok (newline', start)) :
    skipGap .blank true cs = .ok (true, start) := by
  obtain ⟨gap, hgap, -⟩ := exists_firstGap h
  rw [hgap.skipGap_eq, Bool.true_or]

end Skipping

end Lexer

end Microtemplate.Script
