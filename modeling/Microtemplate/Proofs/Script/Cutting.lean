import Microtemplate.Proofs.Script.GapEnds
import Microtemplate.Proofs.Script.TokenEnds
import Microtemplate.Script.Parse

/-!
Cutting a text that goes on. A text that is cut into tokens keeps them when a closing parenthesis or
the end of a line is put after it, whatever comes then, unless it ends in a comment that swallows
the closing parenthesis.
-/

namespace Microtemplate.Script

namespace Tokens

/-- The state at the end of a text. -/
def finished : Tokens := ⟨⟨.endOfInput, true, []⟩, []⟩

/-- A state with one more token in front. -/
def push (l : Located) (t : Tokens) : Tokens := ⟨l, t.current :: t.following⟩

/-- The tokens of a state, the current one first. -/
def toList (s : Tokens) : List Located := s.current :: s.following

/-- How many tokens are left before the end of input. -/
def left (t : Tokens) : Nat := t.following.length

@[simp]
theorem current_push (l : Located) (t : Tokens) : (t.push l).current = l := rfl

@[simp]
theorem left_push (l : Located) (t : Tokens) : (t.push l).left = t.left + 1 := rfl

@[simp]
theorem left_finished : finished.left = 0 := rfl

end Tokens

/-- The tokens of a text that ends, and those of a text that goes on with other tokens in place of
the end of input. -/
inductive Tokens.Same (t : Tokens) : Tokens → Tokens → Prop
  | stop : Same t .finished t
  | step {l l' : Located} {s s' : Tokens} : l'.token = l.token →
      l'.newlineBefore = l.newlineBefore → l.token ≠ .endOfInput → Same t s s' →
      Same t (s.push l) (s'.push l')

namespace Tokens

/-- The states that end in the end of input and have it nowhere before. -/
inductive Ended : Tokens → Prop
  | finished : Ended .finished
  | push {l : Located} {s : Tokens} : l.token ≠ .endOfInput → Ended s → Ended (s.push l)

theorem token_finished : finished.current.token = .endOfInput := rfl

theorem Same.ended {t s s' : Tokens} (h : Same t s s') : Ended s := by
  induction h with
  | stop => exact .finished
  | step _ _ hend _ ih => exact .push hend ih

theorem Ended.eq_finished_of_token {s : Tokens} (h : Ended s)
    (htoken : s.current.token = .endOfInput) : s = .finished := by
  cases h with
  | finished => rfl
  | push hend hs => exact absurd htoken hend

theorem Same.left_eq {t s s' : Tokens} (h : Same t s s') : s'.left = s.left + t.left := by
  induction h with
  | stop => exact (Nat.zero_add _).symm
  | step _ _ _ _ ih =>
    rw [left_push, left_push, ih]
    omega

/-- At the end of the text the longer text goes on. -/
theorem Same.eq_of_finished {t s' : Tokens} (h : Same t .finished s') : s' = t := by
  generalize hs : finished = s at h
  cases h with
  | stop => rfl
  | step =>
    have hleft := congrArg left hs
    rw [left_push, left_finished] at hleft
    omega

end Tokens

namespace Lexer

/-- A text is cut into the tokens of a state. -/
inductive Cuts : List Char → Tokens → Prop
  | stop {cs : List Char} {newline : Bool} :
      skipGap .blank false cs = .ok (newline, []) → Cuts cs .finished
  | step {cs start rest : List Char} {newline : Bool} {t : Token} {s : Tokens} :
      skipGap .blank false cs = .ok (newline, start) → start ≠ [] →
      token start = .ok (t, rest) → Cuts rest s → Cuts cs (s.push ⟨t, newline, start⟩)

/-- Whether a text ends in a comment that would end with its line. Each round goes over one token. -/
def endsInCommentWithin : Nat → List Char → Bool
  | 0, _ => false
  | bound + 1, cs =>
    match skipGap .blank false cs with
    | .error _ => false
    | .ok (_, []) => gapEndsInComment .blank cs
    | .ok (_, c :: start) =>
      match token (c :: start) with
      | .error _ => false
      | .ok (_, rest) => endsInCommentWithin bound rest

/-- Whether a text ends in a comment that would end with its line. -/
def endsInComment (cs : List Char) : Bool := endsInCommentWithin (cs.length + 1) cs
/-- What a text is cut into is what the lexer gives, if it is allowed enough rounds. -/
theorem cuts_of_tokensWithin {n : Nat} {cs : List Char} {ls : List Located}
    (h : tokensWithin n cs = .ok ls) (hn : cs.length < n) :
    ∃ s, Cuts cs s ∧ ls = s.current :: s.following := by
  induction n generalizing cs ls with
  | zero => cases hn
  | succ n ih =>
    rw [tokensWithin] at h
    obtain ⟨⟨newline, start⟩, hgap, h⟩ := bind_eq_ok.mp h
    have hle := (skipGap_suffix hgap).length_le
    cases start with
    | nil =>
      cases h
      exact ⟨.finished, .stop hgap, rfl⟩
    | cons d ds =>
      obtain ⟨⟨t, after⟩, htoken, h⟩ := bind_eq_ok.mp h
      obtain ⟨ls', hmore, ⟨⟩⟩ := bind_eq_ok.mp h
      have hlt := length_token_lt (List.cons_ne_nil d ds) htoken
      obtain ⟨s, hcuts, rfl⟩ := ih hmore (by omega)
      exact ⟨s.push ⟨t, newline, d :: ds⟩, .step hgap (List.cons_ne_nil d ds) htoken hcuts, rfl⟩

theorem Cuts.tokensWithin_eq {cs : List Char} {s : Tokens} (h : Cuts cs s) {n : Nat}
    (hn : cs.length < n) : tokensWithin n cs = .ok (s.current :: s.following) := by
  induction h generalizing n with
  | stop hgap =>
    obtain ⟨n, rfl⟩ : ∃ k, n = k + 1 := ⟨n - 1, by omega⟩
    rw [tokensWithin, hgap]
    rfl
  | @step cs start after newline t s hgap hstart htoken hcuts ih =>
    obtain ⟨n, rfl⟩ : ∃ k, n = k + 1 := ⟨n - 1, by omega⟩
    have hle := (skipGap_suffix hgap).length_le
    have hlt := length_token_lt hstart htoken
    have hmore := ih (n := n) (by omega)
    have hsome : start.isEmpty = false := by simpa using hstart
    rw [tokensWithin, hgap]
    simp only [bind, Except.bind, hsome, Bool.false_eq_true, if_false, htoken, hmore]
    rfl

/-- The lexer cuts a text into the tokens of a state. -/
theorem tokens_eq_ok_iff {cs : List Char} {ls : List Located} :
    tokens cs = .ok ls ↔ ∃ s, Cuts cs s ∧ ls = s.current :: s.following := by
  constructor
  · intro h
    exact cuts_of_tokensWithin h (Nat.lt_succ_self _)
  · rintro ⟨s, hcuts, rfl⟩
    exact hcuts.tokensWithin_eq (Nat.lt_succ_self _)

/-- A text is cut into its first token and what the rest is cut into. -/
theorem Cuts.exists_push {cs start rest : List Char} {newline : Bool} {t : Token} {s : Tokens}
    (h : Cuts cs s) (hgap : skipGap .blank false cs = .ok (newline, start)) (hstart : start ≠ [])
    (htoken : token start = .ok (t, rest)) : ∃ u, s = u.push ⟨t, newline, start⟩ ∧ Cuts rest u := by
  cases h with
  | stop hend =>
    rw [hgap] at hend
    cases hend
    contradiction
  | step hgap' _ htoken' hcuts =>
    rw [hgap] at hgap'
    cases hgap'
    rw [htoken] at htoken'
    cases htoken'
    exact ⟨_, rfl, hcuts⟩

/-- The first token of a text stands after its first gap, and the others are those of the rest. -/
theorem Cuts.of_push {cs : List Char} {l : Located} {s : Tokens} (h : Cuts cs (s.push l)) :
    skipGap .blank false cs = .ok (l.newlineBefore, l.text) ∧ l.text ≠ [] ∧
      ∃ rest, token l.text = .ok (l.token, rest) ∧ Cuts rest s := by
  obtain ⟨current, following⟩ := s
  generalize hpush : Tokens.push l ⟨current, following⟩ = u at h
  cases h with
  | stop => cases hpush
  | step hskip hstart htoken hcuts =>
    cases hpush
    exact ⟨hskip, hstart, _, htoken, hcuts⟩

/-- Each token of a text but the last is read where it stands. -/
theorem Cuts.exists_token {cs : List Char} {s : Tokens} (h : Cuts cs s) : ∀ l ∈ s.toList,
    l.token = .endOfInput ∨ ∃ rest, l.text ≠ [] ∧ token l.text = .ok (l.token, rest) := by
  induction h with
  | stop hgap => exact List.forall_mem_singleton.mpr (Or.inl rfl)
  | step hgap hstart htoken _ ih =>
    exact List.forall_mem_cons.mpr ⟨Or.inr ⟨_, hstart, htoken⟩, ih⟩

/-- What a text is cut into depends on where its first gap ends. -/
theorem Cuts.of_skipGap_eq {cs cs' : List Char} {s : Tokens}
    (hgap : skipGap .blank false cs = skipGap .blank false cs') (h : Cuts cs' s) : Cuts cs s := by
  cases h with
  | stop hend => exact .stop (hgap.trans hend)
  | step hend hstart htoken hcuts => exact .step (hgap.trans hend) hstart htoken hcuts

/-- A text keeps its tokens when it goes on. The flag says whether a line ends in the gap after the
last of them. -/
theorem Cuts.append {c : Char} (hc : closes c = true) (rest : List Char) {cs : List Char}
    {s : Tokens} (h : Cuts cs s) {n : Nat} (hn : cs.length < n)
    (hcomment : c = '\n' ∨ endsInCommentWithin n cs = false) :
    ∃ newline, ∀ t, (∀ cs', skipGap .blank false cs' = skipGap .blank newline (c :: rest) →
      Cuts cs' t) → ∃ s', Cuts (cs ++ c :: rest) s' ∧ Tokens.Same t s s' := by
  induction h generalizing n with
  | @stop cs newline hgap =>
    obtain ⟨n, rfl⟩ : ∃ k, n = k + 1 := ⟨n - 1, by omega⟩
    rw [endsInCommentWithin, hgap] at hcomment
    have hlong := skipGap_append hc rest hgap (by tauto)
    rw [if_pos rfl] at hlong
    exact ⟨newline, fun t ht => ⟨t, ht _ hlong, .stop⟩⟩
  | @step cs start after newline t s hgap hstart htoken hcuts ih =>
    obtain ⟨n, rfl⟩ : ∃ k, n = k + 1 := ⟨n - 1, by omega⟩
    have hle := (skipGap_suffix hgap).length_le
    have hlt := length_token_lt hstart htoken
    have hrest : c = '\n' ∨ endsInCommentWithin n after = false := by
      obtain ⟨d, ds, rfl⟩ := List.exists_cons_of_ne_nil hstart
      rw [endsInCommentWithin, hgap] at hcomment
      simpa only [htoken] using hcomment
    have hlong := skipGap_append hc rest hgap (Or.inr (Or.inr hstart))
    rw [if_neg hstart] at hlong
    obtain ⟨last, hmore⟩ := ih (n := n) (by omega) hrest
    refine ⟨last, fun u hu => ?_⟩
    obtain ⟨s', hcuts', hsame⟩ := hmore u hu
    have htoken' := token_append hc rest hstart htoken
    exact ⟨_, .step hlong (by simp) htoken' hcuts',
      .step rfl rfl (token_ne_endOfInput hstart htoken) hsame⟩

/-- A text keeps its tokens when the end of a line comes after it. -/
theorem Cuts.append_line {cs rest : List Char} {s t : Tokens} (h : Cuts cs s)
    (hrest : Cuts ('\n' :: rest) t) :
    ∃ s', Cuts (cs ++ '\n' :: rest) s' ∧ Tokens.Same t s s' := by
  obtain ⟨newline, hmore⟩ := h.append (c := '\n') rfl rest (Nat.lt_succ_self _) (Or.inl rfl)
  have hline : skipGap .blank newline ('\n' :: rest) = skipGap .blank false ('\n' :: rest) := rfl
  exact hmore t fun cs' hgap => .of_skipGap_eq (hgap.trans hline) hrest

/-- A parenthesis is a token whatever follows it. -/
theorem token_parenthesis {p : Punctuator} (hp : p = .leftParen ∨ p = .rightParen)
    (rest : List Char) : token (p.chars ++ rest) = .ok (.punctuator p, rest) := by
  rcases hp with rfl | rfl
  · have hstart : isIdentifierStart '(' = false := by decide
    have hnumber : startsNumber ('(' :: rest) = false := rfl
    have hmark : Punctuator.starting? ('(' :: rest) = some .leftParen := rfl
    rw [Punctuator.chars, List.singleton_append, token, hstart, hnumber, hmark]
    rfl
  · have hstart : isIdentifierStart ')' = false := by decide
    have hnumber : startsNumber (')' :: rest) = false := rfl
    have hmark : Punctuator.starting? (')' :: rest) = some .rightParen := rfl
    rw [Punctuator.chars, List.singleton_append, token, hstart, hnumber, hmark]
    rfl

/-- A text that starts with a parenthesis is cut into it and what the rest is cut into. -/
theorem Cuts.mark {p : Punctuator} (hp : p = .leftParen ∨ p = .rightParen) {newline : Bool}
    {cs rest : List Char} {t : Tokens}
    (hgap : skipGap .blank false cs = .ok (newline, p.chars ++ rest)) (h : Cuts rest t) :
    Cuts cs (t.push ⟨.punctuator p, newline, p.chars ++ rest⟩) := by
  refine .step hgap ?_ (token_parenthesis hp rest) h
  rcases hp with rfl | rfl
  · exact List.cons_ne_nil _ _
  · exact List.cons_ne_nil _ _

/-- A text keeps its tokens when the end of a line comes before it. -/
theorem Cuts.line {cs : List Char} {t : Tokens} (h : Cuts cs t)
    (ht : t.current.token ≠ .endOfInput) :
    Cuts ('\n' :: cs) ⟨{ t.current with newlineBefore := true }, t.following⟩ := by
  cases h with
  | stop => contradiction
  | step hgap hstart htoken hcuts => exact .step (skipGap_newline hgap) hstart htoken hcuts

/-- A text keeps its tokens when a closing parenthesis comes after it, unless that is in a
comment. -/
theorem Cuts.append_rightParen {cs rest : List Char} {s t : Tokens} (h : Cuts cs s)
    (hcomment : endsInComment cs = false) (hrest : Cuts rest t) :
    ∃ newline s', Cuts (cs ++ ')' :: rest) s' ∧
      Tokens.Same (t.push ⟨.punctuator .rightParen, newline, ')' :: rest⟩) s s' := by
  obtain ⟨newline, hmore⟩ := h.append (c := ')') rfl rest (Nat.lt_succ_self _) (Or.inr hcomment)
  exact ⟨newline, hmore _ fun cs' hgap => .mark (Or.inr rfl) hgap hrest⟩

/-- The tokens of a text end in the end of input, which is nowhere before. -/
theorem Cuts.ended {cs : List Char} {s : Tokens} (h : Cuts cs s) : s.Ended := by
  induction h with
  | stop _ => exact .finished
  | step _ hstart htoken _ ih => exact .push (token_ne_endOfInput hstart htoken) ih

end Lexer

end Microtemplate.Script
