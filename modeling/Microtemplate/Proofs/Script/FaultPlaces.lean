import Microtemplate.Proofs.Script.AdvancingReaders
import Microtemplate.Proofs.Script.TokenSpans
import Microtemplate.Proofs.Text.Boundaries

/-!
Where faults are found. Whatever is wrong with a program text, the text that is left at the fault is
an end of the program text, so the offset of the error is a character boundary in it. No loop of the
lexer or the readers is ever stopped by its bound: each round goes over a character or a token.
-/

namespace Microtemplate.Script

namespace Lexer

open Decimal (fractionOf)

variable {α β : Type} {source start cs rest : List Char}

/-- What an operation refuses it refuses at an end of the source. -/
def Faults (source : List Char) (r : Except Fault α) : Prop := ∀ e, r = .error e → e.text <:+ source

namespace Faults

theorem ok (a : α) : Faults source (.ok a) := fun _ h => by cases h

theorem error {cause : Cause} (h : start <:+ source) :
    Faults source (.error ⟨cause, start⟩ : Except Fault α) := fun _ he => by
  cases he
  exact h

theorem bind {r : Except Fault α} {f : α → Except Fault β} (h : Faults source r)
    (hmore : ∀ a, r = .ok a → Faults source (f a)) : Faults source (r >>= f) := by
  intro e he
  cases hr : r with
  | error e' =>
    rw [hr] at he
    cases he
    exact h _ hr
  | ok a =>
    rw [hr] at he
    exact hmore a hr e he

end Faults

theorem skipGap_faults {g : Gap} {newline : Bool} (hcs : cs <:+ source)
    (hopened : ∀ opened, g = .block opened → opened <:+ source) :
    Faults source (skipGap g newline cs) := by
  fun_induction skipGap g newline cs
  case case10 opened _ => exact .error (hopened opened rfl)
  case case3 ih =>
    refine ih (((List.suffix_cons _ _).trans (List.suffix_cons _ _)).trans hcs) ?_
    rintro _ ⟨⟩
    exact hcs
  case case12 ih =>
    refine ih ((List.suffix_cons _ _).trans hcs) ?_
    rintro _ ⟨⟩
    exact hopened _ rfl
  all_goals first
    | exact .ok _
    | (rename_i ih; exact ih ((List.suffix_cons _ _).trans hcs) (by rintro _ ⟨⟩))
    | (rename_i ih; exact ih (((List.suffix_cons _ _).trans (List.suffix_cons _ _)).trans hcs) (by rintro _ ⟨⟩))

theorem endNumber_faults (hstart : start <:+ source) (value : Float) :
    Faults source (endNumber start value rest) := by
  unfold endNumber
  split
  · split
    · exact .error hstart
    · exact .ok _
  · exact .ok _

theorem hexadecimal_faults (hstart : start <:+ source) : Faults source (hexadecimal start cs) := by
  unfold hexadecimal
  dsimp only
  split
  · exact .error hstart
  · exact endNumber_faults hstart _

theorem exponent_faults (hcs : cs <:+ source) : Faults source (exponent cs) := by
  cases cs with
  | nil => exact .ok _
  | cons d ds =>
    rw [exponent_cons]
    split
    · dsimp only
      split
      · exact .error hcs
      · exact .ok _
    · exact .ok _

theorem decimal_faults (hstart : start <:+ source) : Faults source (decimal start) := by
  rw [decimal_eq]
  have hrest : (fractionOf (start.span Char.isDigit).2).2 <:+ source :=
    (fractionOf_leaves _).suffix.trans ((span_suffix _ _).trans hstart)
  exact (exponent_faults hrest).bind fun p _ => endNumber_faults hstart _

theorem number_faults (hstart : start <:+ source) : Faults source (number start) := by
  unfold number
  split
  · exact hexadecimal_faults hstart
  · exact hexadecimal_faults hstart
  · exact decimal_faults hstart

theorem hexDigits_faults (hstart : start <:+ source) (count : Nat) :
    Faults source (hexDigits count start cs) := by
  unfold hexDigits
  dsimp only
  split
  · exact .ok _
  · exact .error hstart

theorem unicodeEscape_faults (hstart : start <:+ source) :
    Faults source (unicodeEscape start cs) := by
  unfold unicodeEscape
  split
  · dsimp only
    split
    · split
      · exact .error hstart
      · split
        · exact .ok _
        · exact .error hstart
    · exact .error hstart
  · exact hexDigits_faults hstart 4

theorem pairSurrogates_faults (hstart : start <:+ source) (code : Nat) :
    Faults source (pairSurrogates start code cs) := by
  unfold pairSurrogates
  split
  · split
    · refine (unicodeEscape_faults hstart).bind fun p _ => ?_
      dsimp only
      split
      · exact .ok _
      · exact .ok _
    · exact .ok _
  · exact .ok _

theorem escape_faults (hstart : start <:+ source) : Faults source (escape start cs) := by
  unfold escape
  split
  case h_1 => exact .error hstart
  case h_8 => exact (hexDigits_faults hstart 2).bind fun p _ => .ok _
  case h_9 =>
    exact (unicodeEscape_faults hstart).bind fun p _ =>
      (pairSurrogates_faults hstart p.1).bind fun q _ => .ok _
  case h_11 =>
    split
    · exact .error hstart
    · exact .ok _
  case h_13 =>
    split
    · exact .ok _
    · split
      · exact .error hstart
      · exact .ok _
  all_goals exact .ok _

theorem stringBody_faults {quote : Char} {n : Nat} (hstart : start <:+ source) (hcs : cs <:+ source) :
    Faults source (stringBody quote start n cs) := by
  induction n generalizing cs with
  | zero => exact .error hstart
  | succ n ih =>
    cases cs with
    | nil => exact .error hstart
    | cons d ds =>
      have hds : ds <:+ source := (List.suffix_cons _ _).trans hcs
      rw [stringBody]
      split
      · exact .ok _
      split
      · exact .error hstart
      split
      · refine (escape_faults hcs).bind fun p hp => ?_
        exact (ih ((escape_suffix hp).trans hds)).bind fun q _ => .ok _
      · exact (ih hds).bind fun q _ => .ok _

theorem token_faults (hstart : start <:+ source) : Faults source (token start) := by
  unfold token
  split
  · exact .ok _
  · split
    · exact .ok _
    split
    · exact (number_faults hstart).bind fun p _ => .ok _
    split
    · refine Faults.bind (stringBody_faults hstart ?_) fun p _ => .ok _
      exact (List.suffix_cons _ _).trans hstart
    · split
      · exact .ok _
      · exact .error hstart

theorem tokensWithin_faults {n : Nat} (hcs : cs <:+ source) : Faults source (tokensWithin n cs) := by
  induction n generalizing cs with
  | zero => exact .ok _
  | succ n ih =>
    refine (skipGap_faults hcs (by rintro _ ⟨⟩)).bind fun p hp => ?_
    have hleft : p.2 <:+ source := (skipGap_suffix hp).trans hcs
    dsimp only
    split
    · exact .ok _
    · rename_i hne
      refine (token_faults hleft).bind fun q hq => ?_
      refine Faults.bind (ih ((token_suffix ?_ hq).trans hleft)) fun more _ => .ok _
      simpa using hne

/-- Each round of a string goes over a character, so a bound that is enough does not matter. -/
theorem stringBody_bounds {quote : Char} {n m : Nat} (hn : cs.length < n) (hm : cs.length < m) :
    stringBody quote start n cs = stringBody quote start m cs := by
  induction n generalizing m cs with
  | zero => cases hn
  | succ n ih =>
    obtain ⟨m, rfl⟩ : ∃ k, m = k + 1 := ⟨m - 1, by omega⟩
    cases cs with
    | nil => rfl
    | cons d ds =>
      rw [List.length_cons] at hn hm
      rw [stringBody, stringBody]
      split
      · rfl
      split
      · rfl
      split
      · cases hescape : escape (d :: ds) ds with
        | error e => rfl
        | ok p =>
          have hshorter := (escape_suffix hescape).length_le
          have hrest : stringBody quote start n p.2 = stringBody quote start m p.2 :=
            ih (by omega) (by omega)
          simp only [bind, Except.bind, hrest]
      · have hrest : stringBody quote start n ds = stringBody quote start m ds :=
          ih (by omega) (by omega)
        rw [hrest]

/-- Each round of the lexer goes over a character, so a bound that is enough does not matter. -/
theorem tokensWithin_bounds {n m : Nat} (hn : cs.length < n) (hm : cs.length < m) :
    tokensWithin n cs = tokensWithin m cs := by
  induction n generalizing m cs with
  | zero => cases hn
  | succ n ih =>
    obtain ⟨m, rfl⟩ : ∃ k, m = k + 1 := ⟨m - 1, by omega⟩
    rw [tokensWithin, tokensWithin]
    cases hgap : skipGap .blank false cs with
    | error e => rfl
    | ok p =>
      obtain ⟨newline, left⟩ := p
      have hgapped := (skipGap_suffix hgap).length_le
      cases left with
      | nil => rfl
      | cons d ds =>
        cases htoken : token (d :: ds) with
        | error e => simp only [bind, Except.bind, htoken]
        | ok q =>
          have hshorter := length_token_lt (List.cons_ne_nil d ds) htoken
          have hrest : tokensWithin n q.2 = tokensWithin m q.2 := ih (by omega) (by omega)
          simp only [bind, Except.bind, htoken, hrest]

/-- The tokens of a text stand at ends of the text. -/
theorem Cuts.placed {s : Tokens} (h : Cuts cs s) (hcs : cs <:+ source) :
    s.Placed (· <:+ source) := by
  refine ⟨h.ended, ?_⟩
  induction h with
  | stop =>
    intro l hl
    obtain rfl := List.mem_singleton.mp hl
    exact List.nil_suffix
  | step hgap hstart htoken _ ih =>
    have hleft := (skipGap_suffix hgap).trans hcs
    refine List.forall_mem_cons.mpr ⟨hleft, fun l hl => ?_⟩
    exact ih ((token_suffix hstart htoken).trans hleft) l hl

end Lexer

namespace Parse

/-- A reader goes over at least one token whenever it gives a result. -/
def Consumes {α : Type} (p : Parse α) : Prop :=
  ∀ s a u, s.Ended → p s = .ok (a, u) → u.left < s.left

theorem Advances.consumes {α : Type} {n : Nat} {p p' : Parse α}
    (h : Advances (fun _ => True) id Anywhere 1 n p p') : Consumes p :=
  fun s a u hs hp => (h.moves s a u ⟨hs, fun _ _ => trivial⟩ trivial hp).2

end Parse

/-- The readers of a level of nesting go over at least one token. -/
def Nested.Consumes (inner : Nested) : Prop :=
  (∀ inLoop, (inner.statement inLoop).Consumes) ∧ inner.assignment.Consumes ∧ inner.unary.Consumes

theorem Reader.nested_consumes (limit levels : Nat) : (nested limit levels).Consumes := by
  have h : NestedAdvance (fun _ => True) id 0 (nested limit levels) (nested limit levels) :=
    nested_advance (Nat.zero_le limit) (Nat.zero_le limit) levels
  exact ⟨fun inLoop => (h.statement inLoop).consumes, h.assignment.consumes, h.unary.consumes⟩

theorem Lexer.placed_of_tokens {source : List Char} {first : Located} {more : List Located}
    (h : tokens source = .ok (first :: more)) : Tokens.Placed (· <:+ source) ⟨first, more⟩ := by
  obtain ⟨s, hcuts, hlist⟩ := tokens_eq_ok_iff.mp h
  obtain ⟨rfl, rfl⟩ := List.cons.inj hlist
  exact hcuts.placed List.suffix_rfl

namespace Function

/-- A text is refused at one of its ends. -/
theorem ofText?_faults {source : List Char} : Lexer.Faults source (Function.ofText? source) := by
  have htokens : Lexer.Faults source (Lexer.tokens source) :=
    Lexer.tokensWithin_faults List.suffix_rfl
  refine htokens.bind fun ls hls => ?_
  cases ls with
  | nil => exact .error List.nil_suffix
  | cons first more =>
    have hread : Parse.Advances (· <:+ source) id Parse.Anywhere 1 (more.length + 1)
        (Reader.program (more.length + 1)) (Reader.program (more.length + 1)) :=
      Reader.program_advances (Nat.le_refl _) (Nat.le_refl _)
    refine Lexer.Faults.bind (fun e he => ?_) fun r _ => .ok _
    exact hread.faults _ e (Lexer.placed_of_tokens hls) trivial he

/-- The readers with more rounds than there are tokens give the same. -/
theorem program_bounds {source : List Char} {first : Located} {more : List Located}
    (h : Lexer.tokens source = .ok (first :: more)) {limit : Nat} (hlimit : more.length < limit) :
    (Reader.program limit).run ⟨first, more⟩ =
      (Reader.program (more.length + 1)).run ⟨first, more⟩ := by
  have hread : Parse.Advances (· <:+ source) id Parse.Anywhere 1 (more.length + 1)
      (Reader.program (more.length + 1)) (Reader.program limit) :=
    Reader.program_advances (Nat.le_refl _) hlimit
  have hsame := hread.same _ (Lexer.placed_of_tokens h) trivial (Nat.lt_succ_self _)
  rwa [Tokens.moved_id, Parse.movedResult_id] at hsame

/-- A program text is read, or it is refused with an error that holds this text and the offset of one
of its characters or of its end. Each round of the lexer goes over a character and each round of the
readers over a token, so no bound on their rounds is ever met. -/
theorem parse_located (source : String) :
    ((∃ f, Function.parse source = .ok f) ∨
      ∃ e, Function.parse source = .error e ∧ e.program = source ∧
        e.offset ≤ Text.byteLength source.toList ∧ Text.IsBoundary e.offset source.toList) ∧
    (∀ start rest t, start ≠ [] → Lexer.token start = .ok (t, rest) →
      rest.length < start.length) ∧
    (∀ quote start cs bound, cs.length < bound →
      Lexer.stringBody quote start bound cs = Lexer.stringBody quote start (cs.length + 1) cs) ∧
    (∀ bound, source.toList.length < bound →
      Lexer.tokensWithin bound source.toList = Lexer.tokens source.toList) ∧
    (∀ limit levels, (Reader.nested limit levels).Consumes) ∧
    ∀ first more, Lexer.tokens source.toList = .ok (first :: more) → ∀ limit, more.length < limit →
      (Reader.program limit).run ⟨first, more⟩ =
        (Reader.program (more.length + 1)).run ⟨first, more⟩ := by
  refine ⟨?_, fun start rest t hstart htoken => Lexer.length_token_lt hstart htoken,
    fun quote start cs bound hbound => Lexer.stringBody_bounds hbound (Nat.lt_succ_self _),
    fun bound hbound => Lexer.tokensWithin_bounds hbound (Nat.lt_succ_self _),
    Reader.nested_consumes, fun first more htokens limit hlimit => program_bounds htokens hlimit⟩
  cases hread : Function.ofText? source.toList with
  | ok f => exact Or.inl ⟨f, by rw [Function.parse, hread]⟩
  | error fault =>
    have hboundary := Text.isBoundary_of_suffix (ofText?_faults fault hread)
    exact Or.inr ⟨.ofFault source fault, by rw [Function.parse, hread], rfl, hboundary.le, hboundary⟩

end Function

end Microtemplate.Script
