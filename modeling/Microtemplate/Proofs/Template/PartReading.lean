import Microtemplate.Proofs.Template.Parts

/-!
Reading the program of a template part by part. The text of the program is cut into tokens from its
end on: in front of a text with known tokens, each part has tokens of its own, and the readers go
over them to the tokens that were known. Code keeps the tree it has alone, between the parentheses
around an expression and between the line ends around statements.
-/

namespace Microtemplate

open Script
open Reader (nested)
open Lexer (Cuts)

namespace Script

theorem Tokens.before_cons (l : Located) (ls : List Located) (t : Tokens) :
    before (l :: ls) t = (before ls t).push l := by
  cases ls <;> rfl

theorem Tokens.left_before_locate (ps : List Piece) (rest : List Char) (t : Tokens) :
    (before (Piece.locate ps rest) t).left = ps.length + t.left := by
  induction ps with
  | nil => exact (Nat.zero_add _).symm
  | cons p ps ih =>
    rw [Piece.locate, before_cons, left_push, ih, List.length_cons]
    omega

/-- Pieces in front of a text are cut into their tokens. -/
theorem Lexer.Cuts.print {ps : List Piece} {rest : List Char} {t : Tokens} (h : Cuts rest t)
    (hfit : Piece.fit ps rest.head? = true) :
    Cuts (Piece.print ps ++ rest) (.before (Piece.locate ps rest) t) := by
  induction ps with
  | nil => exact h
  | cons p ps ih =>
    obtain ⟨hskip, hstart, htoken⟩ := Piece.lex_cons hfit
    rw [Piece.locate, Tokens.before_cons]
    exact .step hskip hstart htoken (ih (Bool.and_eq_true_iff.mp hfit).2)

namespace Reader

open Parse

/-- What a reader takes from a text alone, it takes from the tokens of the text. -/
theorem exists_cuts_of_alone {α : Type} {reader : Nat → Parse α} {text : List Char} {a : α}
    (h : alone reader text = .ok a) :
    ∃ s u, Cuts text s ∧ reader (s.left + 1) s = .ok (a, u) := by
  rw [alone] at h
  cases htokens : Lexer.tokens text with
  | error f =>
    rw [htokens] at h
    cases h
  | ok ls =>
    obtain ⟨s, hcuts, rfl⟩ := Lexer.tokens_eq_ok_iff.mp htokens
    rw [htokens] at h
    change Except.bind (reader (s.left + 1) s) (fun r => Except.ok r.1) = .ok a at h
    cases hread : reader (s.left + 1) s with
    | error f =>
      rw [hread] at h
      cases h
    | ok r =>
      rw [hread] at h
      cases h
      exact ⟨s, r.2, hcuts, hread⟩

/-- A reader that takes the whole text stops at the end of input. -/
theorem of_whole {α : Type} {p : Parse α} {s u : Tokens} {a : α} (h : whole p s = .ok (a, u)) :
    p s = .ok (a, u) ∧ u.current.token = .endOfInput := by
  obtain ⟨a', u', hp, hrest⟩ := bind_eq_ok.mp h
  obtain ⟨k, w, htoken, hrest⟩ := bind_eq_ok.mp hrest
  cases htoken
  by_cases hend : u'.current.token = .endOfInput
  · rw [if_pos hend] at hrest
    cases hrest
    exact ⟨hp, hend⟩
  · rw [if_neg hend] at hrest
    cases hrest

/-- An expression that takes a whole text is read up to a closing parenthesis after the text. -/
theorem exists_cuts_of_expr {levels : Nat} {code rest : List Char} {e : Expr} {t : Tokens}
    (hcomment : Lexer.endsInComment code = false) (h : Expr.ofText? levels code = .ok e)
    (ht : Cuts rest t) :
    ∃ newline s, Cuts (code ++ ')' :: rest) s ∧ t.left < s.left ∧ ∀ limit, s.left ≤ limit →
      expression limit (nested limit levels) s =
        .ok (e, t.push ⟨.punctuator .rightParen, newline, ')' :: rest⟩) := by
  obtain ⟨s, u, hcuts, hwhole⟩ := exists_cuts_of_alone h
  obtain ⟨hread, hend⟩ := of_whole hwhole
  obtain ⟨newline, s', hcuts', hsame⟩ := hcuts.append_rightParen hcomment ht
  have hleft : s'.left = s.left + (t.left + 1) := hsame.left_eq
  have hparen : (t.push ⟨.punctuator .rightParen, newline, ')' :: rest⟩).current.token.Separate :=
    Or.inl rfl
  refine ⟨newline, s', hcuts', by omega, fun limit hlimit => ?_⟩
  have hleads : Leads _ True (s.left + 1) (expression (s.left + 1) (nested (s.left + 1) levels))
      (expression limit (nested limit levels)) :=
    expression_leads (fun _ => hparen) (nested_follow (Nat.le_refl _) (by omega) levels) (Nat.le_refl _)
      (by omega)
  obtain ⟨hu, -⟩ := hleads.follows.moves s e u hcuts.ended hread
  obtain rfl := hu.eq_finished_of_token hend
  obtain ⟨u', hread', hsame'⟩ :=
    hleads.follows.same s s' e _ hsame (Nat.lt_succ_self _) hread (Or.inl trivial)
  rw [hsame'.eq_of_finished] at hread'
  exact hread'

section Operands

variable {k levels : Nat} {e : Expr} {ps : List Piece} {rest cs : List Char} {newline : Bool}
  {s t u : Tokens} {l l' : Located}

/-- What stands in parentheses is an operand. -/
theorem unary_paren (hl : l.token = .punctuator .leftParen) {p : Punctuator}
    (hp : p = .rightParen ∨ p = .equal ∨ p = .plus)
    (h : expression (k + 4) (nested (k + 4) levels) s =
      .ok (e, (Tokens.before (Piece.locate (⟨.tight, .mark p⟩ :: ps) rest) t).push
        ⟨.punctuator .rightParen, newline, cs⟩)) :
    unary (k + 4) (nested (k + 4) levels) (s.push l) =
      .ok (e, .before (Piece.locate (⟨.tight, .mark p⟩ :: ps) rest) t) := by
  obtain ⟨token, newline', text⟩ := l
  obtain rfl : token = .punctuator .leftParen := hl
  rcases hp with rfl | rfl | rfl <;>
  · change Except.bind (Except.bind (expression (k + 4) (nested (k + 4) levels) s) _) _ = _
    rw [h]
    rfl

/-- An operand is a chain where no operator follows it. -/
theorem chain_of_unary {inner : Nested} (h : unary (k + 1) inner s = .ok (e, u)) {looseness : Nat}
    (hnone : ∀ i < looseness, infixAt? (i + 1) u.current.token = none) :
    chain (k + 1) inner looseness s = .ok (e, u) := by
  induction looseness with
  | zero => exact h
  | succ i ih =>
    exact chain_succ (ih fun j hj => hnone j (Nat.lt_succ_of_lt hj)) (hnone i (Nat.lt_succ_self i))

/-- An operand before a closing parenthesis is an assignment. -/
theorem assignment_of_unary
    (h : unary (k + 4) (nested (k + 4) levels) s =
      .ok (e, .before (Piece.locate (⟨.tight, .mark .rightParen⟩ :: ps) rest) t)) :
    assignment (k + 4) (nested (k + 4) levels) s =
      .ok (e, .before (Piece.locate (⟨.tight, .mark .rightParen⟩ :: ps) rest) t) := by
  have hchain : chain (k + 4) (nested (k + 4) levels) 7 s = _ := chain_of_unary h fun i hi => rfl
  change Except.bind (Except.bind (chain (k + 4) (nested (k + 4) levels) 7 s) _) _ = _
  rw [hchain]
  rfl

/-- What is in parentheses is given to a name, up to the closing parenthesis. -/
theorem expression_assign {name : String} (hl : l.token = .identifier name)
    (hl' : l'.token = .punctuator .assign)
    (h : assignment (k + 4) (nested (k + 4) levels) s =
      .ok (e, .before (Piece.locate (⟨.tight, .mark .rightParen⟩ :: ps) rest) t)) :
    expression (k + 4) (nested (k + 4) (levels + 2)) ((s.push l').push l) =
      .ok (.assign none (.identifier name) e,
        .before (Piece.locate (⟨.tight, .mark .rightParen⟩ :: ps) rest) t) := by
  obtain ⟨token, newline, text⟩ := l
  obtain ⟨token', newline', text'⟩ := l'
  obtain rfl : token = .identifier name := hl
  obtain rfl : token' = .punctuator .assign := hl'
  change Except.bind (Except.bind (assignment (k + 4) (nested (k + 4) levels) s) _) _ = _
  rw [h]
  rfl

/-- A value is compared with null, and nothing or what is shown of it is taken. -/
theorem expression_choice (escaped : Bool)
    (h : unary (k + 4) (nested (k + 4) (levels + 2)) s =
      .ok (e, .before (Piece.locate (Slot.test.drop 2 ++
        (Slot.value escaped ++ ⟨.tight, .mark .rightParen⟩ :: ps)) rest) t)) :
    expression (k + 4) (nested (k + 4) (levels + 3)) s =
      .ok (.conditional (.binary .equal e .null) (.string "") (Slot.valueExpr escaped),
        .before (Piece.locate (⟨.tight, .mark .rightParen⟩ :: ps) rest) t) := by
  have hoperand : chain (k + 4) (nested (k + 4) (levels + 2)) 3 s = _ :=
    chain_of_unary h fun i hi => by
      obtain rfl | rfl | rfl : i = 0 ∨ i = 1 ∨ i = 2 := by omega
      all_goals rfl
  have hequal : chain (k + 4) (nested (k + 4) (levels + 2)) 4 s =
      .ok (.binary .equal e .null, .before (Piece.locate (Slot.test.drop 4 ++
        (Slot.value escaped ++ ⟨.tight, .mark .rightParen⟩ :: ps)) rest) t) := by
    change Except.bind (chain (k + 4) (nested (k + 4) (levels + 2)) 3 s) _ = _
    rw [hoperand]
    rfl
  have htest := chain_succ (chain_succ (chain_succ hequal rfl) rfl) rfl
  change Except.bind (Except.bind (Except.bind
    (chain (k + 4) (nested (k + 4) (levels + 2)) 7 s) _) _) _ = _
  rw [htest]
  cases escaped <;> rfl

/-- A text is an operand of a sum. -/
theorem chain_string {text : String} (ht : t.current.token = .punctuator .plus ∨
    t.current.token = .punctuator .semicolon) :
    chain (k + 4) (nested (k + 4) levels) 1 (t.push ⟨.string text, newline, cs⟩) =
      .ok (.string text, t) := by
  obtain ⟨⟨token, newline, text⟩, following⟩ := t
  rcases ht with ht | ht
  · obtain rfl : token = .punctuator .plus := ht
    rfl
  · obtain rfl : token = .punctuator .semicolon := ht
    rfl

/-- What is shown of an expression is an operand of a sum. -/
theorem chain_shown (escaped : Bool) {l₁ l₂ l₃ l₄ l₅ : Located}
    (h₁ : l₁.token = .punctuator .leftParen) (h₂ : l₂.token = .punctuator .leftParen)
    (h₃ : l₃.token = .identifier "__t") (h₄ : l₄.token = .punctuator .assign)
    (h₅ : l₅.token = .punctuator .leftParen)
    (h : expression (k + 4) (nested (k + 4) levels) s =
      .ok (e, (Tokens.before (Piece.locate (Slot.test.tail ++
        (Slot.value escaped ++ (Slot.closing ++ ps))) rest) t).push
          ⟨.punctuator .rightParen, newline, cs⟩)) :
    chain (k + 4) (nested (k + 4) (levels + 3)) 1
      (((((s.push l₅).push l₄).push l₃).push l₂).push l₁) =
        .ok (.conditional (.binary .equal (.assign none (.identifier "__t") e) .null) (.string "")
          (Slot.valueExpr escaped), .before (Piece.locate (⟨.tight, .mark .plus⟩ :: ps) rest) t) := by
  have hassign := expression_assign h₃ h₄ (assignment_of_unary (unary_paren h₅ (Or.inl rfl) h))
  have htest := unary_paren h₂ (Or.inr (Or.inl rfl)) hassign
  have hchoice := unary_paren h₁ (Or.inr (Or.inr rfl)) (expression_choice escaped htest)
  exact chain_of_unary hchoice fun i hi => by
    obtain rfl : i = 0 := Nat.lt_one_iff.mp hi
    rfl

/-- A text and what is added to it are appended to a name. -/
theorem statement_append {text : List Char} (hnext : u.current.token = .punctuator .plus ∨
    u.current.token = .punctuator .semicolon)
    (h : chainRest 2 (chain (k + 4) (nested (k + 4) levels) 1) (k + 4)
      (.string (String.ofList text)) u =
        .ok (e, .before (Piece.locate [⟨.tight, .mark .semicolon⟩] rest) t)) :
    statement (k + 4) (nested (k + 4) (levels + 2)) false
      (.before (Piece.locate ([⟨.line, .identifier "__p"⟩, ⟨.tight, .mark .plusAssign⟩] ++
        [⟨.tight, .quoted text⟩]) cs) u) =
      .ok (.expression (.assign (some .add) (.identifier "__p") e), t) := by
  have hchain : chain (k + 4) (nested (k + 4) levels) 2
      (.before (Piece.locate [⟨.tight, .quoted text⟩] cs) u) =
        .ok (e, .before (Piece.locate [⟨.tight, .mark .semicolon⟩] rest) t) := by
    change Except.bind (chain (k + 4) (nested (k + 4) levels) 1
      (u.push ⟨.string (String.ofList text), false, _⟩)) _ = _
    rw [chain_string hnext]
    exact h
  have hloosest := chain_succ (chain_succ (chain_succ (chain_succ (chain_succ hchain rfl) rfl) rfl)
    rfl) rfl
  have hsum : assignment (k + 4) (nested (k + 4) levels)
      (.before (Piece.locate [⟨.tight, .quoted text⟩] cs) u) =
        .ok (e, .before (Piece.locate [⟨.tight, .mark .semicolon⟩] rest) t) := by
    change Except.bind (Except.bind (chain (k + 4) (nested (k + 4) levels) 7 _) _) _ = _
    rw [hloosest]
    rfl
  change Except.bind (Except.bind (assignment (k + 4) (nested (k + 4) (levels + 1))
    (.before (Piece.locate [⟨.line, .identifier "__p"⟩, ⟨.tight, .mark .plusAssign⟩,
      ⟨.tight, .quoted text⟩] cs) u)) _) _ = _
  rw [assignment_plusAssign hsum]
  rfl

end Operands

section Statements

variable {levels : Nat} {trees trees' : List Stmt} {s t u : Tokens}

theorem statements_succ {inner : Nested} {n : Nat} {first : Stmt}
    (hbrace : s.current.token ≠ .punctuator .rightBrace) (hend : s.current.token ≠ .endOfInput)
    (h : inner.statement false s = .ok (first, t)) :
    statements inner false (n + 1) s =
      (statements inner false n t).map fun p => (first :: p.1, p.2) := by
  simp only [statements, eatPunctuator, eat, token, bind, StateT.bind, Except.bind,
    Parse.pure_apply, hbrace, if_false, Bool.false_eq_true, hend, h]
  cases statements inner false n t <;> rfl

/-- Statements stand in front of others: up to a closing brace, they are read first, and then the
others are. -/
structure Splices (levels : Nat) (trees : List Stmt) (s t : Tokens) : Prop where
  left : trees.length + t.left ≤ s.left
  read : ∀ k, s.left ≤ k + 4 → ∀ n, statements (nested (k + 4) levels) false (trees.length + n) s =
    (statements (nested (k + 4) levels) false n t).map fun p => (trees ++ p.1, p.2)

theorem Splices.nil : Splices levels [] s s where
  left := Nat.le_of_eq (Nat.zero_add _)
  read k _ n := by
    rw [List.length_nil, Nat.zero_add]
    cases statements (nested (k + 4) levels) false n s <;> rfl

theorem Splices.append (h : Splices levels trees s t) (h' : Splices levels trees' t u) :
    Splices levels (trees ++ trees') s u where
  left := by
    have hle := h.left
    have hle' := h'.left
    rw [List.length_append]
    omega
  read k hk n := by
    have hle := h.left
    rw [List.length_append, Nat.add_assoc, h.read k hk, h'.read k (by omega)]
    cases statements (nested (k + 4) levels) false n u with
    | error f => rfl
    | ok p =>
      change Except.ok (trees ++ (trees' ++ p.1), p.2) = Except.ok ((trees ++ trees') ++ p.1, p.2)
      rw [List.append_assoc]

theorem Splices.single {tree : Stmt} (hbrace : s.current.token ≠ .punctuator .rightBrace)
    (hend : s.current.token ≠ .endOfInput) (hleft : t.left < s.left)
    (h : ∀ k, s.left ≤ k + 4 →
      statement (k + 4) (nested (k + 4) levels) false s = .ok (tree, t)) :
    Splices (levels + 1) [tree] s t where
  left := by
    rw [List.length_singleton]
    omega
  read k hk n := by
    rw [List.length_singleton, Nat.add_comm 1 n]
    exact statements_succ hbrace hend (h k hk)

/-- Where a text does not end, its statements are one and those after it. -/
theorem of_statementsToEnd {inner : Nested} {bound : Nat}
    (h : statementsToEnd inner (bound + 1) s = .ok (trees, u))
    (hend : s.current.token ≠ .endOfInput) :
    s.current.token ≠ .punctuator .rightBrace ∧ ∃ first more v, trees = first :: more ∧
      inner.statement false s = .ok (first, v) ∧ statementsToEnd inner bound v = .ok (more, u) := by
  rw [statementsToEnd, eatPunctuator, ifEat_apply] at h
  by_cases hbrace : s.current.token = .punctuator .rightBrace
  · rw [if_pos hbrace] at h
    obtain ⟨_, _, -, h⟩ := bind_eq_ok.mp h
    cases h
  · rw [if_neg hbrace] at h
    obtain ⟨_, _, htoken, h⟩ := bind_eq_ok.mp h
    cases htoken
    rw [if_neg hend] at h
    obtain ⟨first, v, hfirst, h⟩ := bind_eq_ok.mp h
    obtain ⟨more, _, hmore, h⟩ := bind_eq_ok.mp h
    cases h
    exact ⟨hbrace, first, more, v, rfl, hfirst, hmore⟩

/-- Statements up to the end of a text are the same in a text that goes on with a statement, after
the end of a line or not. -/
theorem statements_of_toEnd (ht : t.current.token.Separate) (hends : endsStatement t.current = true)
    {limit limit' bound : Nat} {s' : Tokens} {newline : Bool}
    (h : statementsToEnd (nested limit levels) bound s = .ok (trees, u)) (hsame : Tokens.Same t s s')
    (hline : s.current.token = .endOfInput → newline = s'.current.newlineBefore)
    (hlimit : s.left < limit) (hlimit' : s.left < limit') :
    trees.length ≤ s.left ∧ ∀ n, statements (nested limit' levels) false (trees.length + n)
      ⟨{ s'.current with newlineBefore := newline }, s'.following⟩ =
        (statements (nested limit' levels) false n t).map fun p => (trees ++ p.1, p.2) := by
  induction bound generalizing s s' newline trees with
  | zero => cases h
  | succ bound ih =>
    cases hsame with
    | stop =>
      cases h
      rw [hline rfl]
      refine ⟨Nat.le_refl _, fun n => ?_⟩
      rw [List.length_nil, Nat.zero_add]
      change statements (nested limit' levels) false n t = _
      cases statements (nested limit' levels) false n t <;> rfl
    | @step l l' s s' htoken _ hend hsame =>
      obtain ⟨hbrace, first, more, v, rfl, hfirst, hmore⟩ := of_statementsToEnd h hend
      -- one more line may end before the first statement, which no statement asks for
      have hleads := (nested_follow (Nat.succ_le_of_lt hlimit) (Nat.succ_le_of_lt hlimit')
        levels).statement false True fun _ => ⟨ht, hends⟩
      obtain ⟨-, hlt⟩ := hleads.consumes (.push hend hsame.ended) hfirst
      obtain ⟨v', hfirst', hsame'⟩ := hleads.same l { l' with newlineBefore := newline } s s' first
        v htoken hend hsame (Nat.lt_succ_self _) hfirst (Or.inl trivial)
      obtain ⟨hlength, hrest⟩ := ih hmore hsame' (fun _ => rfl) (by omega) (by omega)
      refine ⟨?_, fun n => ?_⟩
      · rw [List.length_cons]
        omega
      · have hcount : (first :: more).length + n = more.length + n + 1 := by
          rw [List.length_cons]
          omega
        have hmore' : statements (nested limit' levels) false (more.length + n) v' = _ := hrest n
        rw [hcount]
        refine (statements_succ ?_ ?_ hfirst').trans ?_
        · exact fun hb => hbrace (htoken.symm.trans hb)
        · exact fun he => hend (htoken.symm.trans he)
        · rw [hmore']
          cases statements (nested limit' levels) false n t <;> rfl

/-- Statements that take a whole text are read between the ends of two lines. -/
theorem exists_cuts_of_statements {code rest : List Char}
    (h : Stmt.listOfText? levels code = .ok trees) (ht : Cuts ('\n' :: rest) t)
    (hname : t.current.token = .identifier "__p") (hline : t.current.newlineBefore = true)
    (hleft : 0 < t.left) :
    ∃ s, Cuts ('\n' :: (code ++ '\n' :: rest)) s ∧ Splices levels trees s t := by
  obtain ⟨s, u, hcuts, hread⟩ := exists_cuts_of_alone h
  obtain ⟨s', hcuts', hsame⟩ := hcuts.append_line ht
  have hseparate : t.current.token.Separate := Or.inr ⟨"__p", hname, by decide⟩
  have hends : endsStatement t.current = true := by
    rw [endsStatement, hline]
    rfl
  have hcount := hsame.left_eq
  have hend : s'.current.token ≠ .endOfInput := by
    cases hsame with
    | stop =>
      rw [hname]
      exact Token.noConfusion
    | step htoken _ hend _ => exact fun he => hend (htoken.symm.trans he)
  have hstop : s.current.token = .endOfInput → true = s'.current.newlineBefore := by
    intro he
    obtain rfl := hcuts.ended.eq_finished_of_token he
    rw [hsame.eq_of_finished, hline]
  refine ⟨_, hcuts'.line hend, ?_, fun k hk n => ?_⟩
  · obtain ⟨hlength, -⟩ := statements_of_toEnd hseparate hends hread hsame hstop
      (Nat.lt_succ_self _) (Nat.lt_succ_self _)
    change trees.length + t.left ≤ s'.left
    omega
  · have hk : s'.left ≤ k + 4 := hk
    exact (statements_of_toEnd hseparate hends hread hsame hstop (Nat.lt_succ_self _)
      (by omega)).2 n

end Statements

end Reader

end Script

open Reader (chain chainRest Splices)

namespace Shown

/-- The pieces of a value after its code, up to the text after it. -/
def closing (x : Shown) (after : List Char) : List Piece :=
  Slot.test.tail ++ (Slot.value x.escaped ++ (Slot.closing ++ [⟨.line, .quoted after⟩]))

theorem fit_closing (x : Shown) (after : List Char) (next : Option Char) :
    Piece.fit (x.closing after) next = true := by
  have htest : Piece.fit Slot.test.tail (some '_') = true := rfl
  have hclosing : Piece.fit Slot.closing (some '\n') = true := rfl
  have hvalue : Piece.fit (Slot.value x.escaped) (some ')') = true := by
    cases x.escaped <;> rfl
  have hfirst : ∀ more, (Piece.print (Slot.value x.escaped ++ more)).head?.or next = some '_' := by
    intro more
    cases x.escaped <;> rfl
  rw [closing, Piece.fit_append, Piece.fit_append, Piece.fit_append, hfirst]
  simp only [Bool.and_eq_true]
  exact ⟨htest, hvalue, hclosing, rfl⟩

/-- A value in front of a text goes into the sum, with the text after it. -/
theorem exists_cuts {levels : Nat} {x : Shown} (hcomment : Lexer.endsInComment x.code = false)
    (h : Expr.ofText? levels x.code = .ok x.expr) (after : List Char) {rest : List Char} {t : Tokens}
    (ht : Cuts rest t)
    (hnext : t.current.token = .punctuator .plus ∨ t.current.token = .punctuator .semicolon) :
    ∃ s, Cuts (x.text after ++ rest) s ∧ s.current.token = .punctuator .plus ∧
      t.left + 2 ≤ s.left ∧ ∀ k, s.left ≤ k + 4 → ∀ n sum,
        chainRest 2 (chain (k + 4) (nested (k + 4) (levels + 3)) 1) (n + 2) sum s =
          chainRest 2 (chain (k + 4) (nested (k + 4) (levels + 3)) 1) n (join sum (x, after)) t := by
  obtain ⟨newline, s, hcuts, hleft, hread⟩ :=
    Reader.exists_cuts_of_expr hcomment h (ht.print (x.fit_closing after _))
  have hparen : Piece.print Slot.opening = Piece.print Slot.opening.dropLast ++ ['('] := rfl
  have hopening : Piece.fit Slot.opening.dropLast (some '(') = true := rfl
  have htext : x.text after ++ rest = Piece.print Slot.opening.dropLast ++
      ('(' :: (x.code ++ ')' :: (Piece.print (x.closing after) ++ rest))) := by
    rw [text, hparen, closing]
    simp only [List.append_assoc, List.cons_append, List.nil_append]
  have hopen : Cuts ('(' :: (x.code ++ ')' :: (Piece.print (x.closing after) ++ rest))) _ :=
    .mark (Or.inl rfl) rfl hcuts
  rw [htext]
  refine ⟨_, hopen.print hopening, rfl, ?_, fun k hk n sum => ?_⟩
  · rw [Tokens.left_before_locate] at hleft ⊢
    rw [Tokens.left_push]
    omega
  · rw [Tokens.left_before_locate, Tokens.left_push] at hk
    change Except.bind (chain (k + 4) (nested (k + 4) (levels + 3)) 1 (((((s.push
      ⟨.punctuator .leftParen, false, _⟩).push ⟨.punctuator .assign, false, _⟩).push
        ⟨.identifier "__t", false, _⟩).push ⟨.punctuator .leftParen, false, _⟩).push
          ⟨.punctuator .leftParen, true, _⟩)) _ = _
    rw [Reader.chain_shown x.escaped rfl rfl rfl rfl rfl (hread (k + 4) (by omega))]
    change Except.bind (chain (k + 4) (nested (k + 4) (levels + 3)) 1
      (t.push ⟨.string (String.ofList after), true, _⟩)) _ = _
    rw [Reader.chain_string hnext]
    rfl

end Shown

namespace Run

/-- The code of the values of a run is read with so many levels of nesting. -/
def Reads (levels : Nat) (r : Run) : Prop :=
  ∀ x ∈ r.values, Lexer.endsInComment x.1.code = false ∧ Expr.ofText? levels x.1.code = .ok x.1.expr

variable {levels : Nat}

/-- Values in front of a text go into the sum, one after the other. -/
theorem exists_cuts_values {values : List (Shown × List Char)}
    (h : ∀ x ∈ values, Lexer.endsInComment x.1.code = false ∧
      Expr.ofText? levels x.1.code = .ok x.1.expr)
    {rest : List Char} {t : Tokens} (ht : Cuts rest t)
    (hend : t.current.token = .punctuator .semicolon) :
    ∃ s, Cuts (values.flatMap (fun x => x.1.text x.2) ++ rest) s ∧
      (s.current.token = .punctuator .plus ∨ s.current.token = .punctuator .semicolon) ∧
      2 * values.length + t.left ≤ s.left ∧ ∀ k, s.left ≤ k + 4 → ∀ n sum,
        chainRest 2 (chain (k + 4) (nested (k + 4) (levels + 3)) 1) (2 * values.length + n) sum s =
          chainRest 2 (chain (k + 4) (nested (k + 4) (levels + 3)) 1) n
            (values.foldl Shown.join sum) t := by
  induction values with
  | nil =>
    refine ⟨t, ht, Or.inr hend, ?_, fun k hk n sum => ?_⟩
    · rw [List.length_nil, Nat.mul_zero, Nat.zero_add]
    · rw [List.length_nil, Nat.mul_zero, Nat.zero_add, List.foldl_nil]
  | cons x values ih =>
    obtain ⟨hx, hvalues⟩ := List.forall_mem_cons.mp h
    obtain ⟨u, hu, hnext, hleft, hmore⟩ := ih hvalues
    obtain ⟨s, hs, hplus, hle, hvalue⟩ := Shown.exists_cuts hx.1 hx.2 x.2 hu hnext
    refine ⟨s, ?_, Or.inl hplus, ?_, fun k hk n sum => ?_⟩
    · rw [List.flatMap_cons, List.append_assoc]
      exact hs
    · rw [List.length_cons]
      omega
    · have hcount : 2 * (x :: values).length + n = 2 * values.length + n + 2 := by
        rw [List.length_cons]
        omega
      rw [hcount, hvalue k hk, hmore k (by omega), List.foldl_cons]

theorem fit_opening (r : Run) (next : Option Char) : Piece.fit r.opening next = true := by
  have hname : Piece.fit [⟨.line, .identifier "__p"⟩, ⟨.tight, .mark .plusAssign⟩]
      (some '\'') = true := rfl
  rw [opening, Piece.fit_append]
  exact Bool.and_eq_true_iff.mpr ⟨hname, rfl⟩

/-- A run in front of a line is read as the statement that appends it. -/
theorem exists_cuts {r : Run} (h : r.Reads levels) {rest : List Char} {t : Tokens}
    (ht : Cuts ('\n' :: rest) t) :
    ∃ s, Cuts (r.text ++ '\n' :: rest) s ∧ s.current.token = .identifier "__p" ∧
      s.current.newlineBefore = true ∧ t.left < s.left ∧ ∀ k, s.left ≤ k + 4 →
        Reader.statement (k + 4) (nested (k + 4) (levels + 5)) false s = .ok (r.tree, t) := by
  have hsemicolon : Piece.fit [⟨.tight, .mark .semicolon⟩] (some '\n') = true := rfl
  obtain ⟨u, hu, hnext, hleft, hvalues⟩ := exists_cuts_values h (ht.print hsemicolon) rfl
  rw [Tokens.left_before_locate, List.length_singleton] at hleft
  rw [text, tail, List.append_assoc, List.append_assoc]
  refine ⟨_, hu.print (r.fit_opening _), rfl, rfl, ?_, fun k hk => ?_⟩
  · rw [Tokens.left_before_locate]
    omega
  · rw [Tokens.left_before_locate] at hk
    obtain ⟨n, hn⟩ : ∃ n, k + 4 = 2 * r.values.length + (n + 1) :=
      ⟨k + 3 - 2 * r.values.length, by omega⟩
    have hsum := hvalues k (by omega) (n + 1) (.string (String.ofList r.lead))
    rw [← hn] at hsum
    exact Reader.statement_append hnext hsum

/-- A run in front of a line is a statement of its own. -/
theorem exists_splices {r : Run} (h : r.Reads levels) {rest : List Char} {t : Tokens}
    (ht : Cuts ('\n' :: rest) t) :
    ∃ s, Cuts (r.text ++ '\n' :: rest) s ∧ s.current.token = .identifier "__p" ∧
      s.current.newlineBefore = true ∧ t.left < s.left ∧ Splices (levels + 6) [r.tree] s t := by
  obtain ⟨s, hcuts, hname, hline, hleft, hread⟩ := exists_cuts h ht
  refine ⟨s, hcuts, hname, hline, hleft, .single ?_ ?_ hleft hread⟩
  · rw [hname]
    exact Token.noConfusion
  · rw [hname]
    exact Token.noConfusion

end Run

end Microtemplate
