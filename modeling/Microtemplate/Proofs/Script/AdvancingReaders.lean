import Microtemplate.Proofs.Script.Advancing
import Microtemplate.Script.Reader

/-!
The readers of programs advance: each goes over at least one token, or over none where nothing has to
be there, and refuses a text only at a place of one of its tokens. One lemma for each reader, from the
readers of the next level of nesting; two limits on the rounds of loops do the same if both are enough
for the tokens that are left, wherever the tokens stand.
-/

namespace Microtemplate.Script

namespace Reader

open Parse

/-- The readers of the next level go over a token at least. -/
structure NestedAdvance (P : List Char → Prop) (move : List Char → List Char) (n : Nat)
    (inner inner' : Nested) : Prop where
  statement : ∀ inLoop, Advances P move Anywhere 1 n (inner.statement inLoop) (inner'.statement inLoop)
  assignment : Advances P move Anywhere 1 n inner.assignment inner'.assignment
  unary : Advances P move Anywhere 1 n inner.unary inner'.unary

section Words

variable {P : List Char → Prop} {move : List Char → List Char} {I : Located → Prop} {n : Nat}

theorem expect_advances (p : Punctuator) : Advances P move I 1 n (expect p) (expect p) := by
  refine .located fun l hl _ => .ite Iff.rfl (fun htoken => .advance ?_) fun _ => .refuse hl
  rintro _ rfl
  exact htoken ▸ Token.noConfusion

theorem identifier_advances : Advances P move I 1 n identifier identifier := by
  refine .located fun l hl _ => ?_
  simp only [Located.token_moved]
  split
  · rename_i name htoken
    refine .followed (.advance ?_) fun _ => .pure _
    rintro _ rfl
    exact htoken ▸ Token.noConfusion
  · exact .refuse hl

theorem memberName_advances : Advances P move I 1 n memberName memberName := by
  refine .located fun l hl _ => ?_
  simp only [Located.token_moved]
  split
  · rename_i name htoken
    refine .followed (.advance ?_) fun _ => .pure _
    rintro _ rfl
    exact htoken ▸ Token.noConfusion
  · rename_i k htoken
    refine .followed (.advance ?_) fun _ => .pure _
    rintro _ rfl
    exact htoken ▸ Token.noConfusion
  · exact .refuse hl

theorem terminator_advances : Advances P move I 0 n terminator terminator := by
  refine .located fun l hl _ => .ite Iff.rfl (fun htoken => ?_) fun _ =>
    .ite Iff.rfl (fun _ => .pure _) fun _ => .refuse hl
  refine Advances.mono (.advance (n := n) ?_) (Nat.zero_le 1) (Nat.le_refl n)
  rintro _ rfl
  exact htoken ▸ Token.noConfusion

section Items

variable {α : Type} {item item' : Parse α} (h : Advances P move Anywhere 1 n item item')
  {k k' : Nat} (hk : n ≤ k) (hk' : n ≤ k')

include h hk hk'

theorem afterCommas_advances :
    Advances P move Anywhere 0 n (afterCommas item k) (afterCommas item' k') := by
  refine .ofLoop hk hk' (.pure _) fun k k' m hm ih => .ifEat Token.noConfusion ?_ (.pure _)
  refine h.bindFewer (by omega) fun _ => ?_
  exact (ih.less (by omega) (by omega)).followed fun _ => .pure _

theorem separated_advances (close : Punctuator) :
    Advances P move Anywhere 1 n (separated item close k) (separated item' close k') := by
  refine .ofLoop hk hk' .unexpected fun k k' m hm ih => .ifEat Token.noConfusion (.pure _) ?_
  refine h.bindFewer (by omega) fun _ => .ifEat Token.noConfusion ?_ ?_
  · exact (ih.less (by omega) (by omega)).followed fun _ => .pure _
  · exact (expect_advances close).bind fun _ => .pure _

end Items

end Words

section Expressions

variable {P : List Char → Prop} {move : List Char → List Char} {n limit limit' : Nat}
  {inner inner' : Nested}

theorem parameters_advances {k k' : Nat} (hk : n ≤ k) (hk' : n ≤ k') :
    Advances P move Anywhere 0 n (parameters k) (parameters k') := by
  refine .ofLoop hk hk' (.pure _) fun k k' m _ ih => .token fun t => ?_
  split
  · exact .pure _
  refine .ifEat Token.noConfusion ?_ ?_
  · exact identifier_advances.bind fun _ => .pure _
  refine identifier_advances.bind fun name => .ifEat Token.noConfusion ?_ (.pure _)
  exact ih.bindFewer (by omega) fun _ => .pure _

variable (h : NestedAdvance P move n inner inner')

include h

theorem statements_advances (inLoop : Bool) {k k' : Nat} (hk : n ≤ k) (hk' : n ≤ k') :
    Advances P move Anywhere 1 n (statements inner inLoop k) (statements inner' inLoop k') := by
  refine .ofLoop hk hk' .unexpected fun k k' m hm ih => .ifEat Token.noConfusion (.pure _) ?_
  refine .token fun t => ?_
  split
  · exact .unexpected
  refine ((h.statement inLoop).fewer hm).bind fun first => ?_
  exact ih.bindFewer (by omega) fun _ => .pure _

variable (hn : n ≤ limit) (hn' : n ≤ limit')

include hn hn'

theorem braced_advances (inLoop : Bool) :
    Advances P move Anywhere 1 n (braced limit inner inLoop) (braced limit' inner' inLoop) :=
  (expect_advances _).followed fun _ =>
    (statements_advances h inLoop hn hn').less (by omega) (Nat.le_refl n)

theorem function_advances (nameOptional : Bool) :
    Advances P move Anywhere 1 n (function limit inner nameOptional)
      (function limit' inner' nameOptional) := by
  have hbody : ∀ name : Option String, Advances P move Anywhere 1 n
      (do
        expect .leftParen
        let ps ← parameters limit
        expect .rightParen
        let body ← braced limit inner false
        return (⟨name, ps.1, ps.2, body⟩ : Function))
      (do
        expect .leftParen
        let ps ← parameters limit'
        expect .rightParen
        let body ← braced limit' inner' false
        return (⟨name, ps.1, ps.2, body⟩ : Function)) := by
    intro name
    refine (expect_advances _).followed fun _ => (parameters_advances hn hn').followed fun _ => ?_
    refine (expect_advances _).bind fun _ => ?_
    exact (braced_advances h hn hn' false).bindFewer (by omega) fun _ => .pure _
  refine .located fun l hl _ => ?_
  simp only [Located.token_moved]
  split
  · rename_i htoken
    refine .followed (.advance ?_) fun _ => .token fun t => ?_
    · rintro _ rfl
      exact htoken ▸ Token.noConfusion
    split
    · refine .bind (.advance ?_) fun _ => (hbody _).less (by omega) (by omega)
      rintro l' ⟨-, hname⟩
      exact hname ▸ Token.noConfusion
    · cases nameOptional with
      | true => exact (hbody none).less (by omega) (by omega)
      | false =>
        exact Advances.unexpected.followed fun name => (hbody name).less (by omega) (by omega)
  · exact .refuse hl

omit hn hn' in
theorem commaRest_advances {k k' : Nat} (hk : n ≤ k) (hk' : n ≤ k') :
    Advances P move Anywhere 0 n (commaRest inner k) (commaRest inner' k') := by
  rw [commaRest_eq_afterCommas, commaRest_eq_afterCommas]
  exact afterCommas_advances h.assignment hk hk'

theorem expression_advances :
    Advances P move Anywhere 1 n (expression limit inner) (expression limit' inner') := by
  refine h.assignment.followed fun first => (commaRest_advances h hn hn').followed fun more => ?_
  split <;> exact .pure _

omit hn hn' in
theorem list_advances (close : Punctuator) {k k' : Nat} (hk : n ≤ k) (hk' : n ≤ k') :
    Advances P move Anywhere 1 n (list inner close k) (list inner' close k') := by
  rw [list_eq_separated, list_eq_separated]
  exact separated_advances h.assignment hk hk' close

omit hn hn' in
theorem property_advances :
    Advances P move Anywhere 1 n (property inner) (property inner') := by
  refine .located fun l hl _ => ?_
  have hrest : ∀ key : String × Bool, l.token ≠ .endOfInput → Advances P move (· = l) 1 n
      (do
        advance
        if ← eatPunctuator .colon then return (key.1, ← inner.assignment)
        else if key.2 then return (key.1, Expr.identifier key.1)
        else refuse .missingColon l)
      (do
        advance
        if ← eatPunctuator .colon then return (key.1, ← inner'.assignment)
        else if key.2 then return (key.1, Expr.identifier key.1)
        else refuse .missingColon (l.moved move)) := by
    rintro ⟨key, shorthand⟩ hend
    refine .followed (.advance fun l' hl' => hl' ▸ hend) fun _ => .ifEat Token.noConfusion ?_ ?_
    · exact (h.assignment.less (by omega) (by omega)).followed fun _ => .pure _
    · cases shorthand with
      | true => exact .pure _
      | false => exact .refuse hl
  simp only [Located.token_moved, propertyName]
  split
  · rename_i htoken
    exact hrest (_, true) (htoken ▸ Token.noConfusion)
  · rename_i htoken
    exact hrest (_, false) (htoken ▸ Token.noConfusion)
  · rename_i htoken
    exact hrest (_, false) (htoken ▸ Token.noConfusion)
  · rename_i htoken
    exact hrest (_, false) (htoken ▸ Token.noConfusion)
  · exact .refuse_bind hl

omit hn hn' in
theorem properties_advances {k k' : Nat} (hk : n ≤ k) (hk' : n ≤ k') :
    Advances P move Anywhere 1 n (properties inner k) (properties inner' k') := by
  rw [properties_eq_separated, properties_eq_separated]
  exact separated_advances (property_advances h) hk hk' _

theorem primary_advances :
    Advances P move Anywhere 1 n (primary limit inner) (primary limit' inner') := by
  have hover : ∀ t, t ≠ .endOfInput →
      Advances P move (fun l => Anywhere l ∧ l.token = t) 1 n advance advance :=
    fun t hend => .advance fun l hl => hl.2 ▸ hend
  refine .token fun t => ?_
  split
  · exact (hover _ Token.noConfusion).followed fun _ => .pure _
  · exact (hover _ Token.noConfusion).followed fun _ => .pure _
  · exact (hover _ Token.noConfusion).followed fun _ => .pure _
  · exact (hover _ Token.noConfusion).followed fun _ => .pure _
  · exact (hover _ Token.noConfusion).followed fun _ => .pure _
  · exact (hover _ Token.noConfusion).followed fun _ => .pure _
  · exact ((function_advances h hn hn' true).followed fun _ => .pure _).less (by omega) (by omega)
  · refine (hover _ Token.noConfusion).followed fun _ => ?_
    refine (expression_advances h hn hn').bind fun e => ?_
    exact (expect_advances _).bind fun _ => .pure _
  · refine (hover _ Token.noConfusion).followed fun _ => ?_
    exact (list_advances h _ hn hn').bind fun _ => .pure _
  · refine (hover _ Token.noConfusion).followed fun _ => ?_
    exact (properties_advances h hn hn').bind fun _ => .pure _
  · exact .unexpected

theorem suffixes_advances {k k' m : Nat} (hm : m ≤ n) (hk : m ≤ k) (hk' : m ≤ k') (e : Expr) :
    Advances P move Anywhere 0 m (suffixes limit inner k e) (suffixes limit' inner' k' e) := by
  refine .ofRounds (fun e => .pure e) (fun k k' m e hm ih => ?_) hm hk hk' e
  refine .ifEat Token.noConfusion ?_ (.ifEat Token.noConfusion ?_ (.ifEat Token.noConfusion ?_ (.pure _)))
  · exact memberName_advances.bind fun _ => (ih _).less (by omega) (by omega)
  · refine (expression_advances h hn hn').bindFewer (by omega) fun key => ?_
    exact (expect_advances _).bind fun _ => (ih _).less (by omega) (by omega)
  · exact (list_advances h _ hn hn').bindFewer (by omega) fun _ => (ih _).less (by omega) (by omega)

theorem postfixed_advances :
    Advances P move Anywhere 1 n (postfixed limit inner) (postfixed limit' inner') := by
  refine .located fun start hstart _ => ?_
  refine ((primary_advances h hn hn').fewer (by omega)).followed fun e => ?_
  refine (suffixes_advances h hn hn' (Nat.le_refl n) hn hn' e).followed fun e => ?_
  refine .located fun l _ _ => ?_
  simp only [Located.token_moved]
  split
  · rename_i op hop
    refine .ite Iff.rfl (fun _ => .pure _) fun _ => ?_
    split
    · refine .bind (.advance ?_) fun _ => .pure _
      rintro _ rfl hend
      rw [hend] at hop
      cases hop
    · exact .refuse hstart
  · exact .pure _

theorem unary_advances : Advances P move Anywhere 1 n (unary limit inner) (unary limit' inner') := by
  refine .located fun start hstart _ => ?_
  simp only [Located.token_moved]
  split
  · rename_i op hop
    refine .followed (.advance ?_) fun _ => h.unary.bind fun _ => .pure _
    rintro _ rfl hend
    rw [hend] at hop
    cases hop
  · split
    · rename_i op hop
      refine .followed (.advance ?_) fun _ => h.unary.bind fun target => ?_
      · rintro _ rfl hend
        rw [hend] at hop
        cases hop
      · split
        · exact .pure _
        · exact .refuse hstart
    · exact (postfixed_advances h hn hn').fewer (by omega)

omit hn hn' h in
theorem chainRest_advances {operand operand' : Parse Expr}
    (h : Advances P move Anywhere 1 n operand operand') (looseness : Nat) {k k' m : Nat} (hm : m ≤ n)
    (hk : m ≤ k) (hk' : m ≤ k') (left : Expr) : Advances P move Anywhere 0 m
      (chainRest looseness operand k left) (chainRest looseness operand' k' left) := by
  refine .ofRounds (fun e => .pure e) (fun k k' m e hm ih => .token fun t => ?_) hm hk hk' left
  split
  · rename_i o ho
    refine .bind (.advance ?_) fun _ => h.bindFewer (by omega) fun right => ?_
    · rintro l ⟨-, htoken⟩ hend
      rw [← htoken, hend] at ho
      cases ho
    · exact (ih _).less (by omega) (by omega)
  · exact .pure _

theorem chain_advances (looseness : Nat) :
    Advances P move Anywhere 1 n (chain limit inner looseness) (chain limit' inner' looseness) := by
  induction looseness with
  | zero => exact unary_advances h hn hn'
  | succ looseness ih =>
    exact ih.followed fun left => chainRest_advances ih _ (Nat.le_refl n) hn hn' left

theorem conditional_advances :
    Advances P move Anywhere 1 n (conditional limit inner) (conditional limit' inner') := by
  refine (chain_advances h hn hn' _).followed fun test => .ifEat Token.noConfusion ?_ (.pure _)
  refine h.assignment.bindFewer (by omega) fun consequent => (expect_advances _).bind fun _ => ?_
  exact h.assignment.bindFewer (by omega) fun _ => .pure _

theorem assignment_advances :
    Advances P move Anywhere 1 n (assignment limit inner) (assignment limit' inner') := by
  refine .located fun start hstart _ => ?_
  refine ((conditional_advances h hn hn').fewer (by omega)).followed fun target => ?_
  refine .token fun t => ?_
  split
  · rename_i op hop
    split
    · refine .bind (.advance ?_) fun _ => h.assignment.bindFewer (by omega) fun _ => .pure _
      rintro l ⟨-, htoken⟩ hend
      rw [← htoken, hend] at hop
      cases hop
    · exact .refuse hstart
  · exact .pure _

end Expressions

section Statements

variable {P : List Char → Prop} {move : List Char → List Char} {n limit limit' : Nat}
  {inner inner' : Nested}
  (h : NestedAdvance P move n inner inner')

include h

theorem initial_advances : Advances P move Anywhere 0 n (initial inner) (initial inner') := by
  refine .ifEat Token.noConfusion ?_ (.pure _)
  exact (h.assignment.less (by omega) (by omega)).followed fun _ => .pure _

theorem declaratorOf_advances (kind : DeclarationKind) {l : Located} (hl : P l.text) (name : String) :
    Advances P move Anywhere 0 n (declaratorOf inner kind l name)
      (declaratorOf inner' kind (l.moved move) name) := by
  refine (initial_advances h).followed fun value => ?_
  split
  · exact .refuse hl
  · exact .pure _

theorem declarator_advances (kind : DeclarationKind) :
    Advances P move Anywhere 1 n (declarator inner kind) (declarator inner' kind) :=
  .located fun _ hl _ => identifier_advances.followed fun name => declaratorOf_advances h kind hl name

theorem declaratorsRest_advances (kind : DeclarationKind) {k k' : Nat} (hk : n ≤ k) (hk' : n ≤ k') :
    Advances P move Anywhere 0 n (declaratorsRest inner kind k) (declaratorsRest inner' kind k') := by
  rw [declaratorsRest_eq_afterCommas, declaratorsRest_eq_afterCommas]
  exact afterCommas_advances (declarator_advances h kind) hk hk'

variable (hn : n ≤ limit) (hn' : n ≤ limit')

include hn hn'

theorem declarators_advances (kind : DeclarationKind) :
    Advances P move Anywhere 1 n (declarators limit inner kind) (declarators limit' inner' kind) := by
  rw [declarators_eq, declarators_eq]
  refine (declarator_advances h kind).followed fun d => ?_
  exact (declaratorsRest_advances h kind hn hn').followed fun _ => .pure _

theorem parenthesized_advances :
    Advances P move Anywhere 1 n (parenthesized limit inner) (parenthesized limit' inner') :=
  (expect_advances _).followed fun _ => (expression_advances h hn hn').bind fun _ =>
    (expect_advances _).bind fun _ => .pure _

theorem eachTail_advances (binding : LoopBinding) :
    Advances P move Anywhere 0 n (eachTail limit inner binding) (eachTail limit' inner' binding) := by
  have hbody := h.statement true
  refine .token fun t => ?_
  split
  · rename_i ht
    refine .bind (.advance (ht ▸ fun l hl => hl.2 ▸ Token.noConfusion)) fun _ => ?_
    refine h.assignment.bindFewer (by omega) fun iterable => (expect_advances _).bind fun _ => ?_
    exact hbody.bindFewer (by omega) fun _ => .pure _
  · split
    · rename_i ht
      refine .bind (.advance (ht ▸ fun l hl => hl.2 ▸ Token.noConfusion)) fun _ => ?_
      refine (expression_advances h hn hn').bindFewer (by omega) fun object => ?_
      refine (expect_advances _).bind fun _ => ?_
      exact hbody.bindFewer (by omega) fun _ => .pure _
    · exact .pure none

theorem expressionBefore_advances (p : Punctuator) : Advances P move Anywhere 0 n
    (expressionBefore limit inner p) (expressionBefore limit' inner' p) := by
  refine .token fun t => ?_
  split
  · exact .pure none
  · exact (expression_advances h hn hn').bindFewer (by omega) fun _ => .pure _

theorem loopTail_advances (first : Option Stmt) :
    Advances P move Anywhere 1 n (loopTail limit inner first) (loopTail limit' inner' first) := by
  refine (expect_advances _).followed fun _ => ?_
  refine (expressionBefore_advances h hn hn' _).followed fun test => ?_
  refine (expect_advances _).bind fun _ => ?_
  refine (expressionBefore_advances h hn hn' _).bindFewer (by omega) fun update => ?_
  refine (expect_advances _).bind fun _ => ?_
  exact (h.statement true).bindFewer (by omega) fun _ => .pure _

theorem loop_advances : Advances P move Anywhere 1 n (loop limit inner) (loop limit' inner') := by
  have htail := fun first => loopTail_advances h hn hn' first
  refine (expect_advances _).followed fun _ => .token fun t => ?_
  split
  · rename_i kind hkind
    refine .bind (.advance ?_) fun _ => identifier_advances.bind fun name => ?_
    · rintro l ⟨-, htoken⟩ hend
      rw [← htoken, hend] at hkind
      cases hkind
    refine (eachTail_advances h hn hn' _).bindFewer (by omega) fun found => ?_
    split
    · exact .pure _
    · refine .located fun l hl _ => ?_
      refine (declaratorOf_advances h kind hl name).bindFewer (by omega) fun d => ?_
      refine (declaratorsRest_advances h kind hn hn').bindFewer (by omega) fun more => ?_
      exact (htail _).less (by omega) (by omega)
  · split
    · exact (htail _).less (by omega) (by omega)
    · refine (expression_advances h hn hn').bindFewer (by omega) fun e => ?_
      split
      · refine (eachTail_advances h hn hn' _).bindFewer (by omega) fun found => ?_
        split
        · exact .pure _
        · exact (htail _).less (by omega) (by omega)
      · exact (htail _).less (by omega) (by omega)

theorem branch_advances (inLoop : Bool) :
    Advances P move Anywhere 1 n (branch limit inner inLoop) (branch limit' inner' inLoop) := by
  refine (parenthesized_advances h hn hn').followed fun test => ?_
  refine (h.statement inLoop).bindFewer (by omega) fun consequent => ?_
  refine .ifEat Token.noConfusion ?_ (.pure _)
  exact (h.statement inLoop).bindFewer (by omega) fun _ => .pure _

omit h hn hn' in
theorem loopWord_advances (inLoop : Bool) {start : Located} (hstart : P start.text) (outside : Cause)
    (s : Stmt) : Advances P move Anywhere 0 n (loopWord inLoop start outside s)
      (loopWord inLoop (start.moved move) outside s) := by
  unfold loopWord
  split
  · exact terminator_advances.bind fun _ => .pure _
  · exact .refuse hstart

theorem returned_advances :
    Advances P move Anywhere 0 n (returned limit inner) (returned limit' inner') := by
  have hend : ∀ value : Option Expr, Advances P move Anywhere 0 n
      (do terminator; return Stmt.returning value) (do terminator; return Stmt.returning value) :=
    fun value => terminator_advances.bind fun _ => .pure _
  refine .located fun l _ _ => ?_
  refine .ite Iff.rfl (fun _ => (Advances.pure none).bind hend) fun _ => ?_
  have hvalue : Advances P move (· = l) 0 n (some <$> expression limit inner)
      (some <$> expression limit' inner') :=
    ((expression_advances h hn hn').less (by omega) (by omega)).followed fun _ => .pure _
  exact hvalue.followed hend

theorem expressionStatement_advances : Advances P move Anywhere 1 n (expressionStatement limit inner)
    (expressionStatement limit' inner') :=
  (expression_advances h hn hn').followed fun _ => terminator_advances.bind fun _ => .pure _

theorem keywordStatement_advances (inLoop : Bool) {start : Located} (hstart : P start.text)
    (k : Keyword) (hk : start.token = .keyword k) :
    Advances P move (· = start) 1 n (keywordStatement limit inner inLoop start k)
      (keywordStatement limit' inner' inLoop (start.moved move) k) := by
  have hover : Advances P move (· = start) 1 n advance advance :=
    .advance fun l hl => hl ▸ hk ▸ Token.noConfusion
  have hparens := parenthesized_advances h hn hn'
  unfold keywordStatement
  split
  · exact ((function_advances h hn hn' false).fewer (by omega)).followed fun _ => .pure _
  · exact hover.followed fun _ => (branch_advances h hn hn' inLoop).less (by omega) (by omega)
  · exact hover.followed fun _ => (loop_advances h hn hn').less (by omega) (by omega)
  · exact hover.followed fun _ => hparens.bind fun test =>
      (h.statement true).bindFewer (by omega) fun _ => .pure _
  · exact hover.followed fun _ => loopWord_advances inLoop hstart _ _
  · exact hover.followed fun _ => loopWord_advances inLoop hstart _ _
  · exact hover.followed fun _ => returned_advances h hn hn'
  · exact hover.followed fun _ => hparens.bind fun object =>
      (h.statement inLoop).bindFewer (by omega) fun _ => .pure _
  · exact (expressionStatement_advances h hn hn').fewer (by omega)

theorem statement_advances (inLoop : Bool) :
    Advances P move Anywhere 1 n (statement limit inner inLoop) (statement limit' inner' inLoop) := by
  refine .located fun start hstart _ => ?_
  simp only [Located.token_moved]
  split
  · rename_i kind hkind
    refine .followed (.advance ?_) fun _ => (declarators_advances h hn hn' kind).bind fun ds => ?_
    · rintro _ rfl hend
      rw [hend] at hkind
      cases hkind
    exact terminator_advances.bind fun _ => .pure _
  · split
    · exact ((braced_advances h hn hn' inLoop).fewer (by omega)).followed fun _ => .pure _
    · rename_i htoken
      exact .followed (.advance fun l hl => hl ▸ htoken ▸ Token.noConfusion) fun _ => .pure _
    · rename_i k hk
      exact keywordStatement_advances h hn hn' inLoop hstart k hk
    · exact (expressionStatement_advances h hn hn').fewer (by omega)

omit h in
/-- The readers of every level of nesting advance. -/
theorem nested_advance (levels : Nat) :
    NestedAdvance P move n (nested limit levels) (nested limit' levels) := by
  induction levels with
  | zero =>
    exact ⟨fun _ => .located fun l hl _ => .refuse hl, .located fun l hl _ => .refuse hl,
      .located fun l hl _ => .refuse hl⟩
  | succ levels ih =>
    exact ⟨statement_advances ih hn hn', assignment_advances ih hn hn', unary_advances ih hn hn'⟩

omit h in
theorem program_advances : Advances P move Anywhere 1 n (program limit) (program limit') := by
  refine (function_advances (nested_advance hn hn' nestingLimit) hn hn' true).followed fun f => ?_
  refine .token fun t => ?_
  split
  · exact .pure _
  · exact .unexpected

end Statements

end Reader

end Microtemplate.Script
