import Microtemplate.Proofs.Script.ExpressionFollowing
import Microtemplate.Script.Reader

/-!
The readers of statements in a text that goes on. A statement may stop where the text ends if it
would end before the token that follows, as it would at the end of the input. So the readers of every
level of nesting take from a text what they take from the longer text.
-/

namespace Microtemplate.Script

namespace Reader

open Parse

variable {t : Tokens} {atEnd : Prop}
  (ht : atEnd → t.current.token.Separate ∧ endsStatement t.current = true) {n limit limit' : Nat}
  {inner inner' : Nested}

include ht

theorem initial_follows (h : NestedFollow t n inner inner') :
    Follows t atEnd n (initial inner) (initial inner') := by
  refine .ifEat Token.noConfusion (fun he => (ht he).1.ne_punctuator (by decide)) ?_ (.pure _)
  have hvalue := h.assignment atEnd fun he => (ht he).1.endsAssignment
  exact (hvalue.mono (by omega)).follows.bind fun _ => .pure _

theorem declaratorOf_follows (h : NestedFollow t n inner inner') (kind : DeclarationKind)
    (l l' : Located) (name : String) :
    Follows t atEnd n (declaratorOf inner kind l name) (declaratorOf inner' kind l' name) := by
  refine (initial_follows ht h).bind fun value => ?_
  split
  · exact .refuse _ _
  · exact .pure _

theorem declarator_leads (h : NestedFollow t n inner inner') (kind : DeclarationKind) :
    Leads t atEnd n (declarator inner kind) (declarator inner' kind) :=
  .keepLocated fun l l' => leads_identifier.bind fun name =>
    declaratorOf_follows ht (h.mono (Nat.sub_le n 1)) kind l l' name

theorem declaratorsRest_follows (h : NestedFollow t n inner inner') (kind : DeclarationKind)
    {k k' : Nat} (hk : n ≤ k) (hk' : n ≤ k') :
    Follows t atEnd n (declaratorsRest inner kind k) (declaratorsRest inner' kind k') := by
  rw [declaratorsRest_eq_afterCommas, declaratorsRest_eq_afterCommas]
  refine afterCommas_follows (fun he => ?_) (declarator_leads ht h kind) hk hk'
  exact (ht he).1.ne_punctuator (by decide)

theorem declarators_leads (h : NestedFollow t n inner inner') (kind : DeclarationKind)
    (hn : n ≤ limit) (hn' : n ≤ limit') :
    Leads t atEnd n (declarators limit inner kind) (declarators limit' inner' kind) := by
  have hless := h.mono (Nat.sub_le n 1)
  rw [declarators_eq, declarators_eq]
  refine (declarator_leads ht h kind).bind fun d => ?_
  exact (declaratorsRest_follows ht hless kind (by omega) (by omega)).bind fun _ => .pure _

omit ht in
theorem parenthesized_leads (h : NestedFollow t n inner inner') (hn : n ≤ limit)
    (hn' : n ≤ limit') :
    Leads t atEnd n (parenthesized limit inner) (parenthesized limit' inner') := by
  refine (leads_expect _).bind fun _ => ?_
  refine enclosed_follows (h.mono (Nat.sub_le n 1)) (by omega) (by omega) fun e => ?_
  exact (leads_expect _).bind fun _ => .pure _

/-- Where the text ends, a statement ends before the token that follows if that token says so. -/
theorem terminator_follows : Follows t atEnd n terminator terminator := by
  refine .ofLocated (.pure ()) (fun he => ?_) fun l l' htoken hline hend => ?_
  · rw [if_neg ((ht he).1.ne_punctuator (by decide)), if_pos (ht he).2]
  · have hsame : endsStatement l' = endsStatement l := by
      rw [endsStatement, endsStatement, htoken, hline]
    rw [htoken, hsame]
    split
    · exact Or.inl steps_advance
    · split
      · exact Or.inr (.pure ())
      · exact Or.inr (.refuse _ _)

theorem eachTail_follows (h : NestedFollow t n inner inner') (hn : n ≤ limit) (hn' : n ≤ limit')
    (binding : LoopBinding) :
    Follows t atEnd n (eachTail limit inner binding)
      (eachTail limit' inner' binding) := by
  have hless := h.mono (Nat.sub_le n 1)
  have hbody := (hless.statement true atEnd ht).follows
  refine .ofToken (.pure none) (fun he => ?_) fun k hend => ?_
  · rcases (ht he).1 with hparen | ⟨name, hname, hof⟩
    · rw [hparen]
      rfl
    · rw [hname, if_neg (fun h => hof (Token.identifier.inj h)), if_neg Token.noConfusion]
  · split
    · refine Or.inl (steps_advance.bind fun _ => ?_)
      refine (hless.assignment False False.elim).follows.bindLeads fun iterable => ?_
      exact (leads_expect _).bind fun _ => (hbody.mono (Nat.sub_le _ 1)).bind fun _ => .pure _
    · split
      · refine Or.inl (steps_advance.bind fun _ => ?_)
        refine enclosed_follows hless (by omega) (by omega) fun object => ?_
        exact (leads_expect _).bind fun _ => (hbody.mono (Nat.sub_le _ 1)).bind fun _ => .pure _
      · exact Or.inr (.pure none)

theorem expressionBefore_follows (h : NestedFollow t n inner inner') (hn : n ≤ limit)
    (hn' : n ≤ limit') (p : Punctuator) :
    Follows t atEnd n (expressionBefore limit inner p) (expressionBefore limit' inner' p) := by
  have hexpression : Leads t atEnd n (do return some (← expression limit inner))
      (do return some (← expression limit' inner')) :=
    (expression_leads (fun he => (ht he).1) h hn hn').bind fun _ => .pure _
  refine .ofRefused hexpression.refuses fun k hend => Or.inr ?_
  split
  · exact .pure none
  · exact hexpression.follows

theorem loopTail_leads (h : NestedFollow t n inner inner') (hn : n ≤ limit) (hn' : n ≤ limit')
    (first : Option Stmt) :
    Leads t atEnd n (loopTail limit inner first)
      (loopTail limit' inner' first) := by
  have hless := h.mono (Nat.sub_le n 1)
  refine (leads_expect _).bind fun _ => ?_
  refine (expressionBefore_follows ht hless (by omega) (by omega) _).bind fun test => ?_
  refine (leads_expect _).follows.bind fun _ => ?_
  refine (expressionBefore_follows ht hless (by omega) (by omega) _).bind fun update => ?_
  refine (leads_expect _).follows.bind fun _ => ?_
  exact (hless.statement true atEnd ht).follows.bind fun _ => .pure _

/-- The head of a loop that starts with an expression. -/
theorem loopExpression_leads (h : NestedFollow t n inner inner') (hn : n ≤ limit)
    (hn' : n ≤ limit') : Leads t atEnd n
      (do
        let e ← expression limit inner
        match e with
        | .identifier name =>
          match ← eachTail limit inner (.assign name) with
          | some s => return s
          | none => loopTail limit inner (some (.expression e))
        | _ => loopTail limit inner (some (.expression e)))
      (do
        let e ← expression limit' inner'
        match e with
        | .identifier name =>
          match ← eachTail limit' inner' (.assign name) with
          | some s => return s
          | none => loopTail limit' inner' (some (.expression e))
        | _ => loopTail limit' inner' (some (.expression e))) := by
  have htail : ∀ first, Follows t atEnd (n - 1)
      (loopTail limit inner first) (loopTail limit' inner' first) :=
    fun first => (loopTail_leads ht (h.mono (by omega)) (by omega) (by omega) first).follows
  refine (expression_leads (fun he => (ht he).1) h (by omega) (by omega)).bind fun e => ?_
  split
  · refine (eachTail_follows ht (h.mono (by omega)) (by omega) (by omega) _).bind fun found => ?_
    split
    · exact .pure _
    · exact htail _
  · exact htail _

theorem loop_leads (h : NestedFollow t n inner inner') (hn : n ≤ limit) (hn' : n ≤ limit') :
    Leads t atEnd n (loop limit inner) (loop limit' inner') := by
  have hless := h.mono (Nat.sub_le n 1)
  have htail : ∀ m, m ≤ n → ∀ first, Leads t atEnd m
      (loopTail limit inner first) (loopTail limit' inner' first) :=
    fun m hm first => loopTail_leads ht (h.mono hm) (by omega) (by omega) first
  have hexpression := loopExpression_leads ht hless (Nat.le_trans (Nat.sub_le n 1) hn)
    (Nat.le_trans (Nat.sub_le n 1) hn')
  refine (leads_expect _).bind fun _ => ?_
  refine .ofRefused hexpression.refuses fun k hend => ?_
  split
  · rename_i kind _
    refine Or.inl (steps_advance.bind fun _ => ?_)
    refine leads_identifier.follows.bind fun name => ?_
    refine (eachTail_follows ht (h.mono (by omega)) (by omega) (by omega) _).bind fun found => ?_
    split
    · exact .pure _
    · refine .keepLocated fun l l' => ?_
      refine (declaratorOf_follows ht (h.mono (by omega)) kind l l' name).bind fun d => ?_
      refine (declaratorsRest_follows ht (h.mono (by omega)) kind (by omega) (by omega)).bind
        fun more => ?_
      exact (htail _ (by omega) _).follows
  · split
    · exact Or.inr (htail _ (by omega) _).follows
    · exact Or.inr hexpression.follows

theorem branch_leads (h : NestedFollow t n inner inner') (hn : n ≤ limit) (hn' : n ≤ limit')
    (inLoop : Bool) :
    Leads t atEnd n (branch limit inner inLoop)
      (branch limit' inner' inLoop) := by
  have hbody : ∀ m, m ≤ n → Follows t atEnd m (inner.statement inLoop)
      (inner'.statement inLoop) := fun m hm => ((h.statement inLoop atEnd ht).mono hm).follows
  have helse : atEnd → t.current.token ≠ .keyword .elseWord := by
    intro he
    rcases (ht he).1 with hparen | ⟨name, hname, -⟩
    · rw [hparen]
      exact Token.noConfusion
    · rw [hname]
      exact Token.noConfusion
  refine (parenthesized_leads h hn hn').bind fun test => ?_
  refine (hbody _ (by omega)).bind fun consequent => ?_
  refine .ifEat Token.noConfusion helse ?_ (.pure _)
  exact (hbody _ (by omega)).bind fun _ => .pure _

theorem loopWord_follows (inLoop : Bool) (start start' : Located) (outside : Cause) (s : Stmt) :
    Follows t atEnd n (loopWord inLoop start outside s)
      (loopWord inLoop start' outside s) := by
  unfold loopWord
  split
  · exact (terminator_follows ht).bind fun _ => .pure _
  · exact .refuse _ _

theorem returned_follows (h : NestedFollow t n inner inner') (hn : n ≤ limit) (hn' : n ≤ limit') :
    Follows t atEnd n (returned limit inner) (returned limit' inner') := by
  have hend : ∀ value : Option Expr, Follows t atEnd n
      (do terminator; return Stmt.returning value) (do terminator; return Stmt.returning value) :=
    fun value => (terminator_follows ht).bind fun _ => .pure _
  have hvalue : Follows t atEnd n (some <$> expression limit inner)
      (some <$> expression limit' inner') :=
    (expression_leads (fun he => (ht he).1) h hn hn').follows.bind fun _ => .pure _
  refine .ofLocated ((Follows.pure none).bind hend) (fun he => ?_)
    fun l l' htoken hline hinput => Or.inr ?_
  · rw [(ht he).2, Bool.true_or]
    rfl
  · have hsame : endsStatement l' = endsStatement l := by
      rw [endsStatement, endsStatement, htoken, hline]
    rw [htoken, hsame]
    split
    · exact (Follows.pure none).bind hend
    · exact hvalue.bind hend

theorem expressionStatement_leads (h : NestedFollow t n inner inner') (hn : n ≤ limit)
    (hn' : n ≤ limit') :
    Leads t atEnd n (expressionStatement limit inner)
      (expressionStatement limit' inner') :=
  (expression_leads (fun he => (ht he).1) h hn hn').bind fun _ =>
    (terminator_follows ht).bind fun _ => .pure _

theorem keywordStatement_steps (h : NestedFollow t n inner inner') (hn : n ≤ limit)
    (hn' : n ≤ limit') (inLoop : Bool) (start start' : Located) (k : Keyword) :
    Steps t atEnd n (keywordStatement limit inner inLoop start k)
      (keywordStatement limit' inner' inLoop start' k) := by
  have hless := h.mono (Nat.sub_le n 1)
  have hparens : Follows t atEnd (n - 1) (parenthesized limit inner)
      (parenthesized limit' inner') :=
    (parenthesized_leads hless (by omega) (by omega)).follows
  unfold keywordStatement
  split
  · exact ((function_leads h false hn hn').bind fun _ => .pure _).toSteps
  · exact steps_advance.bind fun _ => (branch_leads ht hless (by omega) (by omega) inLoop).follows
  · exact steps_advance.bind fun _ => (loop_leads ht hless (by omega) (by omega)).follows
  · exact steps_advance.bind fun _ => hparens.bind fun test =>
      (hless.statement true atEnd ht).follows.bind fun _ => .pure _
  · exact steps_advance.bind fun _ => loopWord_follows ht inLoop start start' _ _
  · exact steps_advance.bind fun _ => loopWord_follows ht inLoop start start' _ _
  · exact steps_advance.bind fun _ => returned_follows ht hless (by omega) (by omega)
  · exact steps_advance.bind fun _ => hparens.bind fun object =>
      (hless.statement inLoop atEnd ht).follows.bind fun _ => .pure _
  · exact (expressionStatement_leads ht h hn hn').toSteps

theorem statement_leads (h : NestedFollow t n inner inner') (hn : n ≤ limit) (hn' : n ≤ limit')
    (inLoop : Bool) :
    Leads t atEnd n (statement limit inner inLoop)
      (statement limit' inner' inLoop) := by
  have hless := h.mono (Nat.sub_le n 1)
  refine .ofLocated (expressionStatement_leads ht h hn hn').refuses fun l l' htoken hend => ?_
  rw [htoken]
  split
  · refine steps_advance.bind fun _ => ?_
    refine (declarators_leads ht hless _ (by omega) (by omega)).follows.bind fun ds => ?_
    exact (terminator_follows ht).bind fun _ => .pure _
  · split
    · exact ((braced_leads h inLoop hn hn').bind fun _ => .pure _).toSteps
    · exact steps_advance.bind fun _ => .pure _
    · exact keywordStatement_steps ht h hn hn' inLoop l l' _
    · exact (expressionStatement_leads ht h hn hn').toSteps

omit ht in
/-- The readers of every level of nesting take from a text what they take from the longer text. -/
theorem nested_follow (hn : n ≤ limit) (hn' : n ≤ limit') (levels : Nat) :
    NestedFollow t n (nested limit levels) (nested limit' levels) := by
  induction levels with
  | zero =>
    exact ⟨fun _ _ _ => .keepLocated fun l l' => .refuse _ _,
      fun _ _ => .keepLocated fun l l' => .refuse _ _, fun _ _ => .keepLocated fun l l' => .refuse _ _⟩
  | succ levels ih =>
    exact ⟨fun inLoop _ ht => statement_leads ht ih hn hn' inLoop,
      fun _ ht => assignment_leads ht ih hn hn', fun _ ht => unary_leads ht ih hn hn'⟩

end Reader

end Microtemplate.Script
