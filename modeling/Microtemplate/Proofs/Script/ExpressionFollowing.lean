import Microtemplate.Proofs.Script.Following
import Microtemplate.Script.Reader.Expression

/-!
The readers of functions and expressions in a text that goes on. Each follows from those of the next
level of nesting. An operand, a chain and an assignment may stop where the text ends if the token that
follows does not go on with them; what stands in brackets or braces stops at the closing one, which is
still in the text, whatever follows.
-/

namespace Microtemplate.Script

/-- After an operand, a token with which no property and no call of it starts. -/
structure Token.EndsSuffixes (t : Token) : Prop where
  dot : t ≠ .punctuator .dot
  bracket : t ≠ .punctuator .leftBracket
  paren : t ≠ .punctuator .leftParen

/-- After an operand, a token that goes on with no operand. -/
structure Token.EndsOperand (t : Token) : Prop extends EndsSuffixes t where
  update : UpdateOp.ofToken? t = none

/-- After an operand, a token that goes on with no chain of operators. -/
structure Token.EndsChain (t : Token) : Prop extends EndsOperand t where
  infixes : ∀ looseness, Reader.infixAt? looseness t = none

/-- After an operand, a token that goes on with no assignment and no choice. -/
structure Token.EndsAssignment (t : Token) : Prop extends EndsChain t where
  question : t ≠ .punctuator .question
  assignment : assignmentOfToken? t = none

namespace Token.Separate

variable {k : Token} (h : k.Separate)

include h

theorem ne_punctuator {p : Punctuator} (hp : p ≠ .rightParen) : k ≠ .punctuator p := by
  rcases h with rfl | ⟨name, rfl, -⟩
  · rintro ⟨⟩
    exact hp rfl
  · exact Token.noConfusion

theorem endsAssignment : k.EndsAssignment where
  dot := h.ne_punctuator (by decide)
  bracket := h.ne_punctuator (by decide)
  paren := h.ne_punctuator (by decide)
  update := by rcases h with rfl | ⟨name, rfl, -⟩ <;> rfl
  infixes looseness := by rcases h with rfl | ⟨name, rfl, -⟩ <;> rfl
  question := h.ne_punctuator (by decide)
  assignment := by rcases h with rfl | ⟨name, rfl, -⟩ <;> rfl

end Token.Separate

namespace Reader

open Parse

/-- The readers of the next level take the same from a text and from the longer text. -/
structure NestedFollow (t : Tokens) (n : Nat) (inner inner' : Nested) : Prop where
  statement : ∀ (inLoop : Bool) (atEnd : Prop),
    (atEnd → t.current.token.Separate ∧ endsStatement t.current = true) →
      Leads t atEnd n (inner.statement inLoop) (inner'.statement inLoop)
  assignment : ∀ atEnd : Prop, (atEnd → t.current.token.EndsAssignment) →
    Leads t atEnd n inner.assignment inner'.assignment
  unary : ∀ atEnd : Prop, (atEnd → t.current.token.EndsOperand) →
    Leads t atEnd n inner.unary inner'.unary

theorem NestedFollow.mono {t : Tokens} {m n : Nat} {inner inner' : Nested}
    (h : NestedFollow t n inner inner') (hm : m ≤ n) : NestedFollow t m inner inner' where
  statement inLoop atEnd ht := (h.statement inLoop atEnd ht).mono hm
  assignment atEnd ht := (h.assignment atEnd ht).mono hm
  unary atEnd ht := (h.unary atEnd ht).mono hm

section Words

variable {t : Tokens} {atEnd : Prop} {n : Nat}

theorem leads_expect (p : Punctuator) : Leads t atEnd n (expect p) (expect p) := by
  refine .ofLocated (fun r hr => by cases hr) fun l l' htoken hend => ?_
  rw [htoken]
  split
  · exact steps_advance
  · exact (Leads.refuse _ _).toSteps

theorem leads_identifier : Leads t atEnd n identifier identifier := by
  refine .ofLocated (fun r hr => by cases hr) fun l l' htoken hend => ?_
  rw [htoken]
  split
  · exact steps_advance.bind fun _ => .pure _
  · exact (Leads.refuse _ _).toSteps

theorem leads_memberName : Leads t atEnd n memberName memberName := by
  refine .ofLocated (fun r hr => by cases hr) fun l l' htoken hend => ?_
  rw [htoken]
  split
  · exact steps_advance.bind fun _ => .pure _
  · exact steps_advance.bind fun _ => .pure _
  · exact (Leads.refuse _ _).toSteps

end Words

variable {t : Tokens} {atEnd : Prop} {n limit limit' : Nat} {inner inner' : Nested}

/-- Parameters do not stop where the text ends. -/
theorem parameters_follows {k k' : Nat} (hk : n ≤ k) (hk' : n ≤ k') :
    Follows t False n (parameters k) (parameters k') := by
  refine .ofLoop hk hk' (.pure _) fun k k' m _ ih => ?_
  refine .ofRefused (fun r hr => by cases hr) fun j hend => Or.inr ?_
  split
  · exact .pure _
  refine .ifEat Token.noConfusion False.elim ?_ ?_
  · exact leads_identifier.follows.bind fun _ => .pure _
  refine leads_identifier.follows.bind fun name => ?_
  refine .ifEat Token.noConfusion False.elim ?_ (.pure _)
  exact ih.bind fun _ => .pure _

theorem statements_leads (h : NestedFollow t n inner inner') (inLoop : Bool) {k k' : Nat}
    (hk : n ≤ k) (hk' : n ≤ k') :
    Leads t atEnd n (statements inner inLoop k) (statements inner' inLoop k') := by
  refine .ofLoop hk hk' .unexpected fun k k' m hm ih => ?_
  refine .ifEat Token.noConfusion (.pure _) ?_
  refine .ofToken (fun r hr => by cases hr) fun j hend => ?_
  rw [if_neg hend, if_neg hend]
  refine (((h.statement inLoop False False.elim).mono hm).bindLeads fun first => ?_).toSteps
  exact ih.bind fun _ => .pure _

theorem braced_leads (h : NestedFollow t n inner inner') (inLoop : Bool) (hk : n ≤ limit)
    (hk' : n ≤ limit') : Leads t atEnd n (braced limit inner inLoop) (braced limit' inner' inLoop) :=
  (leads_expect _).bind fun _ =>
    ((statements_leads h inLoop hk hk').mono (Nat.sub_le n 1)).follows

theorem function_leads (h : NestedFollow t n inner inner') (nameOptional : Bool) (hk : n ≤ limit)
    (hk' : n ≤ limit') :
    Leads t atEnd n (function limit inner nameOptional) (function limit' inner' nameOptional) := by
  have hbody : ∀ name : Option String, Leads t atEnd (n - 1)
      (do
        expect .leftParen
        let ps ← parameters limit
        expect .rightParen
        let body ← braced limit inner false
        return (⟨name, ps.1, ps.2, body⟩ : Function))
      (do
        expect .leftParen
        let ps ← parameters limit'
        expect .rightParen
        let body ← braced limit' inner' false
        return (⟨name, ps.1, ps.2, body⟩ : Function)) := by
    intro name
    refine (leads_expect _).bind fun _ => ?_
    refine (parameters_follows (by omega) (by omega)).bindLeads fun _ => ?_
    refine (leads_expect _).bind fun _ => ?_
    exact ((braced_leads h false hk hk').mono (by omega)).follows.bind fun _ => .pure _
  refine .ofLocated (fun r hr => by cases hr) fun l l' htoken hend => ?_
  rw [htoken]
  split
  · refine steps_advance.bind fun _ => ?_
    refine .ofRefused ?_ fun j hend => ?_
    · cases nameOptional with
      | true => exact (hbody none).refuses
      | false => exact fun r hr => by cases hr
    · split
      · exact Or.inl (steps_advance.bind fun _ => ((hbody _).mono (Nat.sub_le _ 1)).follows)
      · cases nameOptional with
        | true => exact Or.inr (hbody none).follows
        | false =>
          exact Or.inr (Leads.unexpected.bind fun name =>
            ((hbody name).mono (Nat.sub_le _ 1)).follows).follows
  · exact (Leads.refuse _ _).toSteps

section Items

variable {α : Type} {item item' : Parse α} {k k' : Nat}

theorem afterCommas_follows (ht : atEnd → t.current.token ≠ .punctuator .comma)
    (h : Leads t atEnd n item item') (hk : n ≤ k) (hk' : n ≤ k') :
    Follows t atEnd n (afterCommas item k) (afterCommas item' k') := by
  refine .ofLoop hk hk' (.pure _) fun k k' m hm ih => .ifEat Token.noConfusion ht ?_ (.pure _)
  exact (h.mono (by omega)).follows.bind fun _ => ih.bind fun _ => .pure _

theorem separated_leads (close : Punctuator) (h : Leads t False n item item') (hk : n ≤ k)
    (hk' : n ≤ k') : Leads t atEnd n (separated item close k) (separated item' close k') := by
  refine .ofLoop hk hk' .unexpected fun k k' m hm ih => .ifEat Token.noConfusion (.pure _) ?_
  refine (h.mono hm).bindLeads fun _ => .ifEat Token.noConfusion ?_ ?_
  · exact (ih.follows.mono (Nat.sub_le _ 1)).bind fun _ => .pure _
  · exact (leads_expect close).bind fun _ => .pure _

end Items

theorem commaRest_follows (ht : atEnd → t.current.token.Separate) (h : NestedFollow t n inner inner')
    {k k' : Nat} (hk : n ≤ k) (hk' : n ≤ k') :
    Follows t atEnd n (commaRest inner k) (commaRest inner' k') := by
  rw [commaRest_eq_afterCommas, commaRest_eq_afterCommas]
  have hitem := h.assignment atEnd fun he => (ht he).endsAssignment
  exact afterCommas_follows (fun he => (ht he).ne_punctuator (by decide)) hitem hk hk'

theorem expression_leads (ht : atEnd → t.current.token.Separate) (h : NestedFollow t n inner inner')
    (hn : n ≤ limit) (hn' : n ≤ limit') :
    Leads t atEnd n (expression limit inner) (expression limit' inner') := by
  refine (h.assignment atEnd fun he => (ht he).endsAssignment).bind fun first => ?_
  refine (commaRest_follows ht (h.mono (Nat.sub_le n 1)) (by omega) (by omega)).bind fun more => ?_
  split <;> exact .pure _

/-- An expression up to a closing punctuator. -/
theorem enclosed_follows {α : Type} {f f' : Expr → Parse α} (h : NestedFollow t n inner inner')
    (hn : n ≤ limit) (hn' : n ≤ limit') (hmore : ∀ e, Leads t atEnd n (f e) (f' e)) :
    Follows t atEnd n (expression limit inner >>= f) (expression limit' inner' >>= f') :=
  (expression_leads False.elim h hn hn').follows.bindLeads hmore

theorem list_leads (h : NestedFollow t n inner inner') (close : Punctuator) {k k' : Nat}
    (hk : n ≤ k) (hk' : n ≤ k') : Leads t atEnd n (list inner close k) (list inner' close k') := by
  rw [list_eq_separated, list_eq_separated]
  exact separated_leads close (h.assignment False False.elim) hk hk'

/-- A property does not stop where the text ends. -/
theorem property_leads (h : NestedFollow t n inner inner') :
    Leads t False n (property inner) (property inner') := by
  refine .ofLocated (fun r hr => by cases hr) fun l l' htoken hend => ?_
  have hrest : ∀ key : String × Bool, Steps t False n
      (do
        advance
        if ← eatPunctuator .colon then return (key.1, ← inner.assignment)
        else if key.2 then return (key.1, Expr.identifier key.1)
        else refuse .missingColon l)
      (do
        advance
        if ← eatPunctuator .colon then return (key.1, ← inner'.assignment)
        else if key.2 then return (key.1, Expr.identifier key.1)
        else refuse .missingColon l') := by
    rintro ⟨key, shorthand⟩
    refine steps_advance.bind fun _ => ?_
    refine .ifEat Token.noConfusion False.elim ?_ ?_
    · exact ((h.assignment False False.elim).mono (by omega)).follows.bind fun _ => .pure _
    · cases shorthand with
      | true => exact .pure _
      | false => exact .refuse _ _
  unfold propertyName
  rw [htoken]
  split
  · exact hrest (_, true)
  · exact hrest (_, false)
  · exact hrest (_, false)
  · exact hrest (_, false)
  · exact .refuse_bind _ _ _

theorem properties_leads (h : NestedFollow t n inner inner') {k k' : Nat} (hk : n ≤ k)
    (hk' : n ≤ k') : Leads t atEnd n (properties inner k) (properties inner' k') := by
  rw [properties_eq_separated, properties_eq_separated]
  exact separated_leads _ (property_leads h) hk hk'

theorem primary_leads (h : NestedFollow t n inner inner') (hn : n ≤ limit) (hn' : n ≤ limit') :
    Leads t atEnd n (primary limit inner) (primary limit' inner') := by
  have hless := h.mono (Nat.sub_le n 1)
  refine .ofToken (fun r hr => by cases hr) fun k hend => ?_
  split
  · exact steps_advance.bind fun _ => .pure _
  · exact steps_advance.bind fun _ => .pure _
  · exact steps_advance.bind fun _ => .pure _
  · exact steps_advance.bind fun _ => .pure _
  · exact steps_advance.bind fun _ => .pure _
  · exact steps_advance.bind fun _ => .pure _
  · exact (function_leads h true hn hn').toSteps.bind fun _ => .pure _
  · refine steps_advance.bind fun _ => enclosed_follows hless (by omega) (by omega) fun e => ?_
    exact (leads_expect _).bind fun _ => .pure _
  · refine steps_advance.bind fun _ => ?_
    exact (list_leads hless _ (by omega) (by omega)).follows.bind fun _ => .pure _
  · refine steps_advance.bind fun _ => ?_
    exact (properties_leads hless (by omega) (by omega)).follows.bind fun _ => .pure _
  · exact Leads.unexpected.toSteps

theorem suffixes_follows (ht : atEnd → t.current.token.EndsSuffixes)
    (h : NestedFollow t n inner inner') (hn : n ≤ limit) (hn' : n ≤ limit')
    {k k' m : Nat} (hm : m ≤ n) (hk : m ≤ k) (hk' : m ≤ k') (e : Expr) :
    Follows t atEnd m (suffixes limit inner k e) (suffixes limit' inner' k' e) := by
  refine .ofRounds (fun e => .pure e) (fun k k' m e hm ih => ?_) hm hk hk' e
  have hless := h.mono (Nat.le_trans (Nat.sub_le m 1) hm)
  refine .ifEat Token.noConfusion (fun he => (ht he).dot) ?_ ?_
  · exact leads_memberName.follows.bind fun _ => ih _
  refine .ifEat Token.noConfusion (fun he => (ht he).bracket) ?_ ?_
  · refine enclosed_follows hless (by omega) (by omega) fun key => ?_
    exact (leads_expect _).bind fun _ => (ih _).mono (Nat.sub_le _ 1)
  refine .ifEat Token.noConfusion (fun he => (ht he).paren) ?_ (.pure _)
  exact (list_leads hless _ (by omega) (by omega)).follows.bind fun _ => ih _

theorem postfixed_leads (ht : atEnd → t.current.token.EndsOperand)
    (h : NestedFollow t n inner inner') (hn : n ≤ limit) (hn' : n ≤ limit') :
    Leads t atEnd n (postfixed limit inner) (postfixed limit' inner') := by
  refine .keepLocated fun start start' => ?_
  refine (primary_leads h hn hn').bind fun e => ?_
  refine (suffixes_follows (fun he => (ht he).toEndsSuffixes) h hn hn' (Nat.sub_le n 1) (by omega)
    (by omega) e).bind fun e => ?_
  refine .ofLocated (.pure e) (fun he => ?_) fun l l' htoken hline hend => ?_
  · rw [(ht he).update]
  · rw [htoken, hline]
    split
    · split
      · exact Or.inr (.pure e)
      · split
        · exact Or.inl (steps_advance.bind fun _ => .pure _)
        · exact Or.inr (.refuse _ _)
    · exact Or.inr (.pure e)

theorem unary_leads (ht : atEnd → t.current.token.EndsOperand)
    (h : NestedFollow t n inner inner') (hn : n ≤ limit) (hn' : n ≤ limit') :
    Leads t atEnd n (unary limit inner) (unary limit' inner') := by
  have hoperand := ((h.unary atEnd ht).mono (Nat.sub_le n 1)).follows
  have hpostfixed : Leads t atEnd n (postfixed limit inner) (postfixed limit' inner') :=
    postfixed_leads ht h hn hn'
  refine .ofLocated hpostfixed.refuses fun l l' htoken hend => ?_
  rw [htoken]
  split
  · exact steps_advance.bind fun _ => hoperand.bind fun _ => .pure _
  · split
    · refine steps_advance.bind fun _ => hoperand.bind fun target => ?_
      split
      · exact .pure _
      · exact .refuse _ _
    · exact hpostfixed.toSteps

theorem chainRest_follows (ht : atEnd → t.current.token.EndsChain) {operand operand' : Parse Expr}
    (h : Leads t atEnd n operand operand')
    (looseness : Nat) {k k' m : Nat} (hm : m ≤ n) (hk : m ≤ k) (hk' : m ≤ k') (left : Expr) :
    Follows t atEnd m (chainRest looseness operand k left) (chainRest looseness operand' k' left) := by
  refine .ofRounds (fun e => .pure e) (fun k k' m e hm ih => ?_) hm hk hk' left
  refine .ofToken (.pure e) (fun he => ?_) fun j hend => ?_
  · rw [(ht he).infixes]
  · split
    · exact Or.inl (steps_advance.bind fun _ => (h.mono (by omega)).follows.bind fun _ => ih _)
    · exact Or.inr (.pure e)

theorem chain_leads (ht : atEnd → t.current.token.EndsChain) (h : NestedFollow t n inner inner')
    (hn : n ≤ limit) (hn' : n ≤ limit') (looseness : Nat) :
    Leads t atEnd n (chain limit inner looseness) (chain limit' inner' looseness) := by
  induction looseness with
  | zero => exact unary_leads (fun he => (ht he).toEndsOperand) h hn hn'
  | succ looseness ih =>
    exact ih.bind fun left =>
      chainRest_follows ht ih _ (Nat.sub_le n 1) (by omega) (by omega) left

theorem conditional_leads (ht : atEnd → t.current.token.EndsAssignment)
    (h : NestedFollow t n inner inner') (hn : n ≤ limit) (hn' : n ≤ limit') :
    Leads t atEnd n (conditional limit inner) (conditional limit' inner') := by
  have hbranch : ∀ m, m ≤ n → Leads t atEnd m inner.assignment inner'.assignment :=
    fun m hm => (h.assignment atEnd ht).mono hm
  refine (chain_leads (fun he => (ht he).toEndsChain) h hn hn' _).bind fun test => ?_
  refine .ifEat Token.noConfusion (fun he => (ht he).question) ?_ (.pure _)
  refine (hbranch _ (by omega)).follows.bind fun consequent => ?_
  refine (leads_expect _).follows.bind fun _ => ?_
  exact (hbranch _ (by omega)).follows.bind fun _ => .pure _

theorem assignment_leads (ht : atEnd → t.current.token.EndsAssignment)
    (h : NestedFollow t n inner inner') (hn : n ≤ limit) (hn' : n ≤ limit') :
    Leads t atEnd n (assignment limit inner) (assignment limit' inner') := by
  refine .keepLocated fun start start' => ?_
  refine (conditional_leads ht h hn hn').bind fun target => ?_
  refine .ofToken (.pure target) (fun he => ?_) fun j hend => ?_
  · rw [(ht he).assignment]
  · split
    · split
      · exact Or.inl (steps_advance.bind fun _ =>
          ((h.assignment atEnd ht).mono (by omega)).follows.bind fun _ => .pure _)
      · exact Or.inr (.refuse _ _)
    · exact Or.inr (.pure target)

end Reader

end Microtemplate.Script
