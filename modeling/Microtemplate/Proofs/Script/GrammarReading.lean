import Microtemplate.Proofs.Script.Grammar
import Microtemplate.Script.Reader

/-!
Every tree that is read is in the grammar: one lemma for each reader, from the readers of the next
level of nesting. A statement that ends in a choice without an `else` is never read up to an `else`,
which is what the grammar says of the consequent of a choice.
-/

namespace Microtemplate.Script

namespace Reader

open Parse Grammar

variable {known : Token → Prop} {limit : Nat} {inner : Nested} {next : Level}

/-- A statement is read that is as `Q` says, and that does not end before an `else` it could take. -/
def ReadsStatement (known : Token → Prop) (p : Parse Stmt) (Q : Stmt → Prop) : Prop :=
  Yields (·.Over known) p fun s u =>
    u.Over known ∧ Q s ∧ (s.endsOpen = true → u.current.token ≠ .keyword .elseWord)

/-- The readers of the next level read what its grammar has. -/
structure NestedReads (known : Token → Prop) (inner : Nested) (next : Level) : Prop where
  statement : ∀ inLoop, ReadsStatement known (inner.statement inLoop) (next.statement inLoop)
  assignment : Reads known inner.assignment next.assignment
  unary : Reads known inner.unary next.unary
  /-- Where an identifier may stand by itself, its name is known. -/
  identifier : ∀ name, next.assignment (.identifier name) → known (.identifier name)

theorem ReadsStatement.reads {p : Parse Stmt} {Q : Stmt → Prop} (h : ReadsStatement known p Q) :
    Reads known p Q := Yields.after h fun _ _ hu => ⟨hu.1, hu.2.1⟩

/-- A statement that does not end in a choice may stand before an `else`. -/
theorem ReadsStatement.closed {p : Parse Stmt} {Q : Stmt → Prop}
    (h : Reads known p fun s => Q s ∧ s.endsOpen = false) : ReadsStatement known p Q :=
  Yields.after h fun _ _ hu => ⟨hu.1, hu.2.1, fun hopen => absurd hopen (by simp [hu.2.2])⟩

theorem ReadsStatement.advance {p : Parse Stmt} {Q : Stmt → Prop} (h : ReadsStatement known p Q) :
    ReadsStatement known (Parse.advance >>= fun _ => p) Q :=
  Yields.advance (fun _ hs => Over.next hs) h

theorem ReadsStatement.bind {α : Type} {p : Parse α} {Q : α → Prop} {f : α → Parse Stmt}
    {R : Stmt → Prop} (h : Reads known p Q) (hmore : ∀ a, Q a → ReadsStatement known (f a) R) :
    ReadsStatement known (p >>= f) R :=
  Yields.bind h fun a => .assume (hmore a)

/-- A statement that ends as its body does. -/
theorem ReadsStatement.map {p : Parse Stmt} {Q R : Stmt → Prop} {f : Stmt → Stmt}
    (h : ReadsStatement known p Q) (hQ : ∀ s, Q s → R (f s)) (hends : ∀ s, (f s).endsOpen = s.endsOpen) :
    ReadsStatement known (do return f (← p)) R := by
  refine Yields.bind h fun s => Yields.pure fun u hu => ⟨hu.1, hQ s hu.2.1, fun hopen => ?_⟩
  rw [hends] at hopen
  exact hu.2.2 hopen

theorem parameters_reads (k : Nat) : Reads known (parameters k) fun r =>
    (∀ n ∈ r.1, known (.identifier n)) ∧ ∀ n ∈ r.2, known (.identifier n) := by
  induction k with
  | zero => exact .pure ⟨by simp, by simp⟩
  | succ k ih =>
    refine .token fun t _ => ?_
    split
    · exact .pure ⟨by simp, by simp⟩
    refine .ifEat ?_ ?_
    · exact Reads.identifier.bind fun n hn => .pure ⟨by simp, by simpa using hn⟩
    · refine Reads.identifier.bind fun n hn => .ifEat ?_ ?_
      · exact ih.bind fun r hr => .pure ⟨List.forall_mem_cons.mpr ⟨hn, hr.1⟩, hr.2⟩
      · exact .pure ⟨List.forall_mem_singleton.mpr hn, by simp⟩

section Functions

variable (h : NestedReads known inner next)

include h

theorem statements_reads (inLoop : Bool) (k : Nat) :
    Reads known (statements inner inLoop k) fun ss => ∀ s ∈ ss, next.statement inLoop s := by
  induction k with
  | zero => exact .unexpected
  | succ k ih =>
    refine .ifEat (.pure (by simp)) (.token fun t _ => ?_)
    split
    · exact .unexpected
    refine (h.statement inLoop).reads.bind fun first hfirst => ih.bind fun more hmore => .pure ?_
    exact List.forall_mem_cons.mpr ⟨hfirst, hmore⟩

theorem braced_reads (inLoop : Bool) :
    Reads known (braced limit inner inLoop) fun ss => ∀ s ∈ ss, next.statement inLoop s :=
  (Reads.expect .leftBrace).bind fun _ _ => statements_reads h inLoop limit

theorem function_reads (nameOptional : Bool) :
    Reads known (function limit inner nameOptional) (IsFunction known next nameOptional) := by
  have hafter : ∀ n : Option String, (∀ n' ∈ n, known (.identifier n')) →
      (nameOptional = false → n ≠ none) → Reads known
        (do
          expect .leftParen
          let ps ← parameters limit
          expect .rightParen
          let body ← braced limit inner false
          return (⟨n, ps.1, ps.2, body⟩ : Function))
        (IsFunction known next nameOptional) := by
    intro n hn hnamed
    refine (Reads.expect _).bind fun _ _ => (parameters_reads limit).bind fun r hr => ?_
    refine (Reads.expect _).bind fun _ _ => (braced_reads h false).bind fun body hbody => .pure ?_
    exact ⟨hn, hnamed, hr.1, hr.2, hbody⟩
  refine .located fun l _ => ?_
  split
  · refine .advance (.token fun t ht => ?_)
    dsimp only
    split
    · exact .advance (hafter (some _) (by simpa using ht) (by simp))
    · split
      · rename_i hoptional
        exact hafter none (by simp) (by simp [hoptional])
      · exact (Reads.unexpected (Q := fun _ => False)).bind fun _ hn => hn.elim
  · exact .refuse _ _

end Functions

section Expressions

variable (h : NestedReads known inner next)

include h

theorem commaRest_reads (k : Nat) :
    Reads known (commaRest inner k) fun es => ∀ e ∈ es, next.assignment e := by
  rw [commaRest_eq_afterCommas]
  exact h.assignment.afterCommas k

theorem expression_reads : Reads known (expression limit inner) (IsExpression next) := by
  refine h.assignment.bind fun first hfirst => (commaRest_reads h limit).bind fun more hmore => ?_
  split
  · exact .pure (.single hfirst)
  · rename_i hne
    cases more with
    | nil => exact (hne rfl).elim
    | cons second more => exact .pure (.sequence (List.forall_mem_cons.mpr ⟨hfirst, hmore⟩))

theorem list_reads (close : Punctuator) (k : Nat) :
    Reads known (list inner close k) fun es => ∀ e ∈ es, next.assignment e := by
  rw [list_eq_separated]
  exact h.assignment.separated close k

theorem property_reads : Reads known (property inner) fun p =>
    next.assignment p.2 ∨ (p.2 = .identifier p.1 ∧ known (.identifier p.1)) := by
  have hname : ∀ l : Located, known l.token → Reads known (propertyName l) fun r =>
      r.2 = true → known (.identifier r.1) := by
    intro l hl
    unfold propertyName
    split
    · rename_i n htoken
      rw [htoken] at hl
      exact .pure fun _ => hl
    · exact .pure Bool.noConfusion
    · exact .pure Bool.noConfusion
    · exact .pure Bool.noConfusion
    · exact .refuse _ _
  refine .located fun l hl => (hname l hl).bind fun r hr => .advance (.ifEat ?_ ?_)
  · exact h.assignment.bind fun e he => .pure (Or.inl he)
  · split
    · rename_i hshort
      exact .pure (Or.inr ⟨rfl, hr hshort⟩)
    · exact .refuse _ _

theorem properties_reads (k : Nat) : Reads known (properties inner k) fun ps => ∀ p ∈ ps,
    next.assignment p.2 ∨ (p.2 = .identifier p.1 ∧ known (.identifier p.1)) := by
  rw [properties_eq_separated]
  exact (property_reads h).separated _ k

theorem primary_reads : Reads known (primary limit inner) (IsPrimary known next) := by
  refine .token fun t ht => ?_
  split
  · exact .advance (.pure (.number ht))
  · exact .advance (.pure (.string _))
  · exact .advance (.pure (.identifier ht))
  · exact .advance (.pure (.boolean true))
  · exact .advance (.pure (.boolean false))
  · exact .advance (.pure .null)
  · exact (function_reads h true).bind fun f hf => .pure (.function hf)
  · refine .advance ((expression_reads h).bind fun e he => ?_)
    exact (Reads.expect _).bind fun _ _ => .pure (.parenthesized he)
  · exact .advance ((list_reads h _ limit).bind fun items hitems => .pure (.array hitems))
  · exact .advance ((properties_reads h limit).bind fun ps hps => .pure (.object hps))
  · exact .unexpected

omit h in
theorem memberName_reads : Reads known memberName (IsMemberName known) := by
  refine .located fun l hl => ?_
  split
  · rename_i n htoken
    rw [htoken] at hl
    exact .advance (.pure (Or.inl hl))
  · rename_i k htoken
    exact .advance (.pure (Or.inr ⟨k, rfl⟩))
  · exact .refuse _ _

theorem suffixes_reads (k : Nat) {e : Expr} (he : IsSuffixed known next e) :
    Reads known (suffixes limit inner k e) (IsSuffixed known next) := by
  induction k generalizing e with
  | zero => exact .pure he
  | succ k ih =>
    refine .ifEat (memberName_reads.bind fun name hname => ih (.member he hname)) (.ifEat ?_ (.ifEat ?_ ?_))
    · refine (expression_reads h).bind fun key hkey => ?_
      exact (Reads.expect _).bind fun _ _ => ih (.index he hkey)
    · exact (list_reads h _ limit).bind fun arguments harguments => ih (.call he harguments)
    · exact .pure he

theorem postfixed_reads : Reads known (postfixed limit inner) (IsUnary known next) := by
  refine .located fun start _ => (primary_reads h).bind fun e he => ?_
  refine (suffixes_reads h limit (.primary he)).bind fun e he => .located fun l _ => ?_
  split
  · rename_i op _
    split
    · exact .pure (.operand he)
    · split
      · rename_i ht
        exact .advance (.pure (.postfixed op he ht))
      · exact .refuse _ _
  · exact .pure (.operand he)

theorem unary_reads : Reads known (unary limit inner) (IsUnary known next) := by
  refine .located fun start _ => ?_
  split
  · rename_i op _
    exact .advance (h.unary.bind fun e he => .pure (.unary op he))
  · split
    · rename_i op _
      refine .advance (h.unary.bind fun target htarget => ?_)
      split
      · rename_i ht
        exact .pure (.update op htarget ht)
      · exact .refuse _ _
    · exact postfixed_reads h

omit h in
theorem looseness_of_infixAt? {looseness : Nat} {t : Token} {o : Infix}
    (ho : infixAt? looseness t = some o) : o.looseness = looseness := by
  unfold infixAt? at ho
  split at ho
  · simpa using (Option.filter_eq_some_iff.mp ho).2
  · cases ho

omit h in
theorem chainRest_reads {looseness : Nat} {operand : Parse Expr}
    (hoperand : Reads known operand (IsChain known next looseness)) (k : Nat) {left : Expr}
    (hleft : IsChain known next (looseness + 1) left) :
    Reads known (chainRest (looseness + 1) operand k left) (IsChain known next (looseness + 1)) := by
  induction k generalizing left with
  | zero => exact .pure hleft
  | succ k ih =>
    refine .token fun t _ => ?_
    split
    · rename_i o ho
      refine .advance (hoperand.bind fun right hright => ih ?_)
      exact .join (looseness_of_infixAt? ho) hleft hright
    · exact .pure hleft

theorem chain_reads (looseness : Nat) :
    Reads known (chain limit inner looseness) (IsChain known next looseness) := by
  induction looseness with
  | zero => exact (unary_reads h).after fun e he => .unary he
  | succ looseness ih =>
    exact ih.bind fun left hleft => chainRest_reads ih limit (.tighter hleft)

theorem conditional_reads : Reads known (conditional limit inner) (IsConditional known next) := by
  refine (chain_reads h _).bind fun test htest => .ifEat ?_ (.pure (.chain htest))
  refine h.assignment.bind fun consequent hconsequent => (Reads.expect _).bind fun _ _ => ?_
  exact h.assignment.bind fun alternate halternate =>
    .pure (.conditional htest hconsequent halternate)

theorem assignment_reads : Reads known (assignment limit inner) (IsAssignment known next) := by
  refine .located fun start _ => (conditional_reads h).bind fun target htarget => .token fun t _ => ?_
  split
  · rename_i op hop
    split
    · rename_i ht
      refine .advance (h.assignment.bind fun value hvalue => .pure ?_)
      exact .assign ⟨t, hop⟩ htarget ht hvalue
    · exact .refuse _ _
  · exact .pure (.conditional htarget)

end Expressions

section Statements

variable (h : NestedReads known inner next)

include h

theorem initial_reads : Reads known (initial inner) fun value => ∀ e ∈ value, next.assignment e :=
  .ifEat (h.assignment.bind fun e he => .pure (by simpa using he)) (.pure (by simp))

theorem declaratorOf_reads (kind : DeclarationKind) (l : Located) {n : String}
    (hn : known (.identifier n)) :
    Reads known (declaratorOf inner kind l n) (IsDeclarator known next kind) := by
  refine (initial_reads h).bind fun value hvalue => ?_
  split
  · exact .refuse _ _
  · rename_i hmissing
    refine .pure ⟨hn, hvalue, fun hkind hnone => hmissing ⟨hkind, ?_⟩⟩
    exact Option.isNone_iff_eq_none.mpr hnone

theorem declarator_reads (kind : DeclarationKind) :
    Reads known (declarator inner kind) (IsDeclarator known next kind) :=
  .located fun l _ => Reads.identifier.bind fun _ hn => declaratorOf_reads h kind l hn

theorem declaratorsRest_reads (kind : DeclarationKind) (k : Nat) :
    Reads known (declaratorsRest inner kind k) fun ds => ∀ d ∈ ds, IsDeclarator known next kind d := by
  rw [declaratorsRest_eq_afterCommas]
  exact (declarator_reads h kind).afterCommas k

theorem declarators_reads (kind : DeclarationKind) : Reads known (declarators limit inner kind)
    fun ds => ∃ d more, ds = d :: more ∧ ∀ d' ∈ d :: more, IsDeclarator known next kind d' := by
  rw [declarators_eq]
  refine (declarator_reads h kind).bind fun d hd => ?_
  refine (declaratorsRest_reads h kind limit).bind fun more hmore => .pure ?_
  exact ⟨d, more, rfl, List.forall_mem_cons.mpr ⟨hd, hmore⟩⟩

theorem parenthesized_reads : Reads known (parenthesized limit inner) (IsExpression next) := by
  refine (Reads.expect _).bind fun _ _ => (expression_reads h).bind fun e he => ?_
  exact (Reads.expect _).bind fun _ _ => .pure he

omit h in
theorem terminator_reads : Reads known terminator fun _ => True := by
  refine .located fun l _ => ?_
  split
  · exact .step
  · split
    · exact .pure trivial
    · exact .refuse _ _

/-- A loop over elements or keys, or nothing. -/
theorem eachTail_reads {binding : LoopBinding} (hname : known (.identifier binding.name)) :
    Yields (·.Over known) (eachTail limit inner binding) fun found u => u.Over known ∧ ∀ s ∈ found,
      (∀ inLoop, IsStatement known next inLoop s) ∧
        (s.endsOpen = true → u.current.token ≠ .keyword .elseWord) := by
  refine .token fun t => ?_
  split
  · refine .advance (I := (·.Over known)) (fun s hs => Over.next hs.1) ?_
    refine Yields.bind h.assignment fun iterable => .assume fun hiterable => ?_
    refine Yields.bind (Reads.expect _) fun _ => .assume fun _ => ?_
    refine Yields.bind (h.statement true) fun body => .pure fun u hu => ⟨hu.1, fun s hs => ?_⟩
    cases hs
    exact ⟨fun _ => .loopOf hname hiterable hu.2.1, hu.2.2⟩
  split
  · refine .advance (I := (·.Over known)) (fun s hs => Over.next hs.1) ?_
    refine Yields.bind (expression_reads h) fun object => .assume fun hobject => ?_
    refine Yields.bind (Reads.expect _) fun _ => .assume fun _ => ?_
    refine Yields.bind (h.statement true) fun body => .pure fun u hu => ⟨hu.1, fun s hs => ?_⟩
    cases hs
    exact ⟨fun _ => .loopIn hname hobject hu.2.1, hu.2.2⟩
  · exact .pure fun u hu => ⟨hu.1, by simp⟩

theorem expressionBefore_reads (p : Punctuator) :
    Reads known (expressionBefore limit inner p) fun value => ∀ e ∈ value, IsExpression next e := by
  refine .token fun t _ => ?_
  split
  · exact .pure (by simp)
  · exact (expression_reads h).bind fun e he => .pure (by simpa using he)

theorem loopTail_reads (inLoop : Bool) {first : Option Stmt}
    (hfirst : ∀ s ∈ first, IsInitial known next s) :
    ReadsStatement known (loopTail limit inner first) (IsStatement known next inLoop) := by
  refine .bind (Reads.expect _) fun _ _ => .bind (expressionBefore_reads h _) fun test htest => ?_
  refine .bind (Reads.expect _) fun _ _ => .bind (expressionBefore_reads h _) fun update hupdate => ?_
  exact .bind (Reads.expect _) fun _ _ =>
    (h.statement true).map (fun s hs => .loop hfirst htest hupdate hs) fun _ => rfl

/-- A loop over elements or keys, or what else there may be. -/
theorem each_reads (inLoop : Bool) (binding : LoopBinding) (hname : known (.identifier binding.name))
    {more : Parse Stmt} (hmore : ReadsStatement known more (IsStatement known next inLoop)) :
    ReadsStatement known
      (do
        match ← eachTail limit inner binding with
        | some s => return s
        | none => more)
      (IsStatement known next inLoop) := by
  refine Yields.bind (eachTail_reads h hname) fun found => ?_
  cases found with
  | some s => exact .pure fun u hu => ⟨hu.1, (hu.2 s rfl).1 inLoop, (hu.2 s rfl).2⟩
  | none => exact hmore.before fun u hu => hu.1

theorem loop_reads (inLoop : Bool) :
    ReadsStatement known (loop limit inner) (IsStatement known next inLoop) := by
  refine .bind (Reads.expect _) fun _ _ => .token fun t => ?_
  refine Yields.before (P := (·.Over known)) ?_ fun s hs => hs.1
  have hexpression : ∀ e, IsExpression next e → ReadsStatement known
      (loopTail limit inner (some (.expression e))) (IsStatement known next inLoop) :=
    fun e he => loopTail_reads h inLoop (by simpa using IsInitial.expression he)
  split
  · rename_i kind hkind
    refine .advance (I := (·.Over known)) (fun s hs => Over.next hs) ?_
    refine ReadsStatement.bind Reads.identifier fun n hn => each_reads h inLoop (.declare kind n) hn ?_
    refine .located fun l => Yields.before (P := (·.Over known)) ?_ fun s hs => hs.1
    refine ReadsStatement.bind (declaratorOf_reads h kind l hn) fun d hd => ?_
    refine .bind (declaratorsRest_reads h kind limit) fun more hmore => loopTail_reads h inLoop ?_
    simpa using IsInitial.declaration (List.forall_mem_cons.mpr ⟨hd, hmore⟩)
  · split
    · exact loopTail_reads h inLoop (by simp)
    · refine ReadsStatement.bind (expression_reads h) fun e he => ?_
      split
      · rename_i name
        obtain ⟨hname⟩ := id he
        exact each_reads h inLoop (.assign name) (h.identifier name hname) (hexpression _ he)
      · exact hexpression e he

theorem branch_reads (inLoop : Bool) :
    ReadsStatement known (branch limit inner inLoop) (IsStatement known next inLoop) := by
  refine .bind (parenthesized_reads h) fun test htest => Yields.bind (h.statement inLoop) ?_
  intro consequent s stmt u hs hp
  rw [ifEat_apply] at hp
  split at hp
  · rename_i helse
    have hclosed : consequent.endsOpen = false :=
      Bool.eq_false_iff.mpr fun hopen => hs.2.2 hopen helse
    exact Yields.advance (P := (·.Over known)) (fun _ hs => Over.next hs)
      ((h.statement inLoop).map (f := fun alternate => .branch test consequent (some alternate))
        (fun _ halternate => .choice htest hs.2.1 hclosed halternate) fun _ => rfl) s stmt u hs.1 hp
  · rename_i hnone
    cases hp
    exact ⟨hs.1, .branch htest hs.2.1, fun _ => hnone⟩

omit h in
theorem loopWord_reads (inLoop : Bool) (start : Located) (outside : Cause) {s : Stmt}
    (hs : inLoop = true → IsStatement known next inLoop s) (hclosed : s.endsOpen = false) :
    ReadsStatement known (loopWord inLoop start outside s) (IsStatement known next inLoop) := by
  unfold loopWord
  split
  · exact .closed (terminator_reads.bind fun _ _ => .pure ⟨hs ‹_›, hclosed⟩)
  · exact .refuse _ _

theorem returned_reads (inLoop : Bool) :
    ReadsStatement known (returned limit inner) (IsStatement known next inLoop) := by
  refine .closed (.located fun l _ => ?_)
  have hvalue : ∀ p : Parse (Option Expr), Reads known p (fun value => ∀ e ∈ value, IsExpression next e) →
      Reads known (do let value ← p; terminator; return Stmt.returning value)
        fun s => IsStatement known next inLoop s ∧ s.endsOpen = false :=
    fun p hp => hp.bind fun value hvalue =>
      terminator_reads.bind fun _ _ => .pure ⟨.returning hvalue, rfl⟩
  dsimp only
  split
  · exact hvalue (pure none) (.pure (by simp))
  · exact hvalue _ ((expression_reads h).bind fun e he => .pure (by simpa using he))

theorem expressionStatement_reads (inLoop : Bool) :
    ReadsStatement known (expressionStatement limit inner) (IsStatement known next inLoop) :=
  .closed <| (expression_reads h).bind fun _ he =>
    terminator_reads.bind fun _ _ => .pure ⟨.expression he, rfl⟩

theorem keywordStatement_reads (inLoop : Bool) (start : Located) (k : Keyword) :
    ReadsStatement known (keywordStatement limit inner inLoop start k)
      (IsStatement known next inLoop) := by
  unfold keywordStatement
  split
  · exact .closed ((function_reads h false).bind fun f hf => .pure ⟨.function hf, rfl⟩)
  · exact .advance (branch_reads h inLoop)
  · exact .advance (loop_reads h inLoop)
  · refine .advance (.bind (parenthesized_reads h) fun test htest => ?_)
    exact (h.statement true).map (fun _ hs => .loopWhile htest hs) fun _ => rfl
  · exact .advance (loopWord_reads inLoop start _ .breakLoop rfl)
  · exact .advance (loopWord_reads inLoop start _ .continueLoop rfl)
  · exact .advance (returned_reads h inLoop)
  · refine .advance (.bind (parenthesized_reads h) fun object hobject => ?_)
    exact (h.statement inLoop).map (fun _ hs => .within hobject hs) fun _ => rfl
  · exact expressionStatement_reads h inLoop

theorem statement_reads (inLoop : Bool) :
    ReadsStatement known (statement limit inner inLoop) (IsStatement known next inLoop) := by
  refine .located fun start => Yields.before (P := (·.Over known)) ?_ fun s hs => hs.1
  split
  · rename_i kind hkind
    refine ReadsStatement.closed (.advance ((declarators_reads h kind).bind fun ds hds => ?_))
    obtain ⟨d, more, rfl, hall⟩ := hds
    exact terminator_reads.bind fun _ _ => .pure ⟨.declaration hall, rfl⟩
  split
  · exact ReadsStatement.closed ((braced_reads h inLoop).bind fun body hbody => .pure ⟨.block hbody, rfl⟩)
  · exact ReadsStatement.closed (.advance (.pure ⟨.empty, rfl⟩))
  · exact keywordStatement_reads h inLoop start _
  · exact expressionStatement_reads h inLoop

end Statements

/-- The readers of a level read what the grammar has at it. -/
theorem nested_reads (known : Token → Prop) (limit n : Nat) :
    NestedReads known (nested limit n) (level known n) := by
  induction n with
  | zero =>
    exact ⟨fun _ => .located fun l => .refuse _ _, .located fun l _ => .refuse _ _,
      .located fun l _ => .refuse _ _, fun _ h => h.elim⟩
  | succ n ih =>
    exact ⟨statement_reads ih, assignment_reads ih, unary_reads ih, fun _ h => known_of_identifier known (n + 1) h⟩

end Reader

/-- What a program text is read as, it is read as from its tokens. -/
theorem Function.exists_of_ofText? {cs : List Char} {f : Function}
    (h : Function.ofText? cs = .ok f) : ∃ s u, Lexer.Cuts cs s ∧ Lexer.tokens cs = .ok s.toList ∧
      Reader.function (s.left + 1) (Reader.nested (s.left + 1) nestingLimit) true s = .ok (f, u) := by
  rw [Function.ofText?] at h
  cases htokens : Lexer.tokens cs with
  | error e =>
    rw [htokens] at h
    cases h
  | ok ls =>
    obtain ⟨s, hcuts, rfl⟩ := Lexer.tokens_eq_ok_iff.mp htokens
    rw [htokens] at h
    change Except.bind (Reader.program (s.left + 1) s) (fun r => Except.ok r.1) = .ok f at h
    cases hread : Reader.program (s.left + 1) s with
    | error e =>
      rw [hread] at h
      cases h
    | ok r =>
      rw [hread] at h
      cases h
      obtain ⟨f, u, hfunction, hend⟩ := Parse.bind_eq_ok.mp hread
      obtain ⟨t, v, -, hend⟩ := Parse.bind_eq_ok.mp hend
      refine ⟨s, u, hcuts, rfl, ?_⟩
      split at hend
      · cases hend
        exact hfunction
      · cases hend

/-- The tree of a program text is in the grammar, whatever is known of all its tokens. -/
theorem Function.isFunction_of_ofText? {cs : List Char} {f : Function} {ls : List Located}
    {known : Token → Prop} (h : Function.ofText? cs = .ok f) (htokens : Lexer.tokens cs = .ok ls)
    (hknown : ∀ l ∈ ls, known l.token) :
    Grammar.IsFunction known (Grammar.level known nestingLimit) true f := by
  obtain ⟨s, u, -, hs, hread⟩ := Function.exists_of_ofText? h
  rw [htokens] at hs
  cases hs
  have hover : s.Over known := by
    obtain ⟨hcurrent, hfollowing⟩ := List.forall_mem_cons.mp hknown
    exact ⟨hcurrent, hfollowing⟩
  exact (Reader.function_reads (Reader.nested_reads known _ _) true s f u hover hread).2

end Microtemplate.Script
