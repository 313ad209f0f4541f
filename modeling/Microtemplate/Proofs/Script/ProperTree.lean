import Microtemplate.Proofs.Script.GrammarReading

/-!
Proper trees: what holds of every tree that is read, whatever the levels of nesting are. A tree is
proper if what is assigned to can be assigned to, constants have values, a loop is left and gone on
with only inside one of the same function, function statements have names, and no choice takes the
`else` of one around it.
-/

namespace Microtemplate.Script

open Grammar

/-- Whether a statement may be the first part of the head of a loop. -/
def Stmt.isInitial : Stmt → Bool
  | .declaration _ _ => true
  | .expression _ => true
  | _ => false

section Trees

variable (known : Token → Prop)

mutual

/-- A proper expression over known identifiers and numbers. -/
inductive Expr.Proper : Expr → Prop
  | number {x : Float} (h : known (.number x)) : Expr.Proper (.number x)
  | string (t : String) : Expr.Proper (.string t)
  | boolean (b : Bool) : Expr.Proper (.boolean b)
  | null : Expr.Proper .null
  | array {items : List Expr} (h : ∀ e ∈ items, Expr.Proper e) : Expr.Proper (.array items)
  | object {properties : List (String × Expr)} (h : ∀ p ∈ properties, Expr.Proper p.2) :
      Expr.Proper (.object properties)
  | function {f : Function} (h : FunctionOf.Proper f) : Expr.Proper (.function f)
  | identifier {name : String} (h : known (.identifier name)) : Expr.Proper (.identifier name)
  | member {owner : Expr} {name : String} (howner : Expr.Proper owner)
      (hname : IsMemberName known name) : Expr.Proper (.member owner name)
  | index {owner key : Expr} (howner : Expr.Proper owner) (hkey : Expr.Proper key) :
      Expr.Proper (.index owner key)
  | call {callee : Expr} {arguments : List Expr} (hcallee : Expr.Proper callee)
      (harguments : ∀ a ∈ arguments, Expr.Proper a) : Expr.Proper (.call callee arguments)
  | unary (op : UnaryOp) {e : Expr} (h : Expr.Proper e) : Expr.Proper (.unary op e)
  | update (op : UpdateOp) (first : Bool) {target : Expr} (ht : target.isTarget = true)
      (h : Expr.Proper target) : Expr.Proper (.update op first target)
  | join (o : Infix) {left right : Expr} (hleft : Expr.Proper left) (hright : Expr.Proper right) :
      Expr.Proper (o.join left right)
  | conditional {test consequent alternate : Expr} (htest : Expr.Proper test)
      (hconsequent : Expr.Proper consequent) (halternate : Expr.Proper alternate) :
      Expr.Proper (.conditional test consequent alternate)
  | assign {op : Option BinaryOp} {target value : Expr} (hop : ∃ t, assignmentOfToken? t = some op)
      (ht : target.isTarget = true) (htarget : Expr.Proper target) (hvalue : Expr.Proper value) :
      Expr.Proper (.assign op target value)
  | sequence {first second : Expr} {more : List Expr}
      (h : ∀ e ∈ first :: second :: more, Expr.Proper e) :
      Expr.Proper (.sequence (first :: second :: more))

/-- A proper statement; the flag says whether it is inside a loop of its function. -/
inductive Stmt.Proper : Bool → Stmt → Prop
  | declaration {inLoop : Bool} {kind : DeclarationKind} {d : Declarator} {ds : List Declarator}
      (hname : ∀ d' ∈ d :: ds, known (.identifier d'.name))
      (hinitial : ∀ d' ∈ d :: ds, ∀ e ∈ d'.initial, Expr.Proper e)
      (hconstant : ∀ d' ∈ d :: ds, kind = .constant → d'.initial ≠ none) :
      Stmt.Proper inLoop (.declaration kind (d :: ds))
  | function {inLoop : Bool} {f : Function} (h : FunctionOf.Proper f) (hname : f.name ≠ none) :
      Stmt.Proper inLoop (.function f)
  | branch {inLoop : Bool} {test : Expr} {consequent : Stmt} (htest : Expr.Proper test)
      (hconsequent : Stmt.Proper inLoop consequent) :
      Stmt.Proper inLoop (.branch test consequent none)
  | choice {inLoop : Bool} {test : Expr} {consequent alternate : Stmt} (htest : Expr.Proper test)
      (hconsequent : Stmt.Proper inLoop consequent) (hclosed : consequent.endsOpen = false)
      (halternate : Stmt.Proper inLoop alternate) :
      Stmt.Proper inLoop (.branch test consequent (some alternate))
  | loop {inLoop : Bool} {initial : Option Stmt} {test update : Option Expr} {body : Stmt}
      (hhead : ∀ s ∈ initial, s.isInitial = true) (hinitial : ∀ s ∈ initial, Stmt.Proper false s)
      (htest : ∀ e ∈ test, Expr.Proper e) (hupdate : ∀ e ∈ update, Expr.Proper e)
      (hbody : Stmt.Proper true body) : Stmt.Proper inLoop (.loop initial test update body)
  | loopOf {inLoop : Bool} {binding : LoopBinding} {iterable : Expr} {body : Stmt}
      (hname : known (.identifier binding.name)) (hiterable : Expr.Proper iterable)
      (hbody : Stmt.Proper true body) : Stmt.Proper inLoop (.loopOf binding iterable body)
  | loopIn {inLoop : Bool} {binding : LoopBinding} {object : Expr} {body : Stmt}
      (hname : known (.identifier binding.name)) (hobject : Expr.Proper object)
      (hbody : Stmt.Proper true body) : Stmt.Proper inLoop (.loopIn binding object body)
  | loopWhile {inLoop : Bool} {test : Expr} {body : Stmt} (htest : Expr.Proper test)
      (hbody : Stmt.Proper true body) : Stmt.Proper inLoop (.loopWhile test body)
  | breakLoop : Stmt.Proper true .breakLoop
  | continueLoop : Stmt.Proper true .continueLoop
  | returning {inLoop : Bool} {value : Option Expr} (h : ∀ e ∈ value, Expr.Proper e) :
      Stmt.Proper inLoop (.returning value)
  | within {inLoop : Bool} {object : Expr} {body : Stmt} (hobject : Expr.Proper object)
      (hbody : Stmt.Proper inLoop body) : Stmt.Proper inLoop (.within object body)
  | block {inLoop : Bool} {body : List Stmt} (h : ∀ s ∈ body, Stmt.Proper inLoop s) :
      Stmt.Proper inLoop (.block body)
  | empty {inLoop : Bool} : Stmt.Proper inLoop .empty
  | expression {inLoop : Bool} {e : Expr} (h : Expr.Proper e) : Stmt.Proper inLoop (.expression e)

/-- A proper function. Its body is outside all loops around the function. -/
inductive FunctionOf.Proper : Function → Prop
  | mk {f : Function} (hname : ∀ n ∈ f.name, known (.identifier n))
      (hparams : ∀ n ∈ f.params, known (.identifier n)) (hrest : ∀ n ∈ f.rest, known (.identifier n))
      (hbody : ∀ s ∈ f.body, Stmt.Proper false s) : FunctionOf.Proper f

end

end Trees

/-- A proper sequence has at least two items. -/
theorem Expr.Proper.exists_of_sequence {known : Token → Prop} {items : List Expr}
    (h : (Expr.sequence items).Proper known) :
    ∃ first second more, items = first :: second :: more ∧ ∀ e ∈ items, e.Proper known := by
  generalize hsequence : Expr.sequence items = e at h
  cases h with
  | sequence h =>
    cases hsequence
    exact ⟨_, _, _, rfl, h⟩
  | join o => cases o <;> cases hsequence
  | _ => cases hsequence

theorem Stmt.Proper.exists_of_declaration {known : Token → Prop} {inLoop : Bool}
    {kind : DeclarationKind} {ds : List Declarator}
    (h : (Stmt.declaration kind ds).Proper known inLoop) : ∃ d more, ds = d :: more ∧
      (∀ d' ∈ d :: more, ∀ e ∈ d'.initial, e.Proper known) ∧
        ∀ d' ∈ d :: more, kind = .constant → d'.initial ≠ none := by
  cases h with
  | declaration _ hinitial hconstant => exact ⟨_, _, rfl, hinitial, hconstant⟩

theorem Stmt.Proper.of_expression {known : Token → Prop} {inLoop : Bool} {e : Expr}
    (h : (Stmt.expression e).Proper known inLoop) : e.Proper known := by
  cases h with
  | expression h => exact h

namespace Grammar

/-- All that may stand at a level of nesting is proper. -/
structure AllProper (known : Token → Prop) (next : Level) : Prop where
  assignment : ∀ e, next.assignment e → e.Proper known
  unary : ∀ e, next.unary e → e.Proper known
  statement : ∀ inLoop s, next.statement inLoop s → s.Proper known inLoop

variable {known : Token → Prop} {inner : Level} (h : AllProper known inner)

include h

theorem IsExpression.proper {e : Expr} (he : IsExpression inner e) : e.Proper known := by
  cases he with
  | single he => exact h.assignment _ he
  | sequence hes => exact .sequence fun e he => h.assignment e (hes e he)

theorem IsFunction.proper {nameOptional : Bool} {f : Function}
    (hf : IsFunction known inner nameOptional f) : f.Proper known :=
  .mk hf.name hf.params hf.rest fun s hs => h.statement false s (hf.body s hs)

theorem IsPrimary.proper {e : Expr} (he : IsPrimary known inner e) : e.Proper known := by
  cases he with
  | number hx => exact .number hx
  | string t => exact .string t
  | boolean b => exact .boolean b
  | null => exact .null
  | identifier hname => exact .identifier hname
  | function hf => exact .function (hf.proper h)
  | parenthesized he => exact he.proper h
  | array hitems => exact .array fun e he => h.assignment e (hitems e he)
  | object hproperties =>
    refine .object fun p hp => ?_
    obtain hvalue | ⟨hvalue, hname⟩ := hproperties p hp
    · exact h.assignment _ hvalue
    · rw [hvalue]
      exact .identifier hname

theorem IsSuffixed.proper {e : Expr} (he : IsSuffixed known inner e) : e.Proper known := by
  induction he with
  | primary he => exact he.proper h
  | member _ hname ih => exact .member ih hname
  | index _ hkey ih => exact .index ih (hkey.proper h)
  | call _ harguments ih => exact .call ih fun a ha => h.assignment a (harguments a ha)

theorem IsUnary.proper {e : Expr} (he : IsUnary known inner e) : e.Proper known := by
  cases he with
  | operand he => exact he.proper h
  | postfixed op he ht => exact .update op false ht (he.proper h)
  | unary op he => exact .unary op (h.unary _ he)
  | update op he ht => exact .update op true ht (h.unary _ he)

theorem IsChain.proper {looseness : Nat} {e : Expr} (he : IsChain known inner looseness e) :
    e.Proper known := by
  induction he with
  | unary he => exact he.proper h
  | tighter _ ih => exact ih
  | @join _ _ _ o _ _ _ ihleft ihright => exact .join o ihleft ihright

theorem IsConditional.proper {e : Expr} (he : IsConditional known inner e) : e.Proper known := by
  cases he with
  | chain he => exact he.proper h
  | conditional htest hconsequent halternate =>
    exact .conditional (htest.proper h) (h.assignment _ hconsequent) (h.assignment _ halternate)

theorem IsAssignment.proper {e : Expr} (he : IsAssignment known inner e) : e.Proper known := by
  cases he with
  | conditional he => exact he.proper h
  | assign hop htarget ht hvalue => exact .assign hop ht (htarget.proper h) (h.assignment _ hvalue)

theorem declarators_proper {inLoop : Bool} {kind : DeclarationKind} {d : Declarator}
    {ds : List Declarator} (hds : ∀ d' ∈ d :: ds, IsDeclarator known inner kind d') :
    (Stmt.declaration kind (d :: ds)).Proper known inLoop :=
  .declaration (fun d' hd' => (hds d' hd').name)
    (fun d' hd' e he => h.assignment e ((hds d' hd').initial e he)) fun d' hd' => (hds d' hd').constant

theorem IsInitial.proper {s : Stmt} (hs : IsInitial known inner s) :
    s.isInitial = true ∧ s.Proper known false := by
  cases hs with
  | declaration hds => exact ⟨rfl, declarators_proper h hds⟩
  | expression he => exact ⟨rfl, .expression (he.proper h)⟩

theorem IsStatement.proper {inLoop : Bool} {s : Stmt} (hs : IsStatement known inner inLoop s) :
    s.Proper known inLoop := by
  cases hs with
  | declaration hds => exact declarators_proper h hds
  | function hf => exact .function (hf.proper h) (hf.named rfl)
  | branch htest hconsequent => exact .branch (htest.proper h) (h.statement _ _ hconsequent)
  | choice htest hconsequent hclosed halternate =>
    exact .choice (htest.proper h) (h.statement _ _ hconsequent) hclosed (h.statement _ _ halternate)
  | loop hinitial htest hupdate hbody =>
    exact .loop (fun s hs => ((hinitial s hs).proper h).1) (fun s hs => ((hinitial s hs).proper h).2)
      (fun e he => (htest e he).proper h) (fun e he => (hupdate e he).proper h) (h.statement _ _ hbody)
  | loopOf hname hiterable hbody =>
    exact .loopOf hname (h.assignment _ hiterable) (h.statement _ _ hbody)
  | loopIn hname hobject hbody => exact .loopIn hname (hobject.proper h) (h.statement _ _ hbody)
  | loopWhile htest hbody => exact .loopWhile (htest.proper h) (h.statement _ _ hbody)
  | breakLoop hloop =>
    rw [hloop]
    exact .breakLoop
  | continueLoop hloop =>
    rw [hloop]
    exact .continueLoop
  | returning hvalue => exact .returning fun e he => (hvalue e he).proper h
  | within hobject hbody => exact .within (hobject.proper h) (h.statement _ _ hbody)
  | block hbody => exact .block fun s hs => h.statement _ s (hbody s hs)
  | empty => exact .empty
  | expression he => exact .expression (he.proper h)

omit h in
theorem level_proper (known : Token → Prop) (n : Nat) : AllProper known (level known n) := by
  induction n with
  | zero => exact ⟨fun _ h => h.elim, fun _ h => h.elim, fun _ _ h => h.elim⟩
  | succ n ih =>
    exact ⟨fun _ he => he.proper ih, fun _ he => he.proper ih, fun _ _ hs => hs.proper ih⟩

end Grammar

/-- The tree of a program text is proper, whatever is known of all its tokens. -/
theorem Function.proper_of_ofText? {cs : List Char} {f : Function} {ls : List Located}
    {known : Token → Prop} (h : Function.ofText? cs = .ok f) (htokens : Lexer.tokens cs = .ok ls)
    (hknown : ∀ l ∈ ls, known l.token) : f.Proper known :=
  (isFunction_of_ofText? h htokens hknown).proper (level_proper known nestingLimit)

end Microtemplate.Script
