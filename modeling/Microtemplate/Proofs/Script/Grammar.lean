import Microtemplate.Proofs.Script.Sparing

/-!
The grammar of trees. What stands at one level of nesting is put together from what stands at the
next, so the grammar is a recursion on the number of levels that are left, and each kind of tree is
an inductive predicate over the grammar of the next level. Every tree that is read is in the grammar.
The tokens that a tree is read from matter only as far as `known` says, which holds of the
identifiers and numbers of the tree.
-/

namespace Microtemplate.Script

mutual

/-- Whether a statement ends in a choice without an `else`, so that one after it would belong to it. -/
def Stmt.endsOpen : Stmt → Bool
  | .branch _ _ alternate => endsOpenOption alternate
  | .loop _ _ _ body => body.endsOpen
  | .loopOf _ _ body => body.endsOpen
  | .loopIn _ _ body => body.endsOpen
  | .loopWhile _ body => body.endsOpen
  | .within _ body => body.endsOpen
  | _ => false

/-- Whether a choice ends in one without an `else`, by what stands after its own `else`. -/
def endsOpenOption : Option Stmt → Bool
  | none => true
  | some s => s.endsOpen

end

/-- What may stand at a level of nesting. -/
structure Level where
  /-- A statement; the flag says whether it is inside a loop of its function. -/
  statement : Bool → Stmt → Prop
  assignment : Expr → Prop
  /-- An operand with its prefix operators. -/
  unary : Expr → Prop

namespace Grammar

variable (known : Token → Prop) (inner : Level)

/-- An assignment, or at least two of them in a row. -/
inductive IsExpression : Expr → Prop
  | single {e : Expr} (h : inner.assignment e) : IsExpression e
  | sequence {first second : Expr} {more : List Expr}
      (h : ∀ e ∈ first :: second :: more, inner.assignment e) :
      IsExpression (.sequence (first :: second :: more))

/-- A function; only an expression may have no name. -/
structure IsFunction (nameOptional : Bool) (f : Function) : Prop where
  name : ∀ n ∈ f.name, known (.identifier n)
  named : nameOptional = false → f.name ≠ none
  params : ∀ n ∈ f.params, known (.identifier n)
  rest : ∀ n ∈ f.rest, known (.identifier n)
  body : ∀ s ∈ f.body, inner.statement false s

/-- A name after a point is an identifier or a keyword. -/
def IsMemberName (name : String) : Prop := known (.identifier name) ∨ ∃ k : Keyword, k.text = name

/-- Literals, identifiers, functions and what stands in brackets. -/
inductive IsPrimary : Expr → Prop
  | number {x : Float} (h : known (.number x)) : IsPrimary (.number x)
  | string (text : String) : IsPrimary (.string text)
  | boolean (b : Bool) : IsPrimary (.boolean b)
  | null : IsPrimary .null
  | identifier {name : String} (h : known (.identifier name)) : IsPrimary (.identifier name)
  | function {f : Function} (h : IsFunction known inner true f) : IsPrimary (.function f)
  | parenthesized {e : Expr} (h : IsExpression inner e) : IsPrimary e
  | array {items : List Expr} (h : ∀ e ∈ items, inner.assignment e) : IsPrimary (.array items)
  | object {properties : List (String × Expr)} (h : ∀ p ∈ properties,
      inner.assignment p.2 ∨ (p.2 = .identifier p.1 ∧ known (.identifier p.1))) :
      IsPrimary (.object properties)

/-- Properties and calls of a primary expression. -/
inductive IsSuffixed : Expr → Prop
  | primary {e : Expr} (h : IsPrimary known inner e) : IsSuffixed e
  | member {e : Expr} {name : String} (he : IsSuffixed e) (hname : IsMemberName known name) :
      IsSuffixed (.member e name)
  | index {e key : Expr} (he : IsSuffixed e) (hkey : IsExpression inner key) :
      IsSuffixed (.index e key)
  | call {e : Expr} {arguments : List Expr} (he : IsSuffixed e)
      (harguments : ∀ a ∈ arguments, inner.assignment a) : IsSuffixed (.call e arguments)

/-- An operand with its prefix operators, or with an update operator after it. -/
inductive IsUnary : Expr → Prop
  | operand {e : Expr} (h : IsSuffixed known inner e) : IsUnary e
  | postfixed {e : Expr} (op : UpdateOp) (h : IsSuffixed known inner e) (ht : e.isTarget = true) :
      IsUnary (.update op false e)
  | unary {e : Expr} (op : UnaryOp) (h : inner.unary e) : IsUnary (.unary op e)
  | update {e : Expr} (op : UpdateOp) (h : inner.unary e) (ht : e.isTarget = true) :
      IsUnary (.update op true e)

/-- Chains of operators up to a looseness. -/
inductive IsChain : Nat → Expr → Prop
  | unary {e : Expr} (h : IsUnary known inner e) : IsChain 0 e
  | tighter {looseness : Nat} {e : Expr} (h : IsChain looseness e) : IsChain (looseness + 1) e
  | join {left right : Expr} {looseness : Nat} {o : Infix} (ho : o.looseness = looseness + 1)
      (hleft : IsChain (looseness + 1) left) (hright : IsChain looseness right) :
      IsChain (looseness + 1) (o.join left right)

/-- A chain, or a choice between two assignments. -/
inductive IsConditional : Expr → Prop
  | chain {e : Expr} (h : IsChain known inner Infix.loosest e) : IsConditional e
  | conditional {test consequent alternate : Expr} (htest : IsChain known inner Infix.loosest test)
      (hconsequent : inner.assignment consequent) (halternate : inner.assignment alternate) :
      IsConditional (.conditional test consequent alternate)

/-- An assignment, or an expression without one. -/
inductive IsAssignment : Expr → Prop
  | conditional {e : Expr} (h : IsConditional known inner e) : IsAssignment e
  | assign {target value : Expr} {op : Option BinaryOp} (hop : ∃ t, assignmentOfToken? t = some op)
      (htarget : IsConditional known inner target) (ht : target.isTarget = true)
      (hvalue : inner.assignment value) : IsAssignment (.assign op target value)

/-- A declared name; a constant has an initial value. -/
structure IsDeclarator (kind : DeclarationKind) (d : Declarator) : Prop where
  name : known (.identifier d.name)
  initial : ∀ e ∈ d.initial, inner.assignment e
  constant : kind = .constant → d.initial ≠ none

/-- The first part of the head of a loop. -/
inductive IsInitial : Stmt → Prop
  | declaration {kind : DeclarationKind} {d : Declarator} {ds : List Declarator}
      (h : ∀ d' ∈ d :: ds, IsDeclarator known inner kind d') : IsInitial (.declaration kind (d :: ds))
  | expression {e : Expr} (h : IsExpression inner e) : IsInitial (.expression e)

/-- A statement. The consequent of a choice with an `else` does not take that to itself. -/
inductive IsStatement (inLoop : Bool) : Stmt → Prop
  | declaration {kind : DeclarationKind} {d : Declarator} {ds : List Declarator}
      (h : ∀ d' ∈ d :: ds, IsDeclarator known inner kind d') :
      IsStatement inLoop (.declaration kind (d :: ds))
  | function {f : Function} (h : IsFunction known inner false f) : IsStatement inLoop (.function f)
  | branch {test : Expr} {consequent : Stmt} (htest : IsExpression inner test)
      (hconsequent : inner.statement inLoop consequent) :
      IsStatement inLoop (.branch test consequent none)
  | choice {test : Expr} {consequent alternate : Stmt} (htest : IsExpression inner test)
      (hconsequent : inner.statement inLoop consequent) (hclosed : consequent.endsOpen = false)
      (halternate : inner.statement inLoop alternate) :
      IsStatement inLoop (.branch test consequent (some alternate))
  | loop {initial : Option Stmt} {test update : Option Expr} {body : Stmt}
      (hinitial : ∀ s ∈ initial, IsInitial known inner s) (htest : ∀ e ∈ test, IsExpression inner e)
      (hupdate : ∀ e ∈ update, IsExpression inner e) (hbody : inner.statement true body) :
      IsStatement inLoop (.loop initial test update body)
  | loopOf {binding : LoopBinding} {iterable : Expr} {body : Stmt}
      (hname : known (.identifier binding.name)) (hiterable : inner.assignment iterable)
      (hbody : inner.statement true body) : IsStatement inLoop (.loopOf binding iterable body)
  | loopIn {binding : LoopBinding} {object : Expr} {body : Stmt}
      (hname : known (.identifier binding.name)) (hobject : IsExpression inner object)
      (hbody : inner.statement true body) : IsStatement inLoop (.loopIn binding object body)
  | loopWhile {test : Expr} {body : Stmt} (htest : IsExpression inner test)
      (hbody : inner.statement true body) : IsStatement inLoop (.loopWhile test body)
  | breakLoop (h : inLoop = true) : IsStatement inLoop .breakLoop
  | continueLoop (h : inLoop = true) : IsStatement inLoop .continueLoop
  | returning {value : Option Expr} (h : ∀ e ∈ value, IsExpression inner e) :
      IsStatement inLoop (.returning value)
  | within {object : Expr} {body : Stmt} (hobject : IsExpression inner object)
      (hbody : inner.statement inLoop body) : IsStatement inLoop (.within object body)
  | block {body : List Stmt} (h : ∀ s ∈ body, inner.statement inLoop s) :
      IsStatement inLoop (.block body)
  | empty : IsStatement inLoop .empty
  | expression {e : Expr} (h : IsExpression inner e) : IsStatement inLoop (.expression e)

/-- The grammar with a given number of levels left. -/
def level : Nat → Level
  | 0 => ⟨fun _ _ => False, fun _ => False, fun _ => False⟩
  | n + 1 => ⟨IsStatement known (level n), IsAssignment known (level n), IsUnary known (level n)⟩

/-- Where an identifier may stand by itself, its name is known. -/
theorem known_of_identifier {name : String} (n : Nat)
    (h : (level known n).assignment (.identifier name)) : known (.identifier name) := by
  induction n with
  | zero => exact h.elim
  | succ n ih =>
    have hprimary : IsPrimary known (level known n) (.identifier name) → known (.identifier name) := by
      intro h
      cases h with
      | identifier h => exact h
      | parenthesized h =>
        cases h with
        | single h => exact ih h
    have hchain : ∀ k e, IsChain known (level known n) k e → e = .identifier name →
        known (.identifier name) := by
      intro k e h he
      induction h with
      | unary h =>
        subst he
        obtain ⟨⟨h⟩⟩ := h
        exact hprimary h
      | tighter _ ih => exact ih he
      | @join _ _ _ o => cases o <;> cases he
    obtain ⟨⟨h⟩⟩ := h
    exact hchain _ _ h rfl

end Grammar

/-- The tokens that are left are of a known kind. -/
structure Tokens.Over (known : Token → Prop) (s : Tokens) : Prop where
  current : known s.current.token
  following : ∀ l ∈ s.following, known l.token

namespace Parse

variable {α β : Type} {known : Token → Prop}

theorem Over.next {s : Tokens} (h : s.Over known) : s.next.Over known := by
  unfold Tokens.next
  cases hs : s.following with
  | nil => exact h
  | cons l ls =>
    have hall := h.following
    rw [hs] at hall
    obtain ⟨hl, hls⟩ := List.forall_mem_cons.mp hall
    exact ⟨hl, hls⟩

/-- From known tokens a reader gives results of one kind. -/
def Reads (known : Token → Prop) (p : Parse α) (Q : α → Prop) : Prop :=
  Yields (·.Over known) p fun a u => u.Over known ∧ Q a

namespace Reads

variable {p : Parse α} {Q Q' : α → Prop} {f : α → Parse β} {R : β → Prop}

theorem pure {a : α} (h : Q a) : Reads known (pure a) Q :=
  Yields.pure fun _ hs => ⟨hs, h⟩

theorem refuse (cause : Cause) (l : Located) : Reads known (refuse cause l) Q :=
  Yields.refuse cause l

theorem unexpected : Reads known unexpected Q := Yields.unexpected

theorem after (h : Reads known p Q) (hpost : ∀ a, Q a → Q' a) : Reads known p Q' :=
  Yields.after h fun a _ hu => ⟨hu.1, hpost a hu.2⟩

theorem bind (h : Reads known p Q) (hmore : ∀ a, Q a → Reads known (f a) R) :
    Reads known (p >>= f) R :=
  Yields.bind h fun a => .assume (hmore a)

theorem advance {a : Parse β} (h : Reads known a R) :
    Reads known (advance >>= fun _ => a) R :=
  Yields.advance (fun _ hs => Over.next hs) h

theorem step : Reads known Parse.advance fun _ => True := by
  intro s a u hs hp
  rw [advance_apply] at hp
  cases hp
  exact ⟨Over.next hs, trivial⟩

theorem located {g : Located → Parse β} (h : ∀ l, known l.token → Reads known (g l) R) :
    Reads known (located >>= g) R := by
  refine Yields.located fun l => ?_
  intro s b u hs hp
  obtain ⟨hs, rfl⟩ := hs
  exact h _ hs.current s b u hs hp

theorem token {g : Token → Parse β} (h : ∀ t, known t → Reads known (g t) R) :
    Reads known (token >>= g) R := by
  refine Yields.token fun t => ?_
  intro s b u hs hp
  obtain ⟨hs, rfl⟩ := hs
  exact h _ hs.current s b u hs hp

theorem ifEat {t : Token} {a b : Parse β} (ha : Reads known a R) (hb : Reads known b R) :
    Reads known (eat t >>= fun found => if found = true then a else b) R :=
  Yields.ifEat (fun _ hs _ => Over.next hs) ha hb

theorem expect (q : Punctuator) : Reads known (expect q) fun _ => True :=
  (Yields.expect fun _ hs _ => Over.next hs).after fun _ _ hu => ⟨hu, trivial⟩

theorem identifier : Reads known identifier fun n => known (.identifier n) := by
  refine Yields.identifier fun n s hs htoken => ⟨Over.next hs, ?_⟩
  have hcurrent := hs.current
  rwa [htoken] at hcurrent

theorem afterCommas (h : Reads known p Q) (k : Nat) :
    Reads known (afterCommas p k) fun as => ∀ a ∈ as, Q a :=
  Yields.afterCommas h (fun _ hs _ => Over.next hs) k

theorem separated (h : Reads known p Q) (close : Punctuator) (k : Nat) :
    Reads known (separated p close k) fun as => ∀ a ∈ as, Q a :=
  Yields.separated h (fun _ hs _ => Over.next hs) (fun _ hs _ => Over.next hs) k

end Reads

end Parse

end Microtemplate.Script
