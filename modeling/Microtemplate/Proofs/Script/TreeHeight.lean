import Microtemplate.Proofs.Script.GrammarReading

/-!
The height of trees. The limit on nesting bounds it as far as what the loops of the readers build
does not count: each further operand of a chain and each property or call makes the tree before it the
child of a new one, without another level of nesting. A link of that kind is given a weight of its
own.
-/

namespace Microtemplate.Script

section Height

variable (link : Nat)

mutual

/-- The height of an expression, where the links to a left operand of an infix operator and to what a
property or a call is of have a given weight, and all others weigh one. -/
def Expr.height : Expr → Nat
  | .array items => heightList items + 1
  | .object properties => heightProperties properties + 1
  | .function f => f.height
  | .member owner _ => owner.height + link
  | .index owner key => max (owner.height + link) (key.height + 1)
  | .call callee arguments => max (callee.height + link) (heightList arguments + 1)
  | .unary _ operand => operand.height + 1
  | .update _ _ target => target.height + 1
  | .binary _ left right => max (left.height + link) (right.height + 1)
  | .logical _ left right => max (left.height + link) (right.height + 1)
  | .conditional test consequent alternate =>
    max test.height (max consequent.height alternate.height) + 1
  | .assign _ target value => max target.height value.height + 1
  | .sequence items => heightList items + 1
  | _ => 1

def heightList : List Expr → Nat
  | [] => 0
  | e :: es => max e.height (heightList es)

def heightProperties : List (String × Expr) → Nat
  | [] => 0
  | (_, e) :: ps => max e.height (heightProperties ps)

def heightOption : Option Expr → Nat
  | none => 0
  | some e => e.height

def heightDeclarators : List (DeclaratorOf Expr) → Nat
  | [] => 0
  | ⟨_, value⟩ :: ds => max (heightOption value) (heightDeclarators ds)

/-- The height of a statement. -/
def Stmt.height : Stmt → Nat
  | .declaration _ ds => heightDeclarators ds + 1
  | .function f => f.height
  | .branch test consequent alternate =>
    max test.height (max consequent.height (heightAlternate alternate)) + 1
  | .loop initial test update body =>
    max (heightAlternate initial) (max (heightOption test) (max (heightOption update) body.height)) + 1
  | .loopOf _ iterable body => max iterable.height body.height + 1
  | .loopIn _ object body => max object.height body.height + 1
  | .loopWhile test body => max test.height body.height + 1
  | .returning value => heightOption value + 1
  | .within object body => max object.height body.height + 1
  | .block body => heightBody body + 1
  | .expression e => e.height + 1
  | _ => 1

def heightAlternate : Option Stmt → Nat
  | none => 0
  | some s => s.height

def heightBody : List Stmt → Nat
  | [] => 0
  | s :: ss => max s.height (heightBody ss)

/-- The height of a function. -/
def FunctionOf.height : FunctionOf Stmt → Nat
  | ⟨_, _, _, body⟩ => heightBody body + 1

end

end Height

mutual

/-- How many statements around each other are gone through for the names that a statement declares
function-wide. -/
def Stmt.hoistDepth : Stmt → Nat
  | .branch _ consequent alternate => max consequent.hoistDepth (hoistDepthOption alternate) + 1
  | .loop initial _ _ body => max (hoistDepthOption initial) body.hoistDepth + 1
  | .loopOf _ _ body => body.hoistDepth + 1
  | .loopIn _ _ body => body.hoistDepth + 1
  | .loopWhile _ body => body.hoistDepth + 1
  | .within _ body => body.hoistDepth + 1
  | .block body => hoistDepthList body + 1
  | _ => 1

def hoistDepthOption : Option Stmt → Nat
  | none => 0
  | some s => s.hoistDepth

def hoistDepthList : List Stmt → Nat
  | [] => 0
  | s :: ss => max s.hoistDepth (hoistDepthList ss)

end

theorem FunctionOf.height_eq (link : Nat) (f : Function) :
    f.height link = heightBody link f.body + 1 := by
  cases f
  simp only [FunctionOf.height]

mutual

/-- The statements that are gone through for declared names stand inside each other in the tree, so
that the height bounds how many there are. -/
theorem Stmt.hoistDepth_le_height (link : Nat) : (s : Stmt) → s.hoistDepth ≤ s.height link
  | .branch _ consequent alternate => by
    have hconsequent := consequent.hoistDepth_le_height link
    have halternate := hoistDepthOption_le_height link alternate
    simp only [Stmt.hoistDepth, Stmt.height]
    omega
  | .loop initial _ _ body => by
    have hinitial := hoistDepthOption_le_height link initial
    have hbody := body.hoistDepth_le_height link
    simp only [Stmt.hoistDepth, Stmt.height]
    omega
  | .loopOf _ _ body | .loopIn _ _ body | .loopWhile _ body | .within _ body => by
    have hbody := body.hoistDepth_le_height link
    simp only [Stmt.hoistDepth, Stmt.height]
    omega
  | .block body => Nat.succ_le_succ (hoistDepthList_le_height link body)
  | .function f => by
    rw [Stmt.height, FunctionOf.height_eq]
    exact Nat.succ_pos _
  | .declaration .. | .returning _ | .expression _ => Nat.succ_pos _
  | .breakLoop | .continueLoop | .empty => Nat.le_refl _

theorem hoistDepthOption_le_height (link : Nat) :
    (s : Option Stmt) → hoistDepthOption s ≤ heightAlternate link s
  | none => Nat.le_refl _
  | some s => s.hoistDepth_le_height link

theorem hoistDepthList_le_height (link : Nat) :
    (ss : List Stmt) → hoistDepthList ss ≤ heightBody link ss
  | [] => Nat.le_refl _
  | s :: ss => by
    have hfirst := s.hoistDepth_le_height link
    have hmore := hoistDepthList_le_height link ss
    simp only [hoistDepthList, heightBody]
    omega

end

section Bounds

variable {link bound : Nat}

theorem heightList_le_iff {es : List Expr} :
    heightList link es ≤ bound ↔ ∀ e ∈ es, e.height link ≤ bound := by
  induction es with
  | nil => simp [heightList]
  | cons e es ih => rw [heightList, Nat.max_le, ih, List.forall_mem_cons]

theorem heightProperties_le_iff {ps : List (String × Expr)} :
    heightProperties link ps ≤ bound ↔ ∀ p ∈ ps, p.2.height link ≤ bound := by
  induction ps with
  | nil => simp [heightProperties]
  | cons p ps ih => rw [heightProperties, Nat.max_le, ih, List.forall_mem_cons]

theorem heightOption_le_iff {value : Option Expr} :
    heightOption link value ≤ bound ↔ ∀ e ∈ value, e.height link ≤ bound := by
  cases value <;> simp [heightOption]

theorem heightDeclarators_le_iff {ds : List Declarator} :
    heightDeclarators link ds ≤ bound ↔ ∀ d ∈ ds, ∀ e ∈ d.initial, e.height link ≤ bound := by
  induction ds with
  | nil => simp [heightDeclarators]
  | cons d ds ih =>
    rw [heightDeclarators, Nat.max_le, ih, heightOption_le_iff, List.forall_mem_cons]

theorem heightAlternate_le_iff {alternate : Option Stmt} :
    heightAlternate link alternate ≤ bound ↔ ∀ s ∈ alternate, s.height link ≤ bound := by
  cases alternate <;> simp [heightAlternate]

theorem heightBody_le_iff {body : List Stmt} :
    heightBody link body ≤ bound ↔ ∀ s ∈ body, s.height link ≤ bound := by
  induction body with
  | nil => simp [heightBody]
  | cons s ss ih => rw [heightBody, Nat.max_le, ih, List.forall_mem_cons]

end Bounds

namespace Grammar

/-- How high the trees at a level of nesting can be, where the links that loops build weigh nothing. -/
structure Bounded (next : Level) (height : Nat) : Prop where
  assignment : ∀ e, next.assignment e → e.height 0 ≤ height
  unary : ∀ e, next.unary e → e.height 0 ≤ height
  statement : ∀ inLoop s, next.statement inLoop s → s.height 0 ≤ height

variable {known : Token → Prop} {inner : Level} {height : Nat} (h : Bounded inner height)

include h

theorem IsExpression.height_le {e : Expr} (he : IsExpression inner e) : e.height 0 ≤ height + 1 := by
  cases he with
  | single he => exact Nat.le_succ_of_le (h.assignment _ he)
  | sequence hes =>
    have hlist := heightList_le_iff.mpr fun e he => h.assignment e (hes e he)
    exact Nat.succ_le_succ hlist

theorem IsFunction.height_le {nameOptional : Bool} {f : Function}
    (hf : IsFunction known inner nameOptional f) : f.height 0 ≤ height + 1 := by
  have hbody := heightBody_le_iff.mpr fun s hs => h.statement _ s (hf.body s hs)
  rw [FunctionOf.height_eq]
  exact Nat.succ_le_succ hbody

theorem IsPrimary.height_le {e : Expr} (he : IsPrimary known inner e) : e.height 0 ≤ height + 2 := by
  cases he with
  | function hf =>
    rw [Expr.height]
    exact Nat.le_succ_of_le (hf.height_le h)
  | parenthesized he => exact Nat.le_succ_of_le (he.height_le h)
  | array hitems =>
    have hlist := heightList_le_iff.mpr fun e he => h.assignment e (hitems e he)
    exact Nat.succ_le_succ (Nat.le_succ_of_le hlist)
  | object hproperties =>
    refine Nat.succ_le_succ (heightProperties_le_iff.mpr fun p hp => ?_)
    obtain hvalue | ⟨hvalue, -⟩ := hproperties p hp
    · exact Nat.le_succ_of_le (h.assignment _ hvalue)
    · simp [hvalue, Expr.height]
  | _ => simp [Expr.height]

theorem IsSuffixed.height_le {e : Expr} (he : IsSuffixed known inner e) :
    e.height 0 ≤ height + 2 := by
  induction he with
  | primary he => exact he.height_le h
  | member _ _ ih => exact ih
  | index _ hkey ih => exact Nat.max_le.mpr ⟨ih, Nat.succ_le_succ (hkey.height_le h)⟩
  | call _ harguments ih =>
    have hlist := heightList_le_iff.mpr fun e he => h.assignment e (harguments e he)
    exact Nat.max_le.mpr ⟨ih, Nat.succ_le_succ (Nat.le_succ_of_le hlist)⟩

theorem IsUnary.height_le {e : Expr} (he : IsUnary known inner e) : e.height 0 ≤ height + 3 := by
  cases he with
  | operand he => exact Nat.le_succ_of_le (he.height_le h)
  | postfixed _ he => exact Nat.succ_le_succ (he.height_le h)
  | unary _ he =>
    have hoperand := h.unary _ he
    simp only [Expr.height]
    omega
  | update _ he =>
    have htarget := h.unary _ he
    simp only [Expr.height]
    omega

theorem IsChain.height_le {looseness : Nat} {e : Expr} (he : IsChain known inner looseness e) :
    e.height 0 ≤ height + 3 + looseness := by
  induction he with
  | unary he => exact he.height_le h
  | tighter _ ih => exact Nat.le_succ_of_le ih
  | @join left right looseness o _ _ _ ihleft ihright =>
    have hjoin : (o.join left right).height 0 = max (left.height 0) (right.height 0 + 1) := by
      cases o <;> rfl
    omega

theorem IsConditional.height_le {e : Expr} (he : IsConditional known inner e) :
    e.height 0 ≤ height + 11 := by
  cases he with
  | chain he => exact Nat.le_succ_of_le (he.height_le h)
  | conditional htest hconsequent halternate =>
    have htest := htest.height_le h
    have hconsequent := h.assignment _ hconsequent
    have halternate := h.assignment _ halternate
    simp only [Infix.loosest, Expr.height] at htest ⊢
    omega

theorem IsAssignment.height_le {e : Expr} (he : IsAssignment known inner e) :
    e.height 0 ≤ height + 12 := by
  cases he with
  | conditional he => exact Nat.le_succ_of_le (he.height_le h)
  | assign _ htarget _ hvalue =>
    have htarget := htarget.height_le h
    have hvalue := h.assignment _ hvalue
    simp only [Expr.height]
    omega

theorem declarators_height_le {kind : DeclarationKind} {ds : List Declarator}
    (hds : ∀ d ∈ ds, IsDeclarator known inner kind d) : heightDeclarators 0 ds ≤ height :=
  heightDeclarators_le_iff.mpr fun d hd e he => h.assignment e ((hds d hd).initial e he)

theorem expression_height_le {value : Option Expr} (hvalue : ∀ e ∈ value, IsExpression inner e) :
    heightOption 0 value ≤ height + 1 :=
  heightOption_le_iff.mpr fun e he => (hvalue e he).height_le h

theorem IsInitial.height_le {s : Stmt} (hs : IsInitial known inner s) :
    s.height 0 ≤ height + 2 := by
  cases hs with
  | declaration hds => exact Nat.succ_le_succ (Nat.le_succ_of_le (declarators_height_le h hds))
  | expression he => exact Nat.succ_le_succ (he.height_le h)

theorem IsStatement.height_le {inLoop : Bool} {s : Stmt} (hs : IsStatement known inner inLoop s) :
    s.height 0 ≤ height + 12 := by
  cases hs with
  | declaration hds =>
    have hds := declarators_height_le h hds
    simp only [Stmt.height]
    omega
  | function hf =>
    have hf := hf.height_le h
    simp only [Stmt.height]
    omega
  | branch htest hconsequent =>
    have htest := htest.height_le h
    have hconsequent := h.statement _ _ hconsequent
    simp only [Stmt.height, heightAlternate]
    omega
  | choice htest hconsequent _ halternate =>
    have htest := htest.height_le h
    have hconsequent := h.statement _ _ hconsequent
    have halternate := h.statement _ _ halternate
    simp only [Stmt.height, heightAlternate]
    omega
  | loop hinitial htest hupdate hbody =>
    have hinitial := heightAlternate_le_iff.mpr fun s hs => (hinitial s hs).height_le h
    have htest := expression_height_le h htest
    have hupdate := expression_height_le h hupdate
    have hbody := h.statement _ _ hbody
    simp only [Stmt.height]
    omega
  | loopOf _ hiterable hbody =>
    have hiterable := h.assignment _ hiterable
    have hbody := h.statement _ _ hbody
    simp only [Stmt.height]
    omega
  | loopIn _ hobject hbody =>
    have hobject := hobject.height_le h
    have hbody := h.statement _ _ hbody
    simp only [Stmt.height]
    omega
  | loopWhile htest hbody =>
    have htest := htest.height_le h
    have hbody := h.statement _ _ hbody
    simp only [Stmt.height]
    omega
  | returning hvalue =>
    have hvalue := expression_height_le h hvalue
    simp only [Stmt.height]
    omega
  | within hobject hbody =>
    have hobject := hobject.height_le h
    have hbody := h.statement _ _ hbody
    simp only [Stmt.height]
    omega
  | block hbody =>
    have hbody := heightBody_le_iff.mpr fun s hs => h.statement _ s (hbody s hs)
    simp only [Stmt.height]
    omega
  | expression he =>
    have he := he.height_le h
    simp only [Stmt.height]
    omega
  | _ => simp [Stmt.height]

omit h in
/-- Each level of nesting adds at most twelve to the height of a tree. -/
theorem level_bounded (known : Token → Prop) (n : Nat) : Bounded (level known n) (12 * n) := by
  induction n with
  | zero => exact ⟨fun _ h => h.elim, fun _ h => h.elim, fun _ _ h => h.elim⟩
  | succ n ih =>
    refine ⟨fun e he => he.height_le ih, fun e he => ?_, fun _ s hs => hs.height_le ih⟩
    have hunary := IsUnary.height_le ih he
    omega

end Grammar

/-- The limit on nesting bounds the height of every tree that is read, as far as the links that loops
build do not count. -/
theorem Function.height_le_of_ofText? {cs : List Char} {f : Function}
    (h : Function.ofText? cs = .ok f) : f.height 0 ≤ 12 * nestingLimit + 1 := by
  obtain ⟨s, u, -, htokens, -⟩ := exists_of_ofText? h
  have hf := @isFunction_of_ofText? _ _ _ (fun _ => True) h htokens fun _ _ => trivial
  exact hf.height_le (Grammar.level_bounded _ nestingLimit)

end Microtemplate.Script
