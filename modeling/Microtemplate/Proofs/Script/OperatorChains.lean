import Mathlib.Data.List.TakeWhile
import Microtemplate.Proofs.Script.Rereading

/-!
How a chain of operators is grouped. The tree of a chain has its operands and operators from left to
right; at every node the operators on the left bind at least as tightly as its own, and those on the
right bind more tightly. The readers of each looseness take the operators up to theirs and leave the
looser ones, so a chain of any operators is read as such a tree.
-/

namespace Microtemplate.Script

/-- The tree of a chain: operands, and operators between what stands on their left and right. -/
inductive ChainTree where
  | operand (e : Expr)
  | node (o : Infix) (left right : ChainTree)

namespace ChainTree

/-- The expression that a chain stands for. -/
def expr : ChainTree → Expr
  | operand e => e
  | node o left right => o.join left.expr right.expr

/-- The operands and operators from left to right. -/
def inOrder : ChainTree → List (Expr ⊕ Infix)
  | operand e => [.inl e]
  | node o left right => left.inOrder ++ .inr o :: right.inOrder

/-- The operators from left to right. -/
def operators (tree : ChainTree) : List Infix := tree.inOrder.filterMap Sum.getRight?

/-- At every node, the operators on the left bind at least as tightly as its own, and those on the
right bind more tightly. -/
def Grouped : ChainTree → Prop
  | operand _ => True
  | node o left right => (∀ i ∈ left.operators, i.looseness ≤ o.looseness) ∧
      (∀ i ∈ right.operators, i.looseness < o.looseness) ∧ left.Grouped ∧ right.Grouped

/-- Operators with the operand after each, from left to right. -/
def order (links : List (Infix × Expr)) : List (Expr ⊕ Infix) :=
  links.flatMap fun l => [.inr l.1, .inl l.2]

@[simp]
theorem order_cons (o : Infix) (e : Expr) (links : List (Infix × Expr)) :
    order ((o, e) :: links) = .inr o :: .inl e :: order links := rfl

@[simp]
theorem order_append (links more : List (Infix × Expr)) :
    order (links ++ more) = order links ++ order more := List.flatMap_append

@[simp]
theorem operators_node (o : Infix) (left right : ChainTree) :
    (node o left right).operators = left.operators ++ o :: right.operators := by
  simp [operators, inOrder]

theorem filterMap_order (links : List (Infix × Expr)) :
    (order links).filterMap Sum.getRight? = links.map (·.1) := by
  induction links with
  | nil => rfl
  | cons l links ih => exact congrArg (List.cons l.1) ih

/-- The operators of a tree are those of the chain it has in order. -/
theorem operators_eq {tree : ChainTree} {e : Expr} {links : List (Infix × Expr)}
    (h : tree.inOrder = .inl e :: order links) : tree.operators = links.map (·.1) := by
  rw [operators, h]
  exact filterMap_order links

theorem inOrder_ne_nil (tree : ChainTree) : tree.inOrder ≠ [] := by
  cases tree with
  | operand e => exact List.cons_ne_nil _ _
  | node o left right => simp [inOrder]

theorem mem_operators {tree : ChainTree} {o : Infix} (h : .inr o ∈ tree.inOrder) :
    o ∈ tree.operators :=
  List.mem_filterMap.mpr ⟨.inr o, h, rfl⟩

/-- Two groupings of one chain have the same operator at the top: if one stood further to the right,
it would be both at least as tight as the other one and looser. -/
theorem Grouped.split_eq {o o' : Infix} {left right left' right' : ChainTree}
    {more : List (Expr ⊕ Infix)} (h : (node o left right).Grouped) (h' : (node o' left' right').Grouped)
    (hleft : left'.inOrder = left.inOrder ++ more)
    (hright : .inr o :: right.inOrder = more ++ .inr o' :: right'.inOrder) : more = [] := by
  cases more with
  | nil => rfl
  | cons first more =>
    obtain ⟨rfl, hrest⟩ := List.cons.inj hright
    have ho : o ∈ left'.operators := by
      refine mem_operators ?_
      rw [hleft]
      exact List.mem_append_right _ List.mem_cons_self
    have ho' : o' ∈ right.operators := by
      refine mem_operators ?_
      rw [hrest]
      exact List.mem_append_right _ List.mem_cons_self
    have hle := h'.1 o ho
    have hlt := h.2.1 o' ho'
    omega

/-- A chain is grouped in one way only. -/
theorem Grouped.unique {tree other : ChainTree} (h : tree.Grouped) (h' : other.Grouped)
    (heq : tree.inOrder = other.inOrder) : tree = other := by
  induction tree generalizing other with
  | operand e =>
    cases other with
    | operand e' =>
      cases heq
      rfl
    | node o left right =>
      have hlength := congrArg List.length heq
      have hleft := List.length_pos_iff.mpr left.inOrder_ne_nil
      simp [inOrder] at hlength
      omega
  | node o left right ihLeft ihRight =>
    cases other with
    | operand e =>
      have hlength := congrArg List.length heq
      have hleft := List.length_pos_iff.mpr left.inOrder_ne_nil
      simp [inOrder] at hlength
      omega
    | node o' left' right' =>
      have hsame : left.inOrder = left'.inOrder ∧
          (.inr o :: right.inOrder : List (Expr ⊕ Infix)) = .inr o' :: right'.inOrder := by
        rcases List.append_eq_append_iff.mp heq with ⟨more, hleft, hright⟩ | ⟨more, hleft, hright⟩
        · obtain rfl := split_eq h h' hleft hright
          exact ⟨by rw [hleft, List.append_nil], hright⟩
        · obtain rfl := split_eq h' h hleft hright
          exact ⟨by rw [hleft, List.append_nil], hright.symm⟩
      obtain ⟨hleft, hright⟩ := hsame
      obtain ⟨ho, hrest⟩ := List.cons.inj hright
      obtain rfl := Sum.inr.inj ho
      rw [ihLeft h.2.2.1 h'.2.2.1 hleft, ihRight h.2.2.2 h'.2.2.2 hrest]

end ChainTree

namespace Reader

open Parse ChainTree

variable {limit k : Nat} {inner : Nested} {operand : Parse Expr} {e : Expr} {s t u : Tokens}
  {links more : List (Infix × Expr)}

/-- Operators stand in a row, and what stands after each is read as an operand up to the next. -/
inductive Links (operand : Parse Expr) : List (Infix × Expr) → Tokens → Tokens → Prop
  | nil {s : Tokens} : Links operand [] s s
  | cons {o : Infix} {e : Expr} {links : List (Infix × Expr)} {s t u : Tokens} :
      s.current.token = .punctuator o.punctuator → operand s.next = .ok (e, u) →
      Links operand links u t → Links operand ((o, e) :: links) s t

theorem Links.exists_of_append (h : Links operand (links ++ more) s t) :
    ∃ u, Links operand links s u ∧ Links operand more u t := by
  induction links generalizing s with
  | nil => exact ⟨s, .nil, h⟩
  | cons l links ih =>
    cases h with
    | cons htoken hoperand hlinks =>
      obtain ⟨u, hfirst, hmore⟩ := ih hlinks
      exact ⟨u, .cons htoken hoperand hfirst, hmore⟩

/-- No operator up to a looseness stands before operators the first of which is looser, if none
stands after them. -/
theorem Links.infixAt?_eq_none (h : Links operand links s t)
    (hfirst : ∀ l ∈ links.head?, k < l.1.looseness)
    (hstop : ∀ j ≤ k, infixAt? j t.current.token = none) :
    ∀ j ≤ k, infixAt? j s.current.token = none := by
  cases h with
  | nil => exact hstop
  | @cons o e links _ _ _ htoken _ _ =>
    intro j hj
    have hlooser : k < o.looseness := hfirst (o, e) rfl
    rw [htoken]
    exact Reader.infixAt?_eq_none (by omega)

/-- Where operators up to a looseness and operands are read in a row, the reader of chains of that
looseness gives a tree that groups them. -/
def GroupsChains (limit : Nat) (inner : Nested) (k : Nat) : Prop :=
  ∀ {e : Expr} {s t u : Tokens} {links : List (Infix × Expr)},
    unary limit inner s = .ok (e, u) → Links (unary limit inner) links u t →
    (∀ l ∈ links, l.1.looseness ≤ k) → links.length ≤ limit →
    (∀ j ≤ k, infixAt? j t.current.token = none) →
    ∃ tree : ChainTree, chain limit inner k s = .ok (tree.expr, t) ∧
      tree.inOrder = .inl e :: order links ∧ tree.Grouped

/-- The reader of chains of a looseness takes the operators before the first looser one. -/
theorem GroupsChains.exists_tight (h : GroupsChains limit inner k)
    (he : unary limit inner s = .ok (e, u)) (hlinks : Links (unary limit inner) links u t)
    (hlimit : links.length ≤ limit) (hstop : ∀ j ≤ k, infixAt? j t.current.token = none) :
    ∃ (tree : ChainTree) (loose : List (Infix × Expr)) (v : Tokens),
      chain limit inner k s = .ok (tree.expr, v) ∧ Links (unary limit inner) loose v t ∧
      loose <:+ links ∧ (∀ l ∈ loose.head?, k < l.1.looseness) ∧
      tree.inOrder ++ order loose = .inl e :: order links ∧ tree.Grouped ∧
      ∀ i ∈ tree.operators, i.looseness ≤ k := by
  let tight : Infix × Expr → Bool := fun l => l.1.looseness ≤ k
  have hsplit : links.takeWhile tight ++ links.dropWhile tight = links :=
    List.takeWhile_append_dropWhile
  have htight : ∀ l ∈ links.takeWhile tight, l.1.looseness ≤ k := by
    intro l hl
    have hsome : tight l = true := List.mem_takeWhile_imp hl
    exact of_decide_eq_true hsome
  have hloose : ∀ l ∈ (links.dropWhile tight).head?, k < l.1.looseness := by
    intro l hl
    have hnot := List.head?_dropWhile_not tight links
    rw [Option.mem_def.mp hl] at hnot
    simpa [tight] using hnot
  have hboth := hlinks
  rw [← hsplit] at hboth
  obtain ⟨v, hfirst, hmore⟩ := hboth.exists_of_append
  have hcount := (List.takeWhile_prefix tight (l := links)).length_le
  obtain ⟨tree, hread, horder, hgrouped⟩ :=
    h he hfirst htight (by omega) (hmore.infixAt?_eq_none hloose hstop)
  refine ⟨tree, links.dropWhile tight, v, hread, hmore, List.dropWhile_suffix tight, hloose, ?_,
    hgrouped, ?_⟩
  · rw [horder, List.cons_append, ← order_append, hsplit]
  · intro i hi
    rw [operators_eq horder, List.mem_map] at hi
    obtain ⟨l, hl, rfl⟩ := hi
    exact htight l hl

/-- The further operands of a chain are joined to a tree one after the other, each with the tighter
operators after it. -/
theorem chainRest_links (h : GroupsChains limit inner k) {n : Nat} (left : ChainTree)
    (hlinks : Links (unary limit inner) links s t) (hle : ∀ l ∈ links, l.1.looseness ≤ k + 1)
    (hfirst : ∀ l ∈ links.head?, k < l.1.looseness) (hlimit : links.length ≤ limit)
    (hn : links.length ≤ n) (hstop : ∀ j ≤ k + 1, infixAt? j t.current.token = none)
    (hleft : left.Grouped) (hops : ∀ i ∈ left.operators, i.looseness ≤ k + 1) :
    ∃ tree : ChainTree,
      chainRest (k + 1) (chain limit inner k) n left.expr s = .ok (tree.expr, t) ∧
      tree.inOrder = left.inOrder ++ order links ∧ tree.Grouped := by
  induction n generalizing links s left with
  | zero =>
    obtain rfl : links = [] := List.eq_nil_of_length_eq_zero (Nat.le_zero.mp hn)
    cases hlinks
    exact ⟨left, rfl, (List.append_nil _).symm, hleft⟩
  | succ n ih =>
    cases hlinks with
    | nil =>
      exact ⟨left, chainRest_eq (hstop _ (Nat.le_refl _)) _ _, (List.append_nil _).symm, hleft⟩
    | @cons o e links _ _ u htoken he hlinks =>
      have hlooser : k < o.looseness := hfirst (o, e) rfl
      have hlooseness : o.looseness = k + 1 := by
        have hmost : o.looseness ≤ k + 1 := hle (o, e) List.mem_cons_self
        omega
      rw [List.length_cons] at hlimit hn
      obtain ⟨right, loose, v, hright, hmore, hsuffix, hhead, horder, hgrouped, htight⟩ :=
        h.exists_tight he hlinks (by omega) fun j hj => hstop j (by omega)
      have hcount := hsuffix.length_le
      have hnode : (node o left right).Grouped := by
        refine ⟨fun i hi => ?_, fun i hi => ?_, hleft, hgrouped⟩
        · have hbound := hops i hi
          omega
        · have hbound := htight i hi
          omega
      have hall : ∀ i ∈ (node o left right).operators, i.looseness ≤ k + 1 := by
        intro i hi
        rw [operators_node, List.mem_append, List.mem_cons] at hi
        rcases hi with hi | rfl | hi
        · exact hops i hi
        · omega
        · have hbound := htight i hi
          omega
      obtain ⟨tree, hread, hinOrder, htree⟩ := ih (node o left right) hmore
        (fun l hl => hle l (List.mem_cons_of_mem _ (hsuffix.subset hl))) hhead (by omega) (by omega)
        hnode hall
      have hinfix : infixAt? (k + 1) s.current.token = some o := by
        rw [htoken, infixAt?, o.ofPunctuator?_punctuator, ← hlooseness]
        simp
      have hstep : chainRest (k + 1) (chain limit inner k) (n + 1) left.expr s =
          chainRest (k + 1) (chain limit inner k) n (node o left right).expr v := by
        simp only [chainRest, bind, StateT.bind, Except.bind, Parse.token, hinfix, advance_apply,
          hright, ChainTree.expr]
      refine ⟨tree, hstep.trans hread, ?_, htree⟩
      rw [hinOrder, inOrder, order_cons, List.append_assoc, List.cons_append, horder]

/-- Chains of every looseness are grouped, those of a looseness from those of the next tighter one. -/
theorem groupsChains (limit : Nat) (inner : Nested) (k : Nat) : GroupsChains limit inner k := by
  induction k with
  | zero =>
    intro e s t u links he hlinks hle hlimit hstop
    cases hlinks with
    | nil => exact ⟨.operand e, he, rfl, trivial⟩
    | @cons o e' links _ _ _ _ _ _ =>
      have hpos := o.looseness_pos
      have hzero : o.looseness ≤ 0 := hle (o, e') List.mem_cons_self
      omega
  | succ k ih =>
    intro e s t u links he hlinks hle hlimit hstop
    obtain ⟨left, loose, v, hleft, hmore, hsuffix, hhead, horder, hgrouped, htight⟩ :=
      ih.exists_tight he hlinks hlimit fun j hj => hstop j (by omega)
    have hcount := hsuffix.length_le
    obtain ⟨tree, hread, hinOrder, htree⟩ := chainRest_links ih (n := limit) left hmore
      (fun l hl => hle l (hsuffix.subset hl)) hhead (by omega) (by omega) hstop hgrouped
      fun i hi => Nat.le_succ_of_le (htight i hi)
    refine ⟨tree, ?_, hinOrder.trans horder, htree⟩
    simp only [chain, bind, StateT.bind, Except.bind, hleft]
    exact hread

/-- A chain of any operators is read as an assignment where it ends. -/
theorem assignment_of_links (he : unary limit inner s = .ok (e, u))
    (hlinks : Links (unary limit inner) links u t) (hlimit : links.length ≤ limit)
    (ht : t.current.token.EndsAssignment) :
    ∃ tree : ChainTree, assignment limit inner s = .ok (tree.expr, t) ∧
      tree.inOrder = .inl e :: order links ∧ tree.Grouped := by
  obtain ⟨tree, hread, horder, hgrouped⟩ := groupsChains limit inner Infix.loosest he hlinks
    (fun l _ => l.1.looseness_le_loosest) hlimit fun j _ => ht.infixes j
  have hchain : Rereads True (chain limit inner Infix.loosest) s tree.expr t := .of_eq hread
  have hassignment := assignment_of_conditional (conditional_of_chain hchain ht.question) ht.assignment
  exact ⟨tree, hassignment.read trivial, horder, hgrouped⟩

end Reader

end Microtemplate.Script
