import Microtemplate.Proofs.Script.OperatorChains
import Microtemplate.Proofs.Template.Composition

/-!
Texts of chains of operators. A chain is written as texts of operands, each read as an operand on its
own, with operators between them and a blank or the end of a line on both sides of each operator. The
text is read as the one tree that groups the chain, alone and in a program that returns its value.
-/

namespace Microtemplate.Script

open Lexer (Cuts)

/-- Whether a text is a gap that begins with a blank or the end of a line, so that it ends whatever
stands before it. -/
def isBreak : List Char → Bool
  | [] => false
  | c :: cs => (c = ' ' || c = '\n') && cs.all isGap

/-- Reads a text as one operand with so many levels of nesting left. -/
def Expr.operandOfText? (levels : Nat) (text : List Char) : Except Fault Expr :=
  Reader.alone (fun limit => Reader.whole (Reader.unary limit (Reader.nested limit levels))) text

namespace OperatorChain

/-- An operand as it is written and as it is read on its own. -/
structure Operand (levels : Nat) where
  code : List Char
  expr : Expr
  reads : Expr.operandOfText? levels code = .ok expr

/-- An operand and the operator after it. An operand that ends in a comment is followed by the end of
a line, so that the operator is no part of the comment. -/
structure Link (levels : Nat) where
  operand : Operand levels
  before : List Char
  operator : Infix
  after : List Char
  before_break : isBreak before = true
  after_break : isBreak after = true
  comment : before.head? = some '\n' ∨ Lexer.endsInComment operand.code = false

/-- How an operand and the operator after it are written. -/
def Link.text {levels : Nat} (l : Link levels) : List Char :=
  l.operand.code ++ (l.before ++ (l.operator.punctuator.chars ++ l.after))

end OperatorChain

/-- A chain of operands with an operator between each two of them. -/
structure OperatorChain (levels : Nat) where
  links : List (OperatorChain.Link levels)
  last : OperatorChain.Operand levels

namespace OperatorChain

/-- How a chain is written. -/
def text {levels : Nat} (c : OperatorChain levels) : List Char :=
  c.links.flatMap Link.text ++ c.last.code

/-- The operands and operators of a chain from left to right. -/
def inOrder {levels : Nat} (c : OperatorChain levels) : List (Expr ⊕ Infix) :=
  c.links.flatMap (fun l => [.inl l.operand.expr, .inr l.operator]) ++ [.inl c.last.expr]

end OperatorChain

theorem exists_cons_of_isBreak {gap : List Char} (h : isBreak gap = true) :
    ∃ c cs, gap = c :: cs ∧ (c = ' ' ∨ c = '\n') ∧ cs.all isGap = true := by
  cases gap with
  | nil => cases h
  | cons c cs =>
    obtain ⟨hfirst, hrest⟩ := Bool.and_eq_true_iff.mp h
    exact ⟨c, cs, rfl, by simpa using hfirst, hrest⟩

theorem all_isGap_of_isBreak {gap : List Char} (h : isBreak gap = true) : gap.all isGap = true := by
  obtain ⟨c, cs, rfl, hc, hcs⟩ := exists_cons_of_isBreak h
  have hgap : isGap c = true := by rcases hc with rfl | rfl <;> decide
  rw [List.all_cons, hgap, hcs]
  rfl

/-- A text keeps its tokens when a gap comes before it; a line may now end before the first one. -/
theorem Lexer.Cuts.gap {gap cs : List Char} {l : Located} {s : Tokens} (h : Cuts cs (s.push l))
    (hgap : gap.all isGap = true) :
    ∃ newline, Cuts (gap ++ cs) (s.push { l with newlineBefore := newline }) := by
  obtain ⟨hskip, hstart, rest, htoken, hcuts⟩ := h.of_push
  have hskip' := (closedGap_of_all hgap).skipGap_append false cs
  cases hline : hasLineEnd gap with
  | false =>
    rw [hline] at hskip'
    exact ⟨l.newlineBefore, .step (hskip'.trans hskip) hstart htoken hcuts⟩
  | true =>
    rw [hline] at hskip'
    exact ⟨true, .step (hskip'.trans (skipGap_newline hskip)) hstart htoken hcuts⟩

/-- A gap ends before an operator with a break after it, which opens no comment. -/
theorem Infix.skipGap_punctuator (o : Infix) {c : Char} (hc : c = ' ' ∨ c = '\n') (newline : Bool)
    (cs : List Char) :
    Lexer.skipGap .blank newline (o.punctuator.chars ++ c :: cs) =
      .ok (newline, o.punctuator.chars ++ c :: cs) := by
  rcases hc with rfl | rfl <;> rcases o with op | op <;> cases op <;> rfl

theorem Infix.closedBy_punctuator (o : Infix) {c : Char} (hc : c = ' ' ∨ c = '\n') :
    o.punctuator.closedBy c = true := by
  rcases hc with rfl | rfl <;> rcases o with op | op <;> cases op <;> decide

/-- An operator between two breaks is a token, whatever stands before the first break. -/
theorem Infix.exists_cuts (o : Infix) {before after cs : List Char} {u : Tokens}
    (hbefore : before.all isGap = true) (hafter : isBreak after = true) (h : Cuts (after ++ cs) u)
    (newline : Bool) :
    ∃ newline', ∀ text, Lexer.skipGap .blank false text =
        Lexer.skipGap .blank newline (before ++ (o.punctuator.chars ++ (after ++ cs))) →
      Cuts text (u.push ⟨.punctuator o.punctuator, newline', o.punctuator.chars ++ (after ++ cs)⟩) := by
  obtain ⟨c, after, rfl, hc, -⟩ := exists_cons_of_isBreak hafter
  have hskip := (Lexer.closedGap_of_all hbefore).skipGap_append newline
    (o.punctuator.chars ++ (c :: after ++ cs))
  obtain ⟨d, ds, hchars, -⟩ := o.punctuator.exists_chars
  have hstart : o.punctuator.chars ++ (c :: after ++ cs) ≠ [] := by simp [hchars]
  have htoken : Lexer.token (o.punctuator.chars ++ (c :: after ++ cs)) = _ :=
    token_punctuator (by simpa using o.closedBy_punctuator hc)
  refine ⟨newline || Lexer.hasLineEnd before, fun text htext => ?_⟩
  exact .step (htext.trans (hskip.trans (o.skipGap_punctuator hc _ _))) hstart htoken h

theorem Token.endsAssignment_endOfInput : Token.endOfInput.EndsAssignment :=
  ⟨⟨⟨⟨by simp, by simp, by simp⟩, rfl⟩, fun _ => rfl⟩, by simp, rfl⟩

/-- Where a text goes on, its first token has its place in the longer text. -/
theorem Tokens.Same.exists_push {t s s' : Tokens} {l : Located} (h : Same t (s.push l) s') :
    ∃ l' v, s' = v.push l' ∧ l'.token = l.token ∧ Same t s v := by
  obtain ⟨current, following⟩ := s
  generalize hpush : Tokens.push l ⟨current, following⟩ = s at h
  cases h with
  | stop => cases hpush
  | step htoken _ _ hsame =>
    cases hpush
    exact ⟨_, _, rfl, htoken, hsame⟩

theorem Tokens.Ended.same {s : Tokens} (h : s.Ended) : Tokens.Same .finished s s := by
  induction h with
  | finished => exact .stop
  | push hend _ ih => exact .step rfl rfl hend ih

namespace OperatorChain

open Reader Parse ChainTree

variable {levels : Nat}

/-- The tokens of an operand are read as it where a text goes on with an operator, or ends. -/
theorem Operand.exists_tokens (x : Operand levels) :
    ∃ l s, Cuts x.code (s.push l) ∧ ∀ {t s' : Tokens} (l' : Located),
      t.current.token.EndsOperand → Tokens.Same t s s' → l'.token = l.token →
      ∀ limit, s.left + 1 < limit →
        unary limit (nested limit levels) (s'.push l') = .ok (x.expr, t) := by
  obtain ⟨s, u, hcuts, hwhole⟩ := exists_cuts_of_alone x.reads
  obtain ⟨hread, hend⟩ := of_whole hwhole
  have hleads : ∀ {t : Tokens}, t.current.token.EndsOperand → ∀ limit, s.left < limit →
      Leads t True (s.left + 1) (unary (s.left + 1) (nested (s.left + 1) levels))
        (unary limit (nested limit levels)) := by
    intro t ht limit hlimit
    exact unary_leads (fun _ => ht) (nested_follow (Nat.le_refl _) hlimit levels) (Nat.le_refl _)
      hlimit
  have hfinished : Tokens.finished.current.token.EndsOperand :=
    Token.endsAssignment_endOfInput.toEndsOperand
  obtain ⟨hu, -⟩ := (hleads hfinished _ (Nat.lt_succ_self _)).consumes hcuts.ended hread
  obtain rfl := hu.eq_finished_of_token hend
  cases hcuts.ended with
  | finished => exact absurd hread ((hleads hfinished _ (Nat.lt_succ_self _)).refuses _)
  | @push l s htoken hs =>
    refine ⟨l, s, hcuts, fun l' ht hsame htoken' limit hlimit => ?_⟩
    obtain ⟨u', hread', hsame'⟩ := (hleads ht limit hlimit).same l l' s _ x.expr _ htoken' htoken
      hsame (Nat.lt_succ_self _) hread (Or.inl trivial)
    rw [hsame'.eq_of_finished] at hread'
    exact hread'

/-- An operand in a text is read up to the token after it. -/
theorem Operand.exists_cuts (x : Operand levels) {P : Tokens → Prop} {gap rest : List Char}
    (hgap : gap.all isGap = true) (hP : ∀ t, P t → t.current.token.EndsOperand)
    (hrest : ∀ s, Cuts x.code s → ∃ t s', P t ∧ Cuts (x.code ++ rest) s' ∧ Tokens.Same t s s') :
    ∃ t s, P t ∧ Cuts (gap ++ (x.code ++ rest)) s ∧ t.left < s.left ∧ ∀ limit, s.left < limit →
      unary limit (nested limit levels) s = .ok (x.expr, t) := by
  obtain ⟨l, s, hcuts, hread⟩ := x.exists_tokens
  obtain ⟨t, s', ht, hcuts', hsame⟩ := hrest _ hcuts
  obtain ⟨l', v, rfl, htoken, hsame⟩ := hsame.exists_push
  obtain ⟨newline, hcuts'⟩ := hcuts'.gap hgap
  have hleft := hsame.left_eq
  refine ⟨t, _, ht, hcuts', ?_, fun limit hlimit => ?_⟩
  · rw [Tokens.left_push]
    omega
  · rw [Tokens.left_push] at hlimit
    exact hread { l' with newlineBefore := newline } (hP t ht) hsame htoken limit (by omega)

/-- An operand with an operator after it is read up to the operator. -/
theorem Link.exists_cuts (l : Link levels) {gap rest : List Char} {u : Tokens}
    (hgap : gap.all isGap = true) (hu : Cuts (l.after ++ rest) u) :
    ∃ t s, (t.current.token = .punctuator l.operator.punctuator ∧ t.next = u ∧ u.left < t.left) ∧
      Cuts (gap ++ (l.text ++ rest)) s ∧ t.left < s.left ∧ ∀ limit, s.left < limit →
        unary limit (nested limit levels) s = .ok (l.operand.expr, t) := by
  have htext : l.text ++ rest =
      l.operand.code ++ (l.before ++ (l.operator.punctuator.chars ++ (l.after ++ rest))) := by
    simp [Link.text]
  rw [htext]
  refine l.operand.exists_cuts hgap (fun t ht => ht.1 ▸ endsOperand_infix l.operator) ?_
  intro s hs
  obtain ⟨c, before, hbefore, hc, -⟩ := exists_cons_of_isBreak l.before_break
  have hcloses : closes c = true := by rcases hc with rfl | rfl <;> rfl
  have hcomment : c = '\n' ∨ Lexer.endsInComment l.operand.code = false := by
    have hline := l.comment
    rw [hbefore] at hline
    exact hline.imp_left Option.some.inj
  obtain ⟨newline, hmore⟩ := hs.append hcloses
    (before ++ (l.operator.punctuator.chars ++ (l.after ++ rest))) (Nat.lt_succ_self _) hcomment
  obtain ⟨newline', hoperator⟩ := l.operator.exists_cuts (all_isGap_of_isBreak l.before_break)
    l.after_break hu newline
  rw [hbefore] at hoperator ⊢
  obtain ⟨s', hcuts, hsame⟩ := hmore _ hoperator
  exact ⟨_, s', ⟨rfl, rfl, Nat.lt_succ_self _⟩, hcuts, hsame⟩

/-- The operands and operators of a chain that stands in a text are read in a row. -/
theorem exists_cuts (links : List (Link levels)) (last : Operand levels) {gap rest : List Char}
    {t : Tokens} (hgap : gap.all isGap = true) (ht : t.current.token.EndsOperand)
    (hrest : ∀ s, Cuts last.code s → ∃ s', Cuts (last.code ++ rest) s' ∧ Tokens.Same t s s') :
    ∃ s, Cuts (gap ++ (links.flatMap Link.text ++ (last.code ++ rest))) s ∧
      links.length + t.left < s.left ∧ ∀ limit, s.left < limit →
        ∃ (e : Expr) (pairs : List (Infix × Expr)) (u : Tokens),
          unary limit (nested limit levels) s = .ok (e, u) ∧
          Links (unary limit (nested limit levels)) pairs u t ∧ pairs.length = links.length ∧
          .inl e :: order pairs = inOrder ⟨links, last⟩ := by
  induction links generalizing gap with
  | nil =>
    obtain ⟨_, s, rfl, hcuts, hleft, hread⟩ := last.exists_cuts (P := (· = t)) hgap
      (fun u hu => hu ▸ ht) fun s hs => by
        obtain ⟨s', hcuts, hsame⟩ := hrest s hs
        exact ⟨t, s', rfl, hcuts, hsame⟩
    refine ⟨s, hcuts, by rwa [List.length_nil, Nat.zero_add], fun limit hlimit => ?_⟩
    exact ⟨last.expr, [], _, hread limit hlimit, .nil, rfl, rfl⟩
  | cons l links ih =>
    obtain ⟨u, hu, hleft, hmore⟩ := ih (all_isGap_of_isBreak l.after_break)
    obtain ⟨v, s, ⟨htoken, rfl, hlt⟩, hcuts, hleft', hread⟩ := l.exists_cuts hgap hu
    refine ⟨s, ?_, by rw [List.length_cons]; omega, fun limit hlimit => ?_⟩
    · rw [List.flatMap_cons, List.append_assoc]
      exact hcuts
    · obtain ⟨e, pairs, w, he, hpairs, hlength, horder⟩ := hmore limit (by omega)
      refine ⟨l.operand.expr, (l.operator, e) :: pairs, v, hread limit hlimit,
        .cons htoken he hpairs, by rw [List.length_cons, List.length_cons, hlength], ?_⟩
      rw [order_cons, horder]
      rfl

/-- A chain that stands in a text is read as an assignment: as a tree that groups it. -/
theorem exists_cuts_assignment (c : OperatorChain levels) (rest : List Char) {t : Tokens}
    (ht : t.current.token.EndsAssignment)
    (hrest : ∀ s, Cuts c.last.code s → ∃ s', Cuts (c.last.code ++ rest) s' ∧ Tokens.Same t s s') :
    ∃ s, Cuts (c.text ++ rest) s ∧ ∀ limit, s.left < limit → ∃ tree : ChainTree,
      assignment limit (nested limit levels) s = .ok (tree.expr, t) ∧ tree.inOrder = c.inOrder ∧
      tree.Grouped := by
  have hgap : ([] : List Char).all isGap = true := rfl
  obtain ⟨s, hcuts, hleft, hread⟩ := exists_cuts c.links c.last hgap ht.toEndsOperand hrest
  refine ⟨s, by rw [text, List.append_assoc]; exact hcuts, fun limit hlimit => ?_⟩
  obtain ⟨e, pairs, u, he, hpairs, hlength, horder⟩ := hread limit hlimit
  obtain ⟨tree, hassignment, hinOrder, hgrouped⟩ := assignment_of_links he hpairs (by omega) ht
  exact ⟨tree, hassignment, hinOrder.trans horder, hgrouped⟩

/-- The pieces of a program before the parenthesis that opens the value it returns. -/
def head : List Piece :=
  [⟨.tight, .keyword .functionWord⟩, ⟨.tight, .mark .leftParen⟩, ⟨.tight, .mark .rightParen⟩,
    ⟨.tight, .mark .leftBrace⟩, ⟨.tight, .keyword .returnWord⟩]

/-- The pieces of a program from the parenthesis that closes the value it returns. -/
def foot : List Piece :=
  [⟨.line, .mark .rightParen⟩, ⟨.tight, .mark .semicolon⟩, ⟨.tight, .mark .rightBrace⟩]

/-- A program that returns a value is read, given its value. -/
theorem function_returning {limit : Nat} {e : Expr} {s : Tokens} (cs cs' : List Char)
    (hlimit : 2 ≤ limit)
    (h : assignment limit (nested limit levels) s = .ok (e, .before (Piece.locate foot []) .finished)) :
    function limit (nested limit (levels + 3)) true
      (.before (Piece.locate head cs) (s.push ⟨.punctuator .leftParen, false, cs'⟩)) =
      .ok (⟨none, [], none, [.returning (some e)]⟩, .finished) := by
  obtain ⟨k, rfl⟩ : ∃ k, limit = k + 2 := ⟨limit - 2, by omega⟩
  let afterParen : Tokens := .before (Piece.locate (foot.drop 1) []) .finished
  let atParen : Tokens := s.push ⟨.punctuator .leftParen, false, cs'⟩
  let atReturn : Tokens := atParen.push ⟨.keyword .returnWord, false, "return".toList ++ cs⟩
  have hclose : (Tokens.before (Piece.locate foot []) .finished).current.token =
      .punctuator .rightParen := rfl
  have hafter : afterParen.current.token = .punctuator .semicolon := rfl
  have hends : afterParen.current.token.EndsAssignment := hafter ▸ endsAssignment_of_mem (by simp)
  have hvalue : Rereads True (expression (k + 2) (nested (k + 2) (levels + 1))) s e
      (.before (Piece.locate foot []) .finished) :=
    expression_of_assignment (.of_eq h) (by simp [hclose])
  have hprimary : Rereads True (primary (k + 2) (nested (k + 2) (levels + 1))) atParen e afterParen :=
    .token rfl (.advance (hvalue.finish rfl))
  have hoperand := unary_of_postfixed rfl rfl rfl (postfixed_of_primary hprimary hends.toEndsOperand)
  have hexpression : Rereads True (expression (k + 2) (nested (k + 2) (levels + 2))) atParen e
      afterParen :=
    expression_of_assignment (assignment_of_operand hoperand hends) (by simp [hafter])
  have hsome : Rereads True (some <$> expression (k + 2) (nested (k + 2) (levels + 2))) atParen
      (some e) afterParen := by
    rw [← bind_pure_comp]
    exact hexpression.finish rfl
  have hreturned : Rereads True (returned (k + 2) (nested (k + 2) (levels + 2))) atParen
      (.returning (some e)) afterParen.next :=
    .step rfl (hsome.finish rfl)
  have hword : Rereads True (advance >>= fun _ => returned (k + 2) (nested (k + 2) (levels + 2)))
      atReturn (.returning (some e)) afterParen.next := .advance hreturned
  have hstatement : Rereads True (statement (k + 2) (nested (k + 2) (levels + 2)) false) atReturn
      (.returning (some e)) afterParen.next := .step rfl hword
  have hbody : statements (nested (k + 2) (levels + 3)) false (k + 2) atReturn =
      .ok ([.returning (some e)], .finished) :=
    statements_cons Token.noConfusion Token.noConfusion (hstatement.read trivial) rfl
  change Except.bind (statements (nested (k + 2) (levels + 3)) false (k + 2) atReturn) _ = _
  rw [hbody]
  rfl

/-- What a reader takes from the tokens of a text, it takes from the text alone. -/
theorem alone_of_cuts {α : Type} {reader : Nat → Parse α} {text : List Char} {s u : Tokens} {a : α}
    (h : Cuts text s) (hread : reader (s.left + 1) s = .ok (a, u)) : alone reader text = .ok a := by
  rw [alone, Lexer.tokens_eq_ok_iff.mpr ⟨s, h, rfl⟩]
  change Except.bind (reader (s.left + 1) s) _ = _
  rw [hread]
  rfl

/-- A chain is read as the tree that groups it. -/
theorem exists_ofText? (c : OperatorChain levels) : ∃ tree : ChainTree,
    Expr.ofText? (levels + 1) c.text = .ok tree.expr ∧ tree.inOrder = c.inOrder ∧ tree.Grouped := by
  obtain ⟨s, hcuts, hread⟩ := c.exists_cuts_assignment [] (t := .finished)
    Token.endsAssignment_endOfInput fun s hs => ⟨s, by rwa [List.append_nil], hs.ended.same⟩
  rw [List.append_nil] at hcuts
  obtain ⟨tree, hassignment, horder, hgrouped⟩ := hread (s.left + 1) (Nat.lt_succ_self _)
  have hexpression : Rereads True (expression (s.left + 1) (nested (s.left + 1) (levels + 1))) s
      tree.expr .finished :=
    expression_of_assignment (.of_eq hassignment) Token.noConfusion
  have hwhole : Rereads True
      (whole (expression (s.left + 1) (nested (s.left + 1) (levels + 1)))) s tree.expr .finished :=
    hexpression.finish rfl
  exact ⟨tree, alone_of_cuts hcuts (hwhole.read trivial), horder, hgrouped⟩

/-- A program that returns the value of a chain is read as one that returns the value of the tree that
groups it. -/
theorem exists_ofText?_program (c : OperatorChain levels) (hlevels : levels + 3 = nestingLimit) :
    ∃ tree : ChainTree,
      Function.ofText? ("function()\x7breturn (".toList ++ (c.text ++ "\n);\x7d".toList)) =
        .ok ⟨none, [], none, [.returning (some tree.expr)]⟩ ∧
      tree.inOrder = c.inOrder ∧ tree.Grouped := by
  have hfoot : Cuts (Piece.print foot ++ []) (.before (Piece.locate foot []) .finished) :=
    Lexer.Cuts.print (.stop rfl) rfl
  obtain ⟨s, hcuts, hread⟩ := c.exists_cuts_assignment (Piece.print foot)
    (t := .before (Piece.locate foot []) .finished) (endsAssignment_of_mem (by simp))
    fun s hs => hs.append_line hfoot
  have hparen : Cuts (" (".toList ++ (c.text ++ Piece.print foot)) _ := .mark (Or.inl rfl) rfl hcuts
  have hfit : Piece.fit head (some ' ') = true := rfl
  obtain ⟨tree, hassignment, horder, hgrouped⟩ := hread (s.left + 7) (by omega)
  have hfunction := function_returning (" (".toList ++ (c.text ++ Piece.print foot))
    ('(' :: (c.text ++ Piece.print foot)) (by omega) hassignment
  rw [hlevels] at hfunction
  refine ⟨tree, Function.ofText?_eq_ok (hparen.print hfit) ?_ hfunction rfl, horder,
    hgrouped⟩
  rw [Tokens.left_before_locate, Tokens.left_push]
  change 5 + (s.left + 1) + 1 = s.left + 7
  omega

/-- A chain is read as the tree that groups it, alone and as the value that a program returns. -/
theorem reads_grouped (c : OperatorChain levels) :
    ∃ tree : ChainTree, tree.inOrder = c.inOrder ∧ tree.Grouped ∧
      Expr.ofText? (levels + 1) c.text = .ok tree.expr ∧
      (levels + 3 = nestingLimit →
        Function.ofText? ("function()\x7breturn (".toList ++ (c.text ++ "\n);\x7d".toList)) =
          .ok ⟨none, [], none, [.returning (some tree.expr)]⟩) := by
  obtain ⟨tree, hread, horder, hgrouped⟩ := c.exists_ofText?
  refine ⟨tree, horder, hgrouped, hread, fun hlevels => ?_⟩
  obtain ⟨other, hprogram, horder', hgrouped'⟩ := c.exists_ofText?_program hlevels
  rw [hgrouped.unique hgrouped' (horder.trans horder'.symm)]
  exact hprogram

/-- A product between differences, and a comment after the last operand. -/
theorem reads_grouped_differences :
    ∃ c : OperatorChain (nestingLimit - 3), c.text = "a - b * c() - !d // e".toList ∧
      ∃ tree : ChainTree, tree.inOrder = [.inl (.identifier "a"), .inr (.binary .subtract),
          .inl (.identifier "b"), .inr (.binary .multiply), .inl (.call (.identifier "c") []),
          .inr (.binary .subtract), .inl (.unary .not (.identifier "d"))] ∧
        tree.Grouped ∧ Expr.ofText? (nestingLimit - 2) c.text = .ok tree.expr ∧
        Function.ofText? "function()\x7breturn (a - b * c() - !d // e\n);\x7d".toList =
          .ok ⟨none, [], none, [.returning (some tree.expr)]⟩ := by
  have hcall : Expr.operandOfText? (nestingLimit - 3) "c()".toList =
      .ok (.call (.identifier "c") []) := rfl
  have hnot : Expr.operandOfText? (nestingLimit - 3) "!d // e".toList =
      .ok (.unary .not (.identifier "d")) := rfl
  let c : OperatorChain (nestingLimit - 3) :=
    ⟨[⟨⟨"a".toList, _, rfl⟩, [' '], .binary .subtract, [' '], rfl, rfl, Or.inr rfl⟩,
      ⟨⟨"b".toList, _, rfl⟩, [' '], .binary .multiply, [' '], rfl, rfl, Or.inr rfl⟩,
      ⟨⟨"c()".toList, _, hcall⟩, [' '], .binary .subtract, [' '], rfl, rfl, Or.inr rfl⟩],
      ⟨"!d // e".toList, _, hnot⟩⟩
  obtain ⟨tree, horder, hgrouped, hread, hprogram⟩ := reads_grouped c
  exact ⟨c, rfl, tree, horder, hgrouped, hread, hprogram rfl⟩

end OperatorChain

end Microtemplate.Script
