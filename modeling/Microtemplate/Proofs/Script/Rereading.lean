import Microtemplate.Proofs.Script.CanonicalSpelling
import Microtemplate.Proofs.Script.ExpressionFollowing
import Microtemplate.Proofs.Script.SeparatedItems

/-!
Expressions that are read back from their canonical text. The depth of a tree says exactly whether
the levels of nesting are enough for its text: if they are, the tree is read and what stands after
it is left, and if not, the text is refused as nested too deeply and for nothing else.
-/

namespace Microtemplate.Script

namespace Parse

variable {α β : Type}

/-- A reader gives a result and what is left after it where the tokens fit its levels of nesting, and
otherwise refuses them as nested too deeply. -/
structure Rereads (fits : Prop) (p : Parse α) (s : Tokens) (a : α) (u : Tokens) : Prop where
  read : fits → p s = .ok (a, u)
  refused : ¬ fits → ∃ place, p s = .error ⟨.nestedTooDeeply, place⟩

variable {fits more : Prop} {p : Parse α} {f : α → Parse β} {s u w : Tokens} {a : α} {b : β}

namespace Rereads

theorem of_eq (h : p s = .ok (a, u)) : Rereads True p s a u :=
  ⟨fun _ => h, fun hnot => absurd trivial hnot⟩

theorem congr (h : Rereads fits p s a u) (hiff : more ↔ fits) : Rereads more p s a u :=
  ⟨fun hmore => h.read (hiff.mp hmore), fun hmore => h.refused (hiff.not.mp hmore)⟩

/-- A reader that gives its result whatever the nesting is. -/
theorem step (h : p s = .ok (a, u)) (hmore : Rereads more (f a) u b w) :
    Rereads more (p >>= f) s b w := by
  have heq : (p >>= f) s = f a u := by
    simp only [bind, StateT.bind, Except.bind, h]
  exact ⟨fun hfits => heq ▸ hmore.read hfits, fun hfits => heq ▸ hmore.refused hfits⟩

theorem bind (h : Rereads fits p s a u) (hmore : Rereads more (f a) u b w) :
    Rereads (fits ∧ more) (p >>= f) s b w := by
  by_cases hfits : fits
  · exact (step (h.read hfits) hmore).congr (by simp [hfits])
  · obtain ⟨place, hplace⟩ := h.refused hfits
    refine ⟨fun hboth => absurd hboth.1 hfits, fun _ => ⟨place, ?_⟩⟩
    simp only [Bind.bind, StateT.bind, Except.bind, hplace]

/-- A reader after which nothing more is nested. -/
theorem finish (h : Rereads fits p s a u) (hmore : f a u = .ok (b, w)) :
    Rereads fits (p >>= f) s b w :=
  (h.bind (of_eq hmore)).congr (by simp)

theorem token {t : Token} {g : Token → Parse β} (ht : s.current.token = t)
    (h : Rereads more (g t) s b w) : Rereads more (token >>= g) s b w :=
  step (ht ▸ rfl) h

theorem advance {x : Parse β} (h : Rereads more x s.next b w) :
    Rereads more (advance >>= fun _ => x) s b w :=
  step (advance_apply s) h

theorem ifEat {t : Token} {x y : Parse β} (ht : s.current.token = t)
    (h : Rereads more x s.next b w) :
    Rereads more (eat t >>= fun found => if found = true then x else y) s b w := by
  have heq := ifEat_apply t x y s
  rw [if_pos ht] at heq
  have hnext := h.advance
  exact ⟨fun hfits => heq ▸ hnext.read hfits, fun hfits => heq ▸ hnext.refused hfits⟩

theorem unlessEat {t : Token} {x y : Parse β} (ht : s.current.token ≠ t)
    (h : Rereads more y s b w) :
    Rereads more (eat t >>= fun found => if found = true then x else y) s b w := by
  have heq := ifEat_apply t x y s
  rw [if_neg ht] at heq
  exact ⟨fun hfits => heq ▸ h.read hfits, fun hfits => heq ▸ h.refused hfits⟩

end Rereads

theorem expect_eq {q : Punctuator} (h : s.current.token = .punctuator q) :
    expect q s = .ok ((), s.next) := by
  rw [← advance_apply]
  change (if s.current.token = .punctuator q then advance else _) s = _
  rw [if_pos h]

theorem identifier_eq {name : String} (h : s.current.token = .identifier name) :
    identifier s = .ok (name, s.next) := by
  have hread : Rereads True identifier s name s.next := by
    refine .step rfl ?_
    rw [h]
    exact .advance (.of_eq rfl)
  exact hread.read trivial

section Items

variable {item : Parse α} {tokens : α → List Token} {fits : α → Prop} {as : List α}

/-- Items each of which stands after a comma are read back up to what is no comma. -/
theorem Rereads.afterCommas {k : Nat}
    (hk : (furtherTokens tokens as).length < k)
    (hitem : ∀ a ∈ as, ∀ {s v : Tokens}, s.Starts (tokens a) v →
      v.current.token = .punctuator .comma ∨ v = u → Rereads (fits a) item s a v)
    (hs : s.Starts (furtherTokens tokens as) u) (hu : u.current.token ≠ .punctuator .comma) :
    Rereads (∀ a ∈ as, fits a) (afterCommas item k) s as u := by
  induction as generalizing s k with
  | nil =>
    obtain ⟨k, rfl⟩ : ∃ m, k = m + 1 := ⟨k - 1, by omega⟩
    obtain rfl := hs
    exact (unlessEat hu (.of_eq rfl)).congr (by simp)
  | cons a as ih =>
    obtain ⟨k, rfl⟩ : ∃ m, k = m + 1 := ⟨k - 1, by omega⟩
    obtain ⟨hfirst, hmore⟩ := List.forall_mem_cons.mp hitem
    rw [furtherTokens, List.length_cons, List.length_append] at hk
    obtain ⟨hcomma, -, hs⟩ := hs
    obtain ⟨v, htokens, hs⟩ := Tokens.starts_append.mp hs
    have hnext : v.current.token = .punctuator .comma ∨ v = u := by
      cases as with
      | nil => exact Or.inr hs
      | cons b bs => exact Or.inl hs.1
    rw [List.forall_mem_cons]
    exact ifEat hcomma ((hfirst htokens hnext).bind ((ih (by omega) hmore hs).finish rfl))

/-- Items between commas are read back up to the closing punctuator. -/
theorem Rereads.separated {close : Punctuator} (hclose : close ≠ .comma) {k : Nat}
    (hk : (commaTokens tokens as).length < k)
    (hstart : ∀ a ∈ as, ∀ {s v : Tokens}, s.Starts (tokens a) v → s.current.token ≠ .punctuator close)
    (hitem : ∀ a ∈ as, ∀ {s v : Tokens}, s.Starts (tokens a) v →
      v.current.token = .punctuator .comma ∨ v.current.token = .punctuator close →
      Rereads (fits a) item s a v)
    (hs : s.Starts (commaTokens tokens as ++ [.punctuator close]) u) :
    Rereads (∀ a ∈ as, fits a) (separated item close k) s as u := by
  induction as generalizing s k with
  | nil =>
    obtain ⟨k, rfl⟩ : ∃ m, k = m + 1 := ⟨k - 1, by omega⟩
    obtain ⟨htoken, -, rfl⟩ := hs
    exact (ifEat htoken (.of_eq rfl)).congr (by simp)
  | cons a as ih =>
    obtain ⟨k, rfl⟩ : ∃ m, k = m + 1 := ⟨k - 1, by omega⟩
    obtain ⟨hfirst, hmore⟩ := List.forall_mem_cons.mp hitem
    obtain ⟨hnot, hstarts⟩ := List.forall_mem_cons.mp hstart
    rw [List.forall_mem_cons]
    cases as with
    | nil =>
      rw [commaTokens, furtherTokens, List.append_nil] at hs
      obtain ⟨v, htokens, htoken, -, rfl⟩ := Tokens.starts_append.mp hs
      have hcomma : v.current.token ≠ .punctuator .comma := by simpa [htoken] using hclose
      have hlast := hfirst htokens (Or.inr htoken)
      refine (unlessEat (hnot htokens) (hlast.finish ?_)).congr (by simp)
      exact (unlessEat hcomma (step (expect_eq htoken) (.of_eq rfl))).read trivial
    | cons b bs =>
      rw [commaTokens_cons_cons, List.append_assoc] at hs
      rw [commaTokens_cons_cons, List.length_append, List.length_cons] at hk
      obtain ⟨v, htokens, htoken, -, hs⟩ := Tokens.starts_append.mp hs
      have hrest := ih (k := k) (by omega) hstarts hmore hs
      exact unlessEat (hnot htokens) ((hfirst htokens (Or.inl htoken)).bind
        (.ifEat htoken (hrest.finish rfl)))

end Items

end Parse

namespace Reader

open Parse

variable {known : Token → Prop} {limit n : Nat} {inner : Nested} {s u : Tokens}

/-- A reader of assignments reads back expressions in parentheses. -/
def RereadsParens (known : Token → Prop) (limit n : Nat) (p : Parse Expr) : Prop :=
  ∀ {e : Expr} {s u : Tokens}, e.Proper known → (parens e.tokens).length ≤ limit →
    s.Starts (parens e.tokens) u → u.current.token.EndsAssignment → Rereads (e.depth < n) p s e u

/-- The readers of the next level read back what fits the levels that are left. -/
structure NestedRereads (known : Token → Prop) (limit n : Nat) (inner : Nested) : Prop where
  expression : ∀ {e : Expr} {s u : Tokens}, e.Proper known → e.tokens.length ≤ limit →
    s.Starts e.tokens u → u.current.token = .punctuator .rightParen →
    Rereads (e.depth ≤ n) (expression limit inner) s e u
  assignment : RereadsParens known limit n inner.assignment
  unary : RereadsParens known limit n inner.unary
  identifier : ∀ {name : String} {s u : Tokens}, s.Starts [.identifier name] u →
    u.current.token.EndsAssignment → Rereads (0 < n) inner.assignment s (.identifier name) u
  statement : ∀ {inLoop : Bool} {x : Stmt} {s u : Tokens}, x.Proper known inLoop →
    x.tokens.length ≤ limit → s.Starts x.tokens u →
    (x.endsOpen = true → u.current.token ≠ .keyword .elseWord) →
    Rereads (x.depth ≤ n) (inner.statement inLoop) s x u

theorem endsAssignment_of_mem {p : Punctuator}
    (h : p ∈ [.rightParen, .rightBracket, .rightBrace, .comma, .colon, Punctuator.semicolon]) :
    (Token.punctuator p).EndsAssignment := by
  simp only [List.mem_cons, List.not_mem_nil, or_false] at h
  rcases h with rfl | rfl | rfl | rfl | rfl | rfl <;>
    exact ⟨⟨⟨⟨by simp, by simp, by simp⟩, rfl⟩, fun _ => rfl⟩, by simp, rfl⟩

theorem infixAt?_eq_none {looseness : Nat} {o : Infix} (h : o.looseness ≠ looseness) :
    infixAt? looseness (.punctuator o.punctuator) = none := by
  simp [infixAt?, o.ofPunctuator?_punctuator, h]

theorem endsOperand_infix (o : Infix) : (Token.punctuator o.punctuator).EndsOperand := by
  rcases o with op | op <;> cases op <;>
    exact ⟨⟨by simp [Infix.punctuator], by simp [Infix.punctuator], by simp [Infix.punctuator]⟩, rfl⟩

theorem endsChain_question : (Token.punctuator .question).EndsChain :=
  ⟨⟨⟨by simp, by simp, by simp⟩, rfl⟩, fun _ => rfl⟩

theorem endsChain_assignment (op : Option BinaryOp) :
    (Token.punctuator (assignmentPunctuator op)).EndsChain ∧
      Token.punctuator (assignmentPunctuator op) ≠ .punctuator .question := by
  have hmarks : ∀ p, p ∈ [.assign, .plusAssign, .minusAssign, .starAssign, .slashAssign,
      Punctuator.percentAssign] → (Token.punctuator p).EndsChain ∧
        Token.punctuator p ≠ .punctuator .question := by
    intro p hp
    simp only [List.mem_cons, List.not_mem_nil, or_false] at hp
    rcases hp with rfl | rfl | rfl | rfl | rfl | rfl <;>
      exact ⟨⟨⟨⟨by simp, by simp, by simp⟩, rfl⟩, fun _ => rfl⟩, by simp⟩
  refine hmarks _ ?_
  rcases op with _ | op
  · simp [assignmentPunctuator]
  · cases op <;> simp [assignmentPunctuator]

/-- The operator of an assignment that there is, is read as it. -/
theorem assignmentOfToken?_punctuator {op : Option BinaryOp} (h : ∃ t, assignmentOfToken? t = some op) :
    assignmentOfToken? (.punctuator (assignmentPunctuator op)) = some op := by
  obtain ⟨t, ht⟩ := h
  unfold assignmentOfToken? at ht
  split at ht <;> cases ht <;> rfl

theorem endsSuffixes_update (op : UpdateOp) : (Token.punctuator op.punctuator).EndsSuffixes := by
  cases op <;> exact ⟨by simp [UpdateOp.punctuator], by simp [UpdateOp.punctuator], by simp [UpdateOp.punctuator]⟩

theorem ofToken?_update (op : UpdateOp) : UpdateOp.ofToken? (.punctuator op.punctuator) = some op := by
  cases op <;> rfl

section Climbing

variable {fits : Prop} {e : Expr}

/-- Nothing goes on with an operand that ends. -/
theorem suffixes_eq (hu : u.current.token.EndsSuffixes) (k : Nat) :
    suffixes limit inner k e u = .ok (e, u) := by
  cases k with
  | zero => rfl
  | succ k =>
    have hread : Rereads True (suffixes limit inner (k + 1) e) u e u :=
      .unlessEat hu.dot (.unlessEat hu.bracket (.unlessEat hu.paren (.of_eq rfl)))
    exact hread.read trivial

/-- A primary expression with its suffixes, where no update operator follows. -/
theorem postfixed_rereads {more : Prop} {e₀ : Expr} {v : Tokens}
    (h : Rereads fits (primary limit inner) s e₀ v)
    (hmore : Rereads more (suffixes limit inner limit e₀) v e u)
    (hu : UpdateOp.ofToken? u.current.token = none) :
    Rereads (fits ∧ more) (postfixed limit inner) s e u := by
  have hlast : Rereads (fits ∧ more ∧ True) (postfixed limit inner) s e u := by
    refine .step rfl (h.bind (hmore.bind (.step rfl ?_)))
    rw [hu]
    exact .of_eq rfl
  exact hlast.congr (by simp)

/-- A primary expression is read as an operand if it ends there. -/
theorem postfixed_of_primary (h : Rereads fits (primary limit inner) s e u)
    (hu : u.current.token.EndsOperand) : Rereads fits (postfixed limit inner) s e u :=
  (postfixed_rereads h (.of_eq (suffixes_eq hu.toEndsSuffixes limit)) hu.update).congr (by simp)

/-- An operand without prefix operators. -/
theorem unary_of_postfixed {t : Token} (htoken : s.current.token = t)
    (hunary : UnaryOp.ofToken? t = none) (hupdate : UpdateOp.ofToken? t = none)
    (h : Rereads fits (postfixed limit inner) s e u) : Rereads fits (unary limit inner) s e u := by
  refine .step rfl ?_
  rw [htoken, hunary]
  dsimp only
  rw [hupdate]
  exact h

/-- Nothing goes on with a chain that ends. -/
theorem chainRest_eq {looseness : Nat} (hu : infixAt? looseness u.current.token = none)
    (operand : Parse Expr) (k : Nat) : chainRest looseness operand k e u = .ok (e, u) := by
  cases k with
  | zero => rfl
  | succ k =>
    have hread : Rereads True (chainRest looseness operand (k + 1) e) u e u := by
      refine .token rfl ?_
      rw [hu]
      exact .of_eq rfl
    exact hread.read trivial

theorem chain_of_operand (h : Rereads fits (unary limit inner) s e u) {looseness : Nat}
    (hu : ∀ k ≤ looseness, infixAt? k u.current.token = none) :
    Rereads fits (chain limit inner looseness) s e u := by
  induction looseness with
  | zero => exact h
  | succ looseness ih =>
    have htighter := ih fun k hk => hu k (Nat.le_succ_of_le hk)
    exact htighter.finish (chainRest_eq (hu _ (Nat.le_refl _)) _ limit)

/-- A chain of tighter operators is one of looser operators if it ends there. -/
theorem chain_of_le {looseness looser : Nat} (hle : looseness ≤ looser)
    (h : Rereads fits (chain limit inner looseness) s e u)
    (hu : ∀ k, infixAt? k u.current.token = none) : Rereads fits (chain limit inner looser) s e u := by
  induction hle with
  | refl => exact h
  | step _ ih => exact ih.finish (chainRest_eq (hu _) _ limit)

theorem conditional_of_chain (h : Rereads fits (chain limit inner Infix.loosest) s e u)
    (hu : u.current.token ≠ .punctuator .question) : Rereads fits (conditional limit inner) s e u :=
  (h.bind (.unlessEat hu (.of_eq rfl))).congr (by simp)

theorem assignment_of_conditional (h : Rereads fits (conditional limit inner) s e u)
    (hu : assignmentOfToken? u.current.token = none) : Rereads fits (assignment limit inner) s e u := by
  have hlast : Rereads (fits ∧ True) (assignment limit inner) s e u := by
    refine .step rfl (h.bind (.token rfl ?_))
    rw [hu]
    exact .of_eq rfl
  exact hlast.congr (by simp)

/-- An operand is read as an assignment if it ends there. -/
theorem assignment_of_operand (h : Rereads fits (unary limit inner) s e u)
    (hu : u.current.token.EndsAssignment) : Rereads fits (assignment limit inner) s e u :=
  assignment_of_conditional (conditional_of_chain (chain_of_operand h fun k _ => hu.infixes k)
    hu.question) hu.assignment

end Climbing

/-- The first token of a statement ends no block and belongs to no statement before it. -/
theorem exists_tokens_eq_cons (x : Stmt) : ∃ t ts, x.tokens = t :: ts ∧
    t ≠ .punctuator .rightBrace ∧ t ≠ .endOfInput ∧ t ≠ .keyword .elseWord := by
  cases x with
  | declaration kind ds =>
    rw [Stmt.tokens]
    exact ⟨_, _, rfl, by simp, by simp, by cases kind <;> simp [DeclarationKind.keyword]⟩
  | function f =>
    rw [Stmt.tokens, f.tokens_eq]
    exact ⟨_, _, rfl, by simp, by simp, by simp⟩
  | expression e =>
    rw [Stmt.tokens, parens]
    exact ⟨_, _, rfl, by simp, by simp, by simp⟩
  | _ =>
    rw [Stmt.tokens]
    exact ⟨_, _, rfl, by simp, by simp, by simp⟩

/-- The parameters of a function are read up to the closing parenthesis. -/
theorem parameters_eq {params : List String} {rest : Option String} {k : Nat}
    (hk : (parameterTokens params rest).length < k) (hs : s.Starts (parameterTokens params rest) u)
    (hu : u.current.token = .punctuator .rightParen) :
    Rereads True (parameters k) s (params, rest) u := by
  induction params generalizing s k with
  | nil =>
    obtain ⟨k, rfl⟩ : ∃ m, k = m + 1 := ⟨k - 1, by omega⟩
    cases rest with
    | none =>
      obtain rfl := hs
      refine .token hu ?_
      rw [if_pos rfl]
      exact .of_eq rfl
    | some n =>
      obtain ⟨hellipsis, -, hname, -, rfl⟩ := hs
      refine .token hellipsis ?_
      rw [if_neg (by simp)]
      exact .ifEat hellipsis (.step (identifier_eq hname) (.of_eq rfl))
  | cons n ns ih =>
    obtain ⟨k, rfl⟩ : ∃ m, k = m + 1 := ⟨k - 1, by omega⟩
    by_cases hlone : rest = none ∧ ns = []
    · obtain ⟨rfl, rfl⟩ := hlone
      obtain ⟨hname, -, rfl⟩ := hs
      refine .token hname ?_
      rw [if_neg (by simp)]
      refine .unlessEat (by simp [hname]) (.step (identifier_eq hname) ?_)
      exact .unlessEat (by simp [hu]) (.of_eq rfl)
    · have hsplit : parameterTokens (n :: ns) rest =
          .identifier n :: .punctuator .comma :: parameterTokens ns rest := by
        rw [parameterTokens]
        exact fun hrest hns => hlone ⟨hrest, hns⟩
      rw [hsplit] at hs hk
      obtain ⟨hname, -, hcomma, -, hs⟩ := hs
      simp only [List.length_cons] at hk
      refine .token hname ?_
      rw [if_neg (by simp)]
      refine .unlessEat (by simp [hname]) (.step (identifier_eq hname) (.ifEat hcomma ?_))
      exact (ih (by omega) hs).finish rfl

/-- The further items of a sequence, each after a comma. -/
theorem commaRest_rereads (h : RereadsParens known limit n inner.assignment) {es : List Expr}
    (hes : ∀ e ∈ es, e.Proper known) {k : Nat}
    (hlimit : (furtherTokens (fun e => parens e.tokens) es).length ≤ limit)
    (hk : (furtherTokens (fun e => parens e.tokens) es).length < k)
    (hs : s.Starts (furtherTokens (fun e => parens e.tokens) es) u)
    (hu : u.current.token = .punctuator .rightParen) :
    Rereads (∀ e ∈ es, e.depth < n) (commaRest inner k) s es u := by
  rw [commaRest_eq_afterCommas]
  refine .afterCommas hk (fun e he s v htokens hnext => ?_) hs (by simp [hu])
  have hlt := length_lt_furtherTokens (fun e : Expr => parens e.tokens) he
  refine h (hes e he) (by omega) htokens ?_
  rcases hnext with hcomma | rfl
  · exact hcomma ▸ endsAssignment_of_mem (by simp)
  · exact hu ▸ endsAssignment_of_mem (by simp)

section Level

variable (h : NestedRereads known limit n inner)

include h

/-- An expression in parentheses is read as a primary expression. -/
theorem primary_parens {e : Expr} (he : e.Proper known) (hlimit : (parens e.tokens).length ≤ limit)
    (hs : s.Starts (parens e.tokens) u) : Rereads (e.depth ≤ n) (primary limit inner) s e u := by
  simp only [parens, Tokens.Starts, Tokens.starts_append, List.length_cons, List.length_append] at hs hlimit
  obtain ⟨hopen, -, v, htokens, hclose, -, rfl⟩ := hs
  have hread := h.expression he (by omega) htokens hclose
  refine .token hopen (.advance (hread.finish ?_))
  change Except.bind (expect .rightParen v) _ = _
  rw [expect_eq hclose]
  rfl

omit h in
theorem token_of_parens {ts : List Token} (hs : s.Starts (parens ts) u) :
    s.current.token = .punctuator .leftParen := hs.1

/-- An expression in parentheses is read as an operand. -/
theorem unary_parens {e : Expr} (he : e.Proper known) (hlimit : (parens e.tokens).length ≤ limit)
    (hs : s.Starts (parens e.tokens) u) (hu : u.current.token.EndsOperand) :
    Rereads (e.depth ≤ n) (unary limit inner) s e u :=
  unary_of_postfixed (token_of_parens hs) rfl rfl
    (postfixed_of_primary (primary_parens h he hlimit hs) hu)

/-- An expression in parentheses is read as an assignment. -/
theorem assignment_parens {e : Expr} (he : e.Proper known)
    (hlimit : (parens e.tokens).length ≤ limit) (hs : s.Starts (parens e.tokens) u)
    (hu : u.current.token.EndsAssignment) : Rereads (e.depth ≤ n) (assignment limit inner) s e u :=
  assignment_of_operand (unary_parens h he hlimit hs hu.toEndsOperand) hu

theorem list_rereads {close : Punctuator} (hclose : close = .rightParen ∨ close = .rightBracket)
    {es : List Expr} (hes : ∀ e ∈ es, e.Proper known) {k : Nat}
    (hlimit : (itemTokens es).length < limit) (hk : (itemTokens es).length < k)
    (hs : s.Starts (itemTokens es ++ [.punctuator close]) u) :
    Rereads (itemDepth es ≤ n) (list inner close k) s es u := by
  rw [itemTokens_eq] at hlimit hk hs
  rw [itemDepth_le_iff, list_eq_separated]
  refine .separated ?_ hk (fun e _ s v htokens => ?_) (fun e he s v htokens hnext => ?_) hs
  · rcases hclose with rfl | rfl <;> simp
  · rw [token_of_parens htokens]
    rcases hclose with rfl | rfl <;> simp
  · have hle := length_le_commaTokens (fun e : Expr => parens e.tokens) he
    refine h.assignment (hes e he) (by omega) htokens ?_
    rcases hnext with hnext | hnext
    · exact hnext ▸ endsAssignment_of_mem (by simp)
    · rw [hnext]
      rcases hclose with rfl | rfl <;> exact endsAssignment_of_mem (by simp)

omit h in
theorem propertyName_eq {key : String} (htoken : s.current.token = .string key) :
    propertyName s.current s = .ok ((key, false), s) := by
  unfold propertyName
  rw [htoken]
  rfl

theorem property_rereads {key : String} {e : Expr} (he : e.Proper known)
    (hlimit : (parens e.tokens).length ≤ limit)
    (hs : s.Starts (.string key :: .punctuator .colon :: parens e.tokens) u)
    (hu : u.current.token.EndsAssignment) :
    Rereads (e.depth < n) (property inner) s (key, e) u := by
  obtain ⟨hkey, -, hcolon, -, htokens⟩ := hs
  refine .step rfl (.step (propertyName_eq hkey) (.advance (.ifEat hcolon ?_)))
  exact (h.assignment he hlimit htokens hu).finish rfl

theorem properties_rereads {ps : List (String × Expr)} (hps : ∀ p ∈ ps, p.2.Proper known) {k : Nat}
    (hlimit : (propertyTokens ps).length < limit) (hk : (propertyTokens ps).length < k)
    (hs : s.Starts (propertyTokens ps ++ [.punctuator .rightBrace]) u) :
    Rereads (propertyDepth ps ≤ n) (properties inner k) s ps u := by
  rw [propertyTokens_eq] at hlimit hk hs
  rw [propertyDepth_le_iff, properties_eq_separated]
  refine .separated (by simp) hk (fun p _ s v htokens => ?_) (fun p hp s v htokens hnext => ?_) hs
  · simp [htokens.1]
  · have hle := length_le_commaTokens propertyItem hp
    simp only [propertyItem, List.length_cons] at hle
    refine property_rereads h (hps p hp) (by omega) htokens ?_
    rcases hnext with hnext | hnext <;> exact hnext ▸ endsAssignment_of_mem (by simp)

theorem statements_rereads {inLoop : Bool} {ss : List Stmt} (hss : ∀ x ∈ ss, x.Proper known inLoop)
    {k : Nat} (hlimit : (bodyTokens ss).length < limit) (hk : (bodyTokens ss).length < k)
    (hs : s.Starts (bodyTokens ss ++ [.punctuator .rightBrace]) u) :
    Rereads (bodyDepth ss ≤ n) (statements inner inLoop k) s ss u := by
  induction ss generalizing s k with
  | nil =>
    obtain ⟨k, rfl⟩ : ∃ m, k = m + 1 := ⟨k - 1, by omega⟩
    obtain ⟨htoken, -, rfl⟩ := hs
    exact (Rereads.ifEat htoken (.of_eq rfl)).congr (by simp [bodyDepth])
  | cons x ss ih =>
    obtain ⟨k, rfl⟩ : ∃ m, k = m + 1 := ⟨k - 1, by omega⟩
    obtain ⟨hx, hmore⟩ := List.forall_mem_cons.mp hss
    rw [bodyTokens, List.append_assoc, Tokens.starts_append] at hs
    rw [bodyTokens, List.length_append] at hlimit hk
    obtain ⟨v, htokens, hs⟩ := hs
    obtain ⟨t, ts, hcons, hbrace, hend, -⟩ := exists_tokens_eq_cons x
    have htoken : s.current.token = t := by
      rw [hcons] at htokens
      exact htokens.1
    -- what stands after a statement ends the block or is the next statement
    have hnext : v.current.token ≠ .keyword .elseWord := by
      cases ss with
      | nil => simp [hs.1]
      | cons y ys =>
        obtain ⟨t', ts', hcons', -, -, helse⟩ := exists_tokens_eq_cons y
        rw [bodyTokens, hcons'] at hs
        rw [hs.1]
        exact helse
    have hfirst := h.statement hx (by omega) htokens fun _ => hnext
    have hrest := ih hmore (k := k) (by omega) (by rw [hcons, List.length_cons] at hk; omega) hs
    have hdepth : bodyDepth (x :: ss) ≤ n ↔ x.depth ≤ n ∧ bodyDepth ss ≤ n := by
      rw [bodyDepth]
      omega
    rw [hdepth]
    refine .unlessEat (htoken ▸ hbrace) (.token htoken ?_)
    rw [if_neg hend]
    exact hfirst.bind (hrest.finish rfl)

/-- A function is read back, where its name is there if it has to be. -/
theorem function_rereads {nameOptional : Bool} {f : Function} (hf : f.Proper known)
    (hname : nameOptional = true ∨ f.name ≠ none) (hlimit : f.tokens.length ≤ limit)
    (hs : s.Starts f.tokens u) : Rereads (f.depth ≤ n) (function limit inner nameOptional) s f u := by
  obtain ⟨name, params, rest, body⟩ := f
  obtain ⟨-, -, -, hbody⟩ := hf
  change ∀ x ∈ body, x.Proper known false at hbody
  have hdepth : (FunctionOf.mk name params rest body).depth = bodyDepth body := by
    simp only [FunctionOf.depth]
  rw [FunctionOf.tokens] at hs hlimit
  simp only [List.length_cons, List.length_append] at hlimit
  obtain ⟨hword, -, hs⟩ := hs
  have hafter : ∀ {t : Tokens}, t.Starts (.punctuator .leftParen :: (parameterTokens params rest ++
        .punctuator .rightParen :: .punctuator .leftBrace :: (bodyTokens body ++
          [.punctuator .rightBrace]))) u →
      Rereads (bodyDepth body ≤ n)
        (do
          expect .leftParen
          let ps ← parameters limit
          expect .rightParen
          let body ← braced limit inner false
          return (⟨name, ps.1, ps.2, body⟩ : Function)) t ⟨name, params, rest, body⟩ u := by
    rintro t ⟨hopen, -, hs⟩
    rw [Tokens.starts_append] at hs
    obtain ⟨v, hparams, hclose, -, hbrace, -, hstatements⟩ := hs
    have hread := statements_rereads h hbody (k := limit) (by omega) (by omega) hstatements
    have hparameters := (parameters_eq (k := limit) (by omega) hparams hclose).read trivial
    refine .step (expect_eq hopen) (.step hparameters (.step (expect_eq hclose) ?_))
    exact Rereads.finish (.step (expect_eq hbrace) hread) rfl
  rw [hdepth]
  refine .step rfl ?_
  rw [if_pos hword]
  refine .advance ?_
  cases name with
  | some m =>
    obtain ⟨hidentifier, -, hs⟩ := hs
    exact .token hidentifier (.advance (hafter hs))
  | none =>
    have hoptional : nameOptional = true := hname.resolve_right (by simp)
    refine .token hs.1 ?_
    dsimp only
    rw [if_pos hoptional]
    exact hafter hs

omit h in
theorem commaRest_eq (hu : u.current.token ≠ .punctuator .comma) (k : Nat) :
    commaRest inner k u = .ok ([], u) := by
  cases k with
  | zero => rfl
  | succ k =>
    have hread : Rereads True (commaRest inner (k + 1)) u [] u := .unlessEat hu (.of_eq rfl)
    exact hread.read trivial

omit h in
/-- An assignment is an expression where no comma follows. -/
theorem expression_of_assignment {fits : Prop} {e : Expr} (h : Rereads fits inner.assignment s e u)
    (hu : u.current.token ≠ .punctuator .comma) : Rereads fits (expression limit inner) s e u :=
  (h.bind (.step (commaRest_eq hu limit) (.of_eq rfl))).congr (by simp)

/-- An expression in parentheses is read as an expression where no comma follows. -/
theorem expression_parens {e : Expr} (he : e.Proper known)
    (hlimit : (parens e.tokens).length ≤ limit) (hs : s.Starts (parens e.tokens) u)
    (hu : u.current.token.EndsAssignment) (hcomma : u.current.token ≠ .punctuator .comma) :
    Rereads (e.depth < n) (expression limit inner) s e u :=
  expression_of_assignment (h.assignment he hlimit hs hu) hcomma

omit h in
theorem memberName_eq {name : String} (hs : s.current.token = Lexer.word name) :
    memberName s = .ok (name, s.next) := by
  have hread : Rereads True memberName s name s.next := by
    refine .step rfl ?_
    rw [hs, Lexer.word]
    cases hword : Keyword.ofText? name with
    | none => exact .advance (.of_eq rfl)
    | some k =>
      have htext : k.text = name := by simpa [Keyword.ofText?] using List.find?_some hword
      exact .advance (.of_eq (htext ▸ rfl))
  exact hread.read trivial

end Level

/-- Whether an expression is read as an operand without prefix and update operators. -/
def isOperand : Expr → Bool
  | .unary _ _ | .update _ _ _ | .binary _ _ _ | .logical _ _ _ | .conditional _ _ _
  | .assign _ _ _ | .sequence _ => false
  | _ => true

section Operands

variable (h : NestedRereads known limit n inner)

include h

/-- An expression in parentheses is read back with what stands after it as an operand. -/
theorem unary_suffixed {fits : Prop} {e₀ e : Expr} {v : Tokens} (he₀ : e₀.Proper known)
    (hlimit : (parens e₀.tokens).length ≤ limit) (hs : s.Starts (parens e₀.tokens) v)
    (hmore : Rereads fits (suffixes limit inner limit e₀) v e u) (hu : u.current.token.EndsOperand) :
    Rereads (e₀.depth ≤ n ∧ fits) (unary limit inner) s e u :=
  unary_of_postfixed (token_of_parens hs) rfl rfl
    (postfixed_rereads (primary_parens h he₀ hlimit hs) hmore hu.update)

theorem member_rereads {owner : Expr} {name : String} (howner : owner.Proper known)
    (hlimit : (Expr.member owner name).tokens.length ≤ limit)
    (hs : s.Starts (Expr.member owner name).tokens u) (hu : u.current.token.EndsOperand) :
    Rereads (owner.depth ≤ n) (unary limit inner) s (.member owner name) u := by
  rw [Expr.tokens] at hs hlimit
  simp only [List.length_append, List.length_cons] at hlimit
  obtain ⟨v, howner', hdot, -, hname, -, rfl⟩ := Tokens.starts_append.mp hs
  have hmore : Rereads True (suffixes limit inner limit owner) v (.member owner name) v.next.next := by
    obtain ⟨k, rfl⟩ : ∃ m, limit = m + 1 := ⟨limit - 1, by omega⟩
    exact .ifEat hdot (.step (memberName_eq hname) (.of_eq (suffixes_eq hu.toEndsSuffixes k)))
  exact (unary_suffixed h howner (by omega) howner' hmore hu).congr (by simp)

theorem index_rereads {owner key : Expr} (howner : owner.Proper known) (hkey : key.Proper known)
    (hlimit : (Expr.index owner key).tokens.length ≤ limit)
    (hs : s.Starts (Expr.index owner key).tokens u) (hu : u.current.token.EndsOperand) :
    Rereads (owner.depth ≤ n ∧ key.depth < n) (unary limit inner) s (.index owner key) u := by
  rw [Expr.tokens] at hs hlimit
  simp only [List.length_append, List.length_cons] at hlimit
  obtain ⟨v, howner', hbracket, -, hs⟩ := Tokens.starts_append.mp hs
  obtain ⟨w, hkey', hclose, -, rfl⟩ := Tokens.starts_append.mp hs
  have hread := expression_parens h hkey (by omega) hkey' (hclose ▸ endsAssignment_of_mem (by simp))
    (by simp [hclose])
  have hmore : Rereads (key.depth < n) (suffixes limit inner limit owner) v (.index owner key)
      w.next := by
    obtain ⟨k, rfl⟩ : ∃ m, limit = m + 1 := ⟨limit - 1, by omega⟩
    exact .unlessEat (by simp [hbracket]) <| .ifEat hbracket <| hread.finish <|
      (Rereads.step (expect_eq hclose) (.of_eq (suffixes_eq hu.toEndsSuffixes k))).read trivial
  exact unary_suffixed h howner (by omega) howner' hmore hu

theorem call_rereads {callee : Expr} {arguments : List Expr} (hcallee : callee.Proper known)
    (harguments : ∀ a ∈ arguments, a.Proper known)
    (hlimit : (Expr.call callee arguments).tokens.length ≤ limit)
    (hs : s.Starts (Expr.call callee arguments).tokens u) (hu : u.current.token.EndsOperand) :
    Rereads (callee.depth ≤ n ∧ itemDepth arguments ≤ n) (unary limit inner) s
      (.call callee arguments) u := by
  rw [Expr.tokens] at hs hlimit
  simp only [List.length_append, List.length_cons] at hlimit
  obtain ⟨v, hcallee', hparen, -, hs⟩ := Tokens.starts_append.mp hs
  have hread := list_rereads h (Or.inl rfl) harguments (k := limit) (by omega) (by omega) hs
  have hmore : Rereads (itemDepth arguments ≤ n) (suffixes limit inner limit callee) v
      (.call callee arguments) u := by
    obtain ⟨k, rfl⟩ : ∃ m, limit = m + 1 := ⟨limit - 1, by omega⟩
    exact .unlessEat (by simp [hparen]) <| .unlessEat (by simp [hparen]) <| .ifEat hparen <|
      hread.finish (suffixes_eq hu.toEndsSuffixes k)
  exact unary_suffixed h hcallee (by omega) hcallee' hmore hu

/-- An operand without prefix and update operators is read back where it ends. -/
theorem unary_rereads {e : Expr} (he : e.Proper known) (hoperand : isOperand e = true)
    (hlimit : e.tokens.length ≤ limit) (hs : s.Starts e.tokens u)
    (hu : u.current.token.EndsOperand) : Rereads (e.depth ≤ n + 1) (unary limit inner) s e u := by
  have hprimary : ∀ {fits : Prop} {t : Token}, s.current.token = t → UnaryOp.ofToken? t = none →
      UpdateOp.ofToken? t = none → (e.depth ≤ n + 1 ↔ fits) →
      Rereads fits (primary limit inner) s e u → Rereads (e.depth ≤ n + 1) (unary limit inner) s e u :=
    fun htoken hunary hupdate hdepth hread =>
      (unary_of_postfixed htoken hunary hupdate (postfixed_of_primary hread hu)).congr hdepth
  cases he with
  | number | string | null | identifier =>
    obtain ⟨htoken, -, rfl⟩ := hs
    exact hprimary htoken rfl rfl (by simp [Expr.depth]) (.token htoken (.advance (.of_eq rfl)))
  | boolean b =>
    obtain ⟨htoken, -, rfl⟩ := hs
    cases b <;>
      exact hprimary htoken rfl rfl (by simp [Expr.depth]) (.token htoken (.advance (.of_eq rfl)))
  | array hitems =>
    rw [Expr.tokens] at hs hlimit
    rw [List.length_cons, List.length_append, List.length_singleton] at hlimit
    obtain ⟨htoken, -, hs⟩ := hs
    have hread := list_rereads h (Or.inr rfl) hitems (k := limit) (by omega) (by omega) hs
    exact hprimary htoken rfl rfl (by simp [Expr.depth]) (.token htoken (.advance (hread.finish rfl)))
  | object hproperties =>
    rw [Expr.tokens] at hs hlimit
    rw [List.length_cons, List.length_append, List.length_singleton] at hlimit
    obtain ⟨htoken, -, hs⟩ := hs
    have hread := properties_rereads h hproperties (k := limit) (by omega) (by omega) hs
    exact hprimary htoken rfl rfl (by simp [Expr.depth]) (.token htoken (.advance (hread.finish rfl)))
  | @function f hf =>
    rw [Expr.tokens] at hs hlimit
    have htoken : s.current.token = .keyword .functionWord := by
      rw [f.tokens_eq] at hs
      exact hs.1
    have hread := function_rereads h hf (Or.inl rfl : true = true ∨ _) hlimit hs
    exact hprimary htoken rfl rfl (by simp [Expr.depth]) (.token htoken (hread.finish rfl))
  | member howner =>
    exact (member_rereads h howner hlimit hs hu).congr (by simp [Expr.depth])
  | index howner hkey =>
    refine (index_rereads h howner hkey hlimit hs hu).congr ?_
    rw [Expr.depth]
    omega
  | call hcallee harguments =>
    refine (call_rereads h hcallee harguments hlimit hs hu).congr ?_
    rw [Expr.depth]
    omega
  | unary => cases hoperand
  | update => cases hoperand
  | join o => cases o <;> cases hoperand
  | conditional => cases hoperand
  | assign => cases hoperand
  | sequence => cases hoperand

/-- An operator between two operands in parentheses joins them. -/
theorem chain_rereads {o : Infix} {left right : Expr} (hleft : left.Proper known)
    (hright : right.Proper known) (hlimit : (o.join left right).tokens.length ≤ limit)
    (hs : s.Starts (o.join left right).tokens u) (hu : u.current.token.EndsChain) :
    Rereads (left.depth ≤ n ∧ right.depth ≤ n) (chain limit inner Infix.loosest) s
      (o.join left right) u := by
  have htokens : (o.join left right).tokens =
      parens left.tokens ++ .punctuator o.punctuator :: parens right.tokens := by
    cases o <;> rw [Infix.join, Expr.tokens]
  rw [htokens, List.length_append, List.length_cons] at hlimit
  rw [htokens, Tokens.starts_append] at hs
  obtain ⟨v, hs, hoperator, -, hs'⟩ := hs
  have hends : v.current.token.EndsOperand := hoperator ▸ endsOperand_infix o
  have hpos := o.looseness_pos
  obtain ⟨looseness, hlooseness⟩ : ∃ m, o.looseness = m + 1 := ⟨o.looseness - 1, by omega⟩
  obtain ⟨k, rfl⟩ : ∃ m, limit = m + 1 := ⟨limit - 1, by omega⟩
  have hfirst : Rereads (left.depth ≤ n) (chain (k + 1) inner looseness) s left v := by
    refine chain_of_operand (unary_parens h hleft (by omega) hs hends) fun j hj => ?_
    rw [hoperator]
    exact infixAt?_eq_none (by omega)
  have hsecond : Rereads (right.depth ≤ n) (chain (k + 1) inner looseness) v.next right u :=
    chain_of_operand (unary_parens h hright (by omega) hs' hu.toEndsOperand) fun j _ => hu.infixes j
  have hfound : infixAt? (looseness + 1) v.current.token = some o := by
    rw [hoperator]
    simp [infixAt?, o.ofPunctuator?_punctuator, hlooseness]
  have hle : looseness + 1 ≤ Infix.loosest := hlooseness ▸ o.looseness_le_loosest
  refine chain_of_le hle ?_ hu.infixes
  refine hfirst.bind (.token rfl ?_)
  rw [hfound]
  exact .advance (hsecond.finish (chainRest_eq (hu.infixes _) _ k))

/-- What can be assigned to is read back before the operator of the assignment. -/
theorem conditional_target {e : Expr} (he : e.Proper known) (ht : e.isTarget = true)
    (hlimit : e.tokens.length ≤ limit) (hs : s.Starts e.tokens u) (hu : u.current.token.EndsChain)
    (hquestion : u.current.token ≠ .punctuator .question) :
    Rereads (e.depth ≤ n + 1) (conditional limit inner) s e u := by
  have hoperand : isOperand e = true := by
    cases e <;> first | rfl | cases ht
  have hunary := unary_rereads h he hoperand hlimit hs hu.toEndsOperand
  exact conditional_of_chain (chain_of_operand hunary fun k _ => hu.infixes k) hquestion

/-- A prefix operator with its operand. -/
theorem unary_leading {op : UnaryOp} {e : Expr} (he : e.Proper known)
    (hlimit : (Expr.unary op e).tokens.length ≤ limit) (hs : s.Starts (Expr.unary op e).tokens u)
    (hu : u.current.token.EndsAssignment) :
    Rereads (e.depth < n) (unary limit inner) s (.unary op e) u := by
  rw [Expr.tokens] at hs hlimit
  rw [List.length_cons] at hlimit
  obtain ⟨htoken, -, hs⟩ := hs
  refine .step rfl ?_
  rw [htoken, show UnaryOp.ofToken? op.token = some op by cases op <;> rfl]
  exact .advance ((h.unary he (by omega) hs hu).finish rfl)

/-- An update operator before its target. -/
theorem unary_updateFirst {op : UpdateOp} {target : Expr} (ht : target.isTarget = true)
    (he : target.Proper known) (hlimit : (Expr.update op true target).tokens.length ≤ limit)
    (hs : s.Starts (Expr.update op true target).tokens u) (hu : u.current.token.EndsAssignment) :
    Rereads (target.depth < n) (unary limit inner) s (.update op true target) u := by
  rw [Expr.tokens] at hs hlimit
  rw [List.length_cons] at hlimit
  obtain ⟨htoken, -, hs⟩ := hs
  refine .step rfl ?_
  rw [htoken, show UnaryOp.ofToken? (.punctuator op.punctuator) = none by cases op <;> rfl]
  dsimp only
  rw [ofToken?_update]
  refine .advance ((h.unary he (by omega) hs hu).finish ?_)
  rw [if_pos ht]
  rfl

/-- An update operator after its target. -/
theorem unary_updateLast {op : UpdateOp} {target : Expr} (ht : target.isTarget = true)
    (he : target.Proper known) (hlimit : (Expr.update op false target).tokens.length ≤ limit)
    (hs : s.Starts (Expr.update op false target).tokens u) :
    Rereads (target.depth ≤ n) (unary limit inner) s (.update op false target) u := by
  rw [Expr.tokens] at hs hlimit
  rw [List.length_append] at hlimit
  obtain ⟨v, htarget, htoken, hline, rfl⟩ := Tokens.starts_append.mp hs
  have hsuffixes : suffixes limit inner limit target v = .ok (target, v) :=
    suffixes_eq (htoken ▸ endsSuffixes_update op) limit
  have hread : Rereads (target.depth ≤ n ∧ True) (postfixed limit inner) s
      (.update op false target) v.next := by
    refine .step rfl ((primary_parens h he (by omega) htarget).bind ?_)
    refine .step hsuffixes (.step rfl ?_)
    rw [htoken, ofToken?_update]
    dsimp only
    rw [hline, if_neg (by simp), if_pos ht]
    exact .advance (.of_eq rfl)
  exact (unary_of_postfixed (token_of_parens htarget) rfl rfl hread).congr (by simp)

/-- A choice between two values. -/
theorem conditional_rereads {test consequent alternate : Expr} (htest : test.Proper known)
    (hconsequent : consequent.Proper known) (halternate : alternate.Proper known)
    (hlimit : (Expr.conditional test consequent alternate).tokens.length ≤ limit)
    (hs : s.Starts (Expr.conditional test consequent alternate).tokens u)
    (hu : u.current.token.EndsAssignment) :
    Rereads (test.depth ≤ n ∧ consequent.depth < n ∧ alternate.depth < n) (conditional limit inner) s
      (.conditional test consequent alternate) u := by
  rw [Expr.tokens] at hs hlimit
  simp only [List.length_append, List.length_cons] at hlimit
  obtain ⟨v, hs, hquestion, -, hs'⟩ := Tokens.starts_append.mp hs
  obtain ⟨w, hs', hcolon, -, hs''⟩ := Tokens.starts_append.mp hs'
  have hends : v.current.token.EndsChain := hquestion ▸ endsChain_question
  have hfirst := chain_of_operand (unary_parens h htest (by omega) hs hends.toEndsOperand)
    fun k (_ : k ≤ Infix.loosest) => hends.infixes k
  have hsecond := h.assignment hconsequent (by omega) hs' (hcolon ▸ endsAssignment_of_mem (by simp))
  have hthird := h.assignment halternate (by omega) hs'' hu
  exact hfirst.bind (.ifEat hquestion (hsecond.bind (.step (expect_eq hcolon) (hthird.finish rfl))))

/-- A value that is assigned. -/
theorem assign_rereads {op : Option BinaryOp} {target value : Expr}
    (hop : ∃ t, assignmentOfToken? t = some op) (ht : target.isTarget = true)
    (htarget : target.Proper known) (hvalue : value.Proper known)
    (hlimit : (Expr.assign op target value).tokens.length ≤ limit)
    (hs : s.Starts (Expr.assign op target value).tokens u) (hu : u.current.token.EndsAssignment) :
    Rereads (target.depth ≤ n + 1 ∧ value.depth < n) (assignment limit inner) s
      (.assign op target value) u := by
  rw [Expr.tokens] at hs hlimit
  simp only [List.length_append, List.length_cons] at hlimit
  obtain ⟨v, hs, htoken, -, hs'⟩ := Tokens.starts_append.mp hs
  obtain ⟨hends, hquestion⟩ := endsChain_assignment op
  have hfirst := conditional_target h htarget ht (by omega) hs (htoken ▸ hends) (htoken ▸ hquestion)
  have hsecond := h.assignment hvalue (by omega) hs' hu
  refine .step rfl (hfirst.bind (.token htoken ?_))
  rw [assignmentOfToken?_punctuator hop]
  dsimp only
  rw [if_pos ht]
  exact .advance (hsecond.finish rfl)

/-- An assignment, or an expression without one, is read back where it ends. -/
theorem assignment_rereads {e : Expr} (he : e.Proper known) (hsequence : ∀ items, e ≠ .sequence items)
    (hlimit : e.tokens.length ≤ limit) (hs : s.Starts e.tokens u)
    (hu : u.current.token.EndsAssignment) :
    Rereads (e.depth ≤ n + 1) (assignment limit inner) s e u := by
  by_cases hoperand : isOperand e = true
  · exact assignment_of_operand (unary_rereads h he hoperand hlimit hs hu.toEndsOperand) hu
  cases he with
  | unary op he =>
    refine (assignment_of_operand (unary_leading h he hlimit hs hu) hu).congr ?_
    rw [Expr.depth]
    omega
  | update op first ht he =>
    cases first with
    | true =>
      refine (assignment_of_operand (unary_updateFirst h ht he hlimit hs hu) hu).congr ?_
      rw [Expr.depth, if_pos rfl]
      omega
    | false =>
      exact (assignment_of_operand (unary_updateLast h ht he hlimit hs) hu).congr (by simp [Expr.depth])
  | join o hleft hright =>
    have hread := chain_rereads h hleft hright hlimit hs hu.toEndsChain
    refine (assignment_of_conditional (conditional_of_chain hread hu.question) hu.assignment).congr ?_
    cases o <;>
    · rw [Infix.join, Expr.depth]
      omega
  | conditional htest hconsequent halternate =>
    have hread := conditional_rereads h htest hconsequent halternate hlimit hs hu
    refine (assignment_of_conditional hread hu.assignment).congr ?_
    rw [Expr.depth]
    omega
  | assign hop ht htarget hvalue =>
    refine (assign_rereads h hop ht htarget hvalue hlimit hs hu).congr ?_
    rw [Expr.depth]
    omega
  | sequence => exact absurd rfl (hsequence _)
  | _ => exact absurd rfl hoperand

/-- An expression is read back up to the parenthesis after it. -/
theorem expression_rereads {next : Nested} (hnext : next.assignment = assignment limit inner)
    {e : Expr} (he : e.Proper known) (hlimit : e.tokens.length ≤ limit) (hs : s.Starts e.tokens u)
    (hu : u.current.token = .punctuator .rightParen) :
    Rereads (e.depth ≤ n + 1) (expression limit next) s e u := by
  have hends : u.current.token.EndsAssignment := hu ▸ endsAssignment_of_mem (by simp)
  have hparens : RereadsParens known limit (n + 1) next.assignment := by
    intro e s u he hlimit hs hu
    rw [hnext]
    exact (assignment_parens h he hlimit hs hu).congr (by omega)
  by_cases hsequence : ∃ items, e = .sequence items
  · obtain ⟨items, rfl⟩ := hsequence
    obtain ⟨first, second, more, rfl, hitems⟩ := he.exists_of_sequence
    obtain ⟨hfirst, hmore⟩ := List.forall_mem_cons.mp hitems
    rw [Expr.tokens, itemTokens_eq, commaTokens, List.length_append] at hlimit
    rw [Expr.tokens, itemTokens_eq, commaTokens] at hs
    obtain ⟨v, hs, hs'⟩ := Tokens.starts_append.mp hs
    have hread := hparens hfirst (by omega) hs (hs'.1 ▸ endsAssignment_of_mem (by simp))
    have hlong : 0 < (parens first.tokens).length := Nat.succ_pos _
    have hrest := commaRest_rereads hparens hmore (k := limit) (by omega) (by omega) hs' hu
    refine (hread.bind (hrest.finish rfl)).congr ?_
    rw [Expr.depth, itemDepth_le_iff, List.forall_mem_cons]
  · have hread := assignment_rereads h he (fun items hitems => hsequence ⟨items, hitems⟩) hlimit hs hends
    rw [← hnext] at hread
    exact expression_of_assignment hread (by simp [hu])

omit h in
/-- An identifier is read back where it ends. -/
theorem identifier_rereads {name : String} (hs : s.Starts [.identifier name] u)
    (hu : u.current.token.EndsAssignment) :
    Rereads True (assignment limit inner) s (.identifier name) u := by
  obtain ⟨htoken, -, rfl⟩ := hs
  have hread : Rereads True (primary limit inner) s (.identifier name) s.next :=
    .token htoken (.advance (.of_eq rfl))
  have hunary := unary_of_postfixed htoken rfl rfl (postfixed_of_primary hread hu.toEndsOperand)
  exact assignment_of_operand hunary hu

end Operands

end Reader

end Microtemplate.Script
