import Microtemplate.Proofs.Script.Rereading

/-!
Statements that are read back from their canonical text, and the readers of every level of nesting.
A statement that ends in a choice without an `else` is read back unless an `else` follows.
-/

namespace Microtemplate.Script

namespace Reader

open Parse

variable {known : Token → Prop} {limit n : Nat} {inner : Nested} {s u : Tokens}

theorem terminator_eq (h : s.current.token = .punctuator .semicolon) :
    terminator s = .ok ((), s.next) := by
  rw [← advance_apply]
  change (if s.current.token = .punctuator .semicolon then advance else _) s = _
  rw [if_pos h]

theorem ofToken?_keyword (kind : DeclarationKind) :
    DeclarationKind.ofToken? (.keyword kind.keyword) = some kind := by
  cases kind <;> rfl

theorem endsAssignment_of : (Token.identifier "of").EndsAssignment :=
  ⟨⟨⟨⟨by simp, by simp, by simp⟩, rfl⟩, fun _ => rfl⟩, by simp, rfl⟩

theorem endsAssignment_in : (Token.keyword .inWord).EndsAssignment :=
  ⟨⟨⟨⟨by simp, by simp, by simp⟩, rfl⟩, fun _ => rfl⟩, by simp, rfl⟩

section Level

variable (h : NestedRereads known limit n inner)

include h

theorem parenthesized_rereads {e : Expr} (he : e.Proper known)
    (hlimit : (parens e.tokens).length ≤ limit) (hs : s.Starts (parens e.tokens) u) :
    Rereads (e.depth ≤ n) (parenthesized limit inner) s e u := by
  simp only [parens, Tokens.Starts, Tokens.starts_append, List.length_cons, List.length_append]
    at hs hlimit
  obtain ⟨hopen, -, v, htokens, hclose, -, rfl⟩ := hs
  have hread := h.expression he (by omega) htokens hclose
  refine .step (expect_eq hopen) (hread.finish ?_)
  exact (Rereads.step (expect_eq hclose) (.of_eq rfl)).read trivial

/-- An initial value is read back where no declaration goes on with another one. -/
theorem initial_rereads {value : Option Expr} (hvalue : ∀ e ∈ value, e.Proper known)
    (hlimit : (initialTokens value).length ≤ limit) (hs : s.Starts (initialTokens value) u)
    (hu : u.current.token.EndsAssignment) :
    Rereads (optionDepth value ≤ n) (initial inner) s value u := by
  cases value with
  | none =>
    obtain rfl := hs
    have hassign : s.current.token ≠ .punctuator .assign := by
      intro htoken
      have hnone := hu.assignment
      rw [htoken] at hnone
      cases hnone
    exact (Rereads.unlessEat hassign (.of_eq rfl)).congr (by simp [optionDepth])
  | some e =>
    rw [initialTokens] at hs hlimit
    rw [List.length_cons] at hlimit
    obtain ⟨hassign, -, hs⟩ := hs
    exact .ifEat hassign ((h.assignment (hvalue e rfl) (by omega) hs hu).finish rfl)

theorem declaratorOf_rereads {kind : DeclarationKind} {l : Located} {name : String}
    {value : Option Expr} (hvalue : ∀ e ∈ value, e.Proper known)
    (hconstant : kind = .constant → value ≠ none) (hlimit : (initialTokens value).length ≤ limit)
    (hs : s.Starts (initialTokens value) u) (hu : u.current.token.EndsAssignment) :
    Rereads (optionDepth value ≤ n) (declaratorOf inner kind l name) s ⟨name, value⟩ u := by
  refine (initial_rereads h hvalue hlimit hs hu).finish ?_
  rw [if_neg]
  · rfl
  · rintro ⟨hkind, hnone⟩
    exact hconstant hkind (Option.isNone_iff_eq_none.mp hnone)

omit h in
/-- What follows a declared name and its value goes on with no assignment. -/
theorem endsAssignment_of_further {ds : List Declarator}
    (hs : s.Starts (furtherTokens declaratorItem ds) u)
    (hu : u.current.token.EndsAssignment) : s.current.token.EndsAssignment := by
  cases ds with
  | nil =>
    obtain rfl := hs
    exact hu
  | cons d ds => exact hs.1 ▸ endsAssignment_of_mem (by simp)

theorem declarator_rereads {kind : DeclarationKind} {d : Declarator}
    (hinitial : ∀ e ∈ d.initial, e.Proper known) (hconstant : kind = .constant → d.initial ≠ none)
    (hlimit : (declaratorItem d).length ≤ limit) (hs : s.Starts (declaratorItem d) u)
    (hu : u.current.token.EndsAssignment) :
    Rereads (optionDepth d.initial ≤ n) (declarator inner kind) s d u := by
  rw [declaratorItem, List.length_cons] at hlimit
  obtain ⟨hname, -, hs⟩ := hs
  have hread : Rereads (optionDepth d.initial ≤ n) (declaratorOf inner kind s.current d.name) s.next d u :=
    declaratorOf_rereads h hinitial hconstant (by omega) hs hu
  exact .step rfl (.step (identifier_eq hname) hread)

/-- The further names of a declaration, each after a comma. -/
theorem declaratorsRest_rereads {kind : DeclarationKind} {ds : List Declarator}
    (hinitial : ∀ d ∈ ds, ∀ e ∈ d.initial, e.Proper known)
    (hconstant : ∀ d ∈ ds, kind = .constant → d.initial ≠ none) {k : Nat}
    (hlimit : (furtherTokens declaratorItem ds).length ≤ limit)
    (hk : (furtherTokens declaratorItem ds).length < k)
    (hs : s.Starts (furtherTokens declaratorItem ds) u) (hu : u.current.token.EndsAssignment)
    (hcomma : u.current.token ≠ .punctuator .comma) :
    Rereads (∀ d ∈ ds, optionDepth d.initial ≤ n) (declaratorsRest inner kind k) s ds u := by
  rw [declaratorsRest_eq_afterCommas]
  refine .afterCommas hk (fun d hd s v htokens hnext => ?_) hs hcomma
  have hlt := length_lt_furtherTokens declaratorItem hd
  refine declarator_rereads h (hinitial d hd) (hconstant d hd) (by omega) htokens ?_
  rcases hnext with hnext | rfl
  · exact hnext ▸ endsAssignment_of_mem (by simp)
  · exact hu

omit h in
/-- Neither `of` nor `in` is here. -/
theorem eachTail_none {binding : LoopBinding} {p : Punctuator}
    (htoken : s.current.token = .punctuator p) : eachTail limit inner binding s = .ok (none, s) := by
  have hread : Rereads True (eachTail limit inner binding) s none s := by
    refine .token htoken ?_
    rw [if_neg (by simp), if_neg (by simp)]
    exact .of_eq rfl
  exact hread.read trivial

theorem eachTail_of {binding : LoopBinding} {iterable : Expr} {body : Stmt}
    (hiterable : iterable.Proper known) (hbody : body.Proper known true)
    (hlimit : (parens iterable.tokens).length + body.tokens.length ≤ limit)
    (hs : s.Starts (.identifier "of" :: (parens iterable.tokens ++
      .punctuator .rightParen :: body.tokens)) u)
    (hu : body.endsOpen = true → u.current.token ≠ .keyword .elseWord) :
    Rereads (iterable.depth < n ∧ body.depth ≤ n) (eachTail limit inner binding) s
      (some (.loopOf binding iterable body)) u := by
  obtain ⟨htoken, -, hs⟩ := hs
  obtain ⟨v, hs, hclose, -, hs'⟩ := Tokens.starts_append.mp hs
  have hvalue := h.assignment hiterable (by omega) hs (hclose ▸ endsAssignment_of_mem (by simp))
  have hstatement := h.statement hbody (by omega) hs' hu
  refine .token htoken ?_
  rw [if_pos rfl]
  exact .advance (hvalue.bind (.step (expect_eq hclose) (hstatement.finish rfl)))

theorem eachTail_in {binding : LoopBinding} {object : Expr} {body : Stmt}
    (hobject : object.Proper known) (hbody : body.Proper known true)
    (hlimit : (parens object.tokens).length + body.tokens.length ≤ limit)
    (hs : s.Starts (.keyword .inWord :: (parens object.tokens ++
      .punctuator .rightParen :: body.tokens)) u)
    (hu : body.endsOpen = true → u.current.token ≠ .keyword .elseWord) :
    Rereads (object.depth < n ∧ body.depth ≤ n) (eachTail limit inner binding) s
      (some (.loopIn binding object body)) u := by
  obtain ⟨htoken, -, hs⟩ := hs
  obtain ⟨v, hs, hclose, -, hs'⟩ := Tokens.starts_append.mp hs
  have hvalue := expression_parens h hobject (by omega) hs (hclose ▸ endsAssignment_of_mem (by simp))
    (by simp [hclose])
  have hstatement := h.statement hbody (by omega) hs' hu
  refine .token htoken ?_
  rw [if_neg (by simp), if_pos rfl]
  exact .advance (hvalue.bind (.step (expect_eq hclose) (hstatement.finish rfl)))

theorem expressionBefore_rereads {p : Punctuator} (hp : p = .semicolon ∨ p = .rightParen)
    {value : Option Expr} (hvalue : ∀ e ∈ value, e.Proper known)
    (hlimit : (optionTokens value).length ≤ limit) (hs : s.Starts (optionTokens value) u)
    (hu : u.current.token = .punctuator p) :
    Rereads (optionDepth value ≤ n) (expressionBefore limit inner p) s value u := by
  cases value with
  | none =>
    obtain rfl := hs
    refine .congr (.token hu ?_) (by simp [optionDepth] : _ ↔ True)
    rw [if_pos rfl]
    exact .of_eq rfl
  | some e =>
    have hopen : Token.punctuator .leftParen ≠ .punctuator p := by
      rcases hp with rfl | rfl <;> simp
    have hends : u.current.token.EndsAssignment := by
      rw [hu]
      rcases hp with rfl | rfl <;> exact endsAssignment_of_mem (by simp)
    have hcomma : u.current.token ≠ .punctuator .comma := by
      rw [hu]
      rcases hp with rfl | rfl <;> simp
    refine .token (token_of_parens hs) ?_
    rw [if_neg hopen]
    exact (expression_parens h (hvalue e rfl) hlimit hs hends hcomma).finish rfl

/-- A loop with three parts is read back after the first of them. -/
theorem loopTail_rereads {first : Option Stmt} {test update : Option Expr} {body : Stmt}
    (htest : ∀ e ∈ test, e.Proper known) (hupdate : ∀ e ∈ update, e.Proper known)
    (hbody : body.Proper known true)
    (hlimit : (optionTokens test).length + (optionTokens update).length + body.tokens.length ≤ limit)
    (hs : s.Starts (.punctuator .semicolon :: (optionTokens test ++ .punctuator .semicolon ::
      (optionTokens update ++ .punctuator .rightParen :: body.tokens))) u)
    (hu : body.endsOpen = true → u.current.token ≠ .keyword .elseWord) :
    Rereads (optionDepth test ≤ n ∧ optionDepth update ≤ n ∧ body.depth ≤ n)
      (loopTail limit inner first) s (.loop first test update body) u := by
  obtain ⟨hsemicolon, -, hs⟩ := hs
  obtain ⟨v, hs, hsemicolon', -, hs'⟩ := Tokens.starts_append.mp hs
  obtain ⟨w, hs', hclose, -, hs''⟩ := Tokens.starts_append.mp hs'
  have hfirst := expressionBefore_rereads h (Or.inl rfl) htest (by omega) hs hsemicolon'
  have hsecond := expressionBefore_rereads h (Or.inr rfl) hupdate (by omega) hs' hclose
  have hstatement := h.statement hbody (by omega) hs'' hu
  exact .step (expect_eq hsemicolon) <| hfirst.bind <| .step (expect_eq hsemicolon') <|
    hsecond.bind <| .step (expect_eq hclose) <| hstatement.finish rfl

/-- A loop over elements or keys is read back after its binding. -/
theorem loop_each {binding : LoopBinding} {fits : Prop} {x : Stmt} {v : Tokens}
    (hs : s.Starts (.punctuator .leftParen :: binding.tokens) v)
    (hv : v.current.token.EndsAssignment) (hcomma : v.current.token ≠ .punctuator .comma)
    (hfits : fits → 0 < n) (heach : Rereads fits (eachTail limit inner binding) v (some x) u) :
    Rereads fits (loop limit inner) s x u := by
  obtain ⟨hopen, -, hs⟩ := hs
  cases binding with
  | declare kind name =>
    obtain ⟨hkind, -, hname, -, rfl⟩ := hs
    refine .step (expect_eq hopen) (.token hkind ?_)
    rw [ofToken?_keyword]
    exact .advance (.step (identifier_eq hname) (heach.finish rfl))
  | assign name =>
    have hname : s.next.current.token = .identifier name := hs.1
    have hread : Rereads (0 < n) (expression limit inner) s.next (.identifier name) v :=
      expression_of_assignment (h.identifier hs hv) hcomma
    have hboth : fits ↔ 0 < n ∧ fits := ⟨fun h => ⟨hfits h, h⟩, fun h => h.2⟩
    rw [hboth]
    refine .step (expect_eq hopen) (.token hname ?_)
    rw [show DeclarationKind.ofToken? (.identifier name) = none from rfl]
    dsimp only
    rw [if_neg (by simp)]
    exact hread.bind (heach.finish rfl)

omit h in
/-- A punctuator follows a declared name: that of its value, a comma, or what comes after them all. -/
theorem exists_punctuator_of_initial {value : Option Expr} {ds : List Declarator} {v w : Tokens}
    (hs : s.Starts (initialTokens value) v) (hv : v.Starts (furtherTokens declaratorItem ds) w)
    {p : Punctuator} (hw : w.current.token = .punctuator p) :
    ∃ q, s.current.token = .punctuator q := by
  cases value with
  | some e =>
    rw [initialTokens] at hs
    exact ⟨_, hs.1⟩
  | none =>
    obtain rfl := hs
    cases ds with
    | cons d ds => exact ⟨_, hv.1⟩
    | nil =>
      obtain rfl := hv
      exact ⟨p, hw⟩

/-- A loop with three parts is read back from its head. -/
theorem loop_rereads {initial : Option Stmt} {test update : Option Expr} {body : Stmt}
    (hhead : ∀ x ∈ initial, x.isInitial = true) (hinitial : ∀ x ∈ initial, x.Proper known false)
    (htest : ∀ e ∈ test, e.Proper known) (hupdate : ∀ e ∈ update, e.Proper known)
    (hbody : body.Proper known true)
    (hlimit : (headTokens initial).length + (optionTokens test).length +
      (optionTokens update).length + body.tokens.length < limit)
    (hs : s.Starts (.punctuator .leftParen :: (headTokens initial ++ .punctuator .semicolon ::
      (optionTokens test ++ .punctuator .semicolon :: (optionTokens update ++
        .punctuator .rightParen :: body.tokens)))) u)
    (hu : body.endsOpen = true → u.current.token ≠ .keyword .elseWord) :
    Rereads (headDepth initial ≤ n ∧ optionDepth test ≤ n ∧ optionDepth update ≤ n ∧ body.depth ≤ n)
      (loop limit inner) s (.loop initial test update body) u := by
  obtain ⟨hopen, -, hs⟩ := hs
  obtain ⟨v, hs, hs'⟩ := Tokens.starts_append.mp hs
  have hsemicolon : v.current.token = .punctuator .semicolon := hs'.1
  have hends : v.current.token.EndsAssignment := hsemicolon ▸ endsAssignment_of_mem (by simp)
  have htail : Rereads (optionDepth test ≤ n ∧ optionDepth update ≤ n ∧ body.depth ≤ n)
      (loopTail limit inner initial) v (.loop initial test update body) u :=
    loopTail_rereads h htest hupdate hbody (by omega) hs' hu
  refine .step (expect_eq hopen) ?_
  cases initial with
  | none =>
    obtain rfl := hs
    have hnone : headDepth none ≤ n := by simp [headDepth]
    rw [and_iff_right hnone]
    refine .token hsemicolon ?_
    rw [show DeclarationKind.ofToken? (.punctuator .semicolon) = none from rfl]
    dsimp only
    rw [if_pos rfl]
    exact htail
  | some x =>
    have hx := hinitial x rfl
    cases x with
    | declaration kind ds =>
      obtain ⟨d, ds, rfl, hvalues, hconstants⟩ := hx.exists_of_declaration
      obtain ⟨hvalue, hvalues⟩ := List.forall_mem_cons.mp hvalues
      obtain ⟨hconstant, hconstants⟩ := List.forall_mem_cons.mp hconstants
      rw [headTokens, declaratorTokens_eq, commaTokens, declaratorItem] at hs hlimit
      simp only [List.length_cons, List.length_append] at hlimit
      obtain ⟨hkind, -, hname, -, hs⟩ := hs
      obtain ⟨w, hs, hs'⟩ := Tokens.starts_append.mp hs
      have hfirst : Rereads (optionDepth d.initial ≤ n)
          (declaratorOf inner kind s.next.next.next.current d.name) s.next.next.next d w :=
        declaratorOf_rereads h hvalue hconstant (by omega) hs (endsAssignment_of_further hs' hends)
      have hmore := declaratorsRest_rereads h hvalues hconstants (k := limit) (by omega) (by omega) hs'
        hends (by simp [hsemicolon])
      have hdepth : headDepth (some (.declaration kind (d :: ds))) ≤ n ↔
          optionDepth d.initial ≤ n ∧ ∀ d' ∈ ds, optionDepth d'.initial ≤ n := by
        rw [headDepth, declaratorDepth_le_iff, List.forall_mem_cons]
      rw [hdepth, and_assoc]
      refine .token hkind ?_
      rw [ofToken?_keyword]
      obtain ⟨p, hp⟩ := exists_punctuator_of_initial hs hs' hsemicolon
      refine .advance (.step (identifier_eq hname) (.step (eachTail_none hp) ?_))
      exact .step rfl (hfirst.bind (hmore.bind htail))
    | expression e =>
      have he : e.Proper known := hx.of_expression
      rw [headTokens] at hs hlimit
      have hread := expression_parens h he (by omega) hs hends (by simp [hsemicolon])
      refine .token (token_of_parens hs) ?_
      rw [show DeclarationKind.ofToken? (.punctuator .leftParen) = none from rfl]
      dsimp only
      rw [if_neg (by simp)]
      refine hread.bind ?_
      cases e with
      | identifier name => exact .step (eachTail_none hsemicolon) htail
      | _ => exact htail
    | _ => exact absurd (hhead _ rfl) Bool.noConfusion

theorem returned_rereads {value : Option Expr} (hvalue : ∀ e ∈ value, e.Proper known)
    (hlimit : (optionTokens value).length ≤ limit)
    (hs : s.Starts (optionTokens value ++ [.punctuator .semicolon]) u) :
    Rereads (optionDepth value ≤ n) (returned limit inner) s (.returning value) u := by
  obtain ⟨v, htokens, hsemicolon, -, rfl⟩ := Tokens.starts_append.mp hs
  have hend : Rereads True (do terminator; return Stmt.returning value) v (.returning value) v.next :=
    .step (terminator_eq hsemicolon) (.of_eq rfl)
  refine .step rfl ?_
  dsimp only
  cases value with
  | none =>
    obtain rfl := htokens
    rw [if_pos (by simp [hsemicolon])]
    exact hend.congr (by simp [optionDepth])
  | some e =>
    have htoken := token_of_parens htokens
    have hline := htokens.2.1
    rw [if_neg (by simp [endsStatement, hline, htoken])]
    have hread := expression_parens h (hvalue e rfl) hlimit htokens
      (hsemicolon ▸ endsAssignment_of_mem (by simp)) (by simp [hsemicolon])
    have hmap : Rereads (e.depth < n) (some <$> expression limit inner) s (some e) v := by
      rw [← bind_pure_comp]
      exact hread.finish rfl
    refine (hmap.bind hend).congr ?_
    rw [optionDepth, and_true]
    exact Iff.rfl

theorem expressionStatement_rereads {e : Expr} (he : e.Proper known)
    (hlimit : (parens e.tokens).length ≤ limit)
    (hs : s.Starts (parens e.tokens ++ [.punctuator .semicolon]) u) :
    Rereads (e.depth < n) (expressionStatement limit inner) s (.expression e) u := by
  obtain ⟨v, htokens, hsemicolon, -, rfl⟩ := Tokens.starts_append.mp hs
  have hread := expression_parens h he hlimit htokens (hsemicolon ▸ endsAssignment_of_mem (by simp))
    (by simp [hsemicolon])
  exact hread.finish ((Rereads.step (terminator_eq hsemicolon) (.of_eq rfl)).read trivial)

theorem declarators_rereads {kind : DeclarationKind} {d : Declarator} {ds : List Declarator}
    (hinitial : ∀ d' ∈ d :: ds, ∀ e ∈ d'.initial, e.Proper known)
    (hconstant : ∀ d' ∈ d :: ds, kind = .constant → d'.initial ≠ none)
    (hlimit : (declaratorTokens (d :: ds)).length ≤ limit)
    (hs : s.Starts (declaratorTokens (d :: ds)) u) (hu : u.current.token.EndsAssignment)
    (hcomma : u.current.token ≠ .punctuator .comma) :
    Rereads (declaratorDepth (d :: ds) ≤ n) (declarators limit inner kind) s (d :: ds) u := by
  obtain ⟨hvalue, hvalues⟩ := List.forall_mem_cons.mp hinitial
  obtain ⟨hfirst, hmore⟩ := List.forall_mem_cons.mp hconstant
  rw [declaratorTokens_eq, commaTokens] at hs hlimit
  rw [List.length_append] at hlimit
  obtain ⟨v, hs, hs'⟩ := Tokens.starts_append.mp hs
  have hlong : 0 < (declaratorItem d).length := Nat.succ_pos _
  have hd := declarator_rereads h hvalue hfirst (by omega) hs (endsAssignment_of_further hs' hu)
  have hds := declaratorsRest_rereads h hvalues hmore (k := limit) (by omega) (by omega) hs' hu hcomma
  rw [declaratorDepth_le_iff, List.forall_mem_cons, declarators_eq]
  exact hd.bind (hds.finish rfl)

omit h in
/-- A statement that starts with a keyword other than those of declarations. -/
theorem statement_of_keyword {inLoop : Bool} {fits : Prop} {x : Stmt} {k : Keyword}
    (htoken : s.current.token = .keyword k) (hkind : DeclarationKind.ofToken? (.keyword k) = none)
    (hread : Rereads fits (keywordStatement limit inner inLoop s.current k) s x u) :
    Rereads fits (statement limit inner inLoop) s x u := by
  refine .step rfl ?_
  rw [htoken, hkind]
  exact hread

theorem declaration_rereads {inLoop : Bool} {kind : DeclarationKind} {d : Declarator}
    {ds : List Declarator} (hinitial : ∀ d' ∈ d :: ds, ∀ e ∈ d'.initial, e.Proper known)
    (hconstant : ∀ d' ∈ d :: ds, kind = .constant → d'.initial ≠ none)
    (hlimit : (Stmt.declaration kind (d :: ds)).tokens.length ≤ limit)
    (hs : s.Starts (Stmt.declaration kind (d :: ds)).tokens u) :
    Rereads (declaratorDepth (d :: ds) ≤ n) (statement limit inner inLoop) s
      (.declaration kind (d :: ds)) u := by
  rw [Stmt.tokens] at hs hlimit
  simp only [List.length_cons, List.length_append, List.length_nil] at hlimit
  obtain ⟨hkind, -, hs⟩ := hs
  obtain ⟨v, htokens, hsemicolon, -, rfl⟩ := Tokens.starts_append.mp hs
  have hread := declarators_rereads h hinitial hconstant (by omega) htokens
    (hsemicolon ▸ endsAssignment_of_mem (by simp)) (by simp [hsemicolon])
  refine .step rfl ?_
  rw [hkind, ofToken?_keyword]
  exact .advance (hread.finish ((Rereads.step (terminator_eq hsemicolon) (.of_eq rfl)).read trivial))

/-- A choice is read back after its keyword. -/
theorem branch_rereads {inLoop : Bool} {test : Expr} {consequent : Stmt} {alternate : Option Stmt}
    (htest : test.Proper known) (hconsequent : consequent.Proper known inLoop)
    (hclosed : alternate ≠ none → consequent.endsOpen = false)
    (halternate : ∀ x ∈ alternate, x.Proper known inLoop)
    (hlimit : (parens test.tokens).length + consequent.tokens.length +
      (alternateTokens alternate).length ≤ limit)
    (hs : s.Starts (parens test.tokens ++ (consequent.tokens ++ alternateTokens alternate)) u)
    (hu : (Stmt.branch test consequent alternate).endsOpen = true →
      u.current.token ≠ .keyword .elseWord) :
    Rereads (test.depth ≤ n ∧ consequent.depth ≤ n ∧ alternateDepth alternate ≤ n)
      (branch limit inner inLoop) s (.branch test consequent alternate) u := by
  obtain ⟨v, hhead, hs⟩ := Tokens.starts_append.mp hs
  obtain ⟨w, hthen, hafter⟩ := Tokens.starts_append.mp hs
  have hfirst := parenthesized_rereads h htest (by omega) hhead
  cases alternate with
  | none =>
    obtain rfl := hafter
    have helse := hu (by simp [Stmt.endsOpen, endsOpenOption])
    have hsecond := h.statement hconsequent (by omega) hthen fun _ => helse
    have hend : Rereads True (do
        if ← eat (.keyword .elseWord) then
          return Stmt.branch test consequent (some (← inner.statement inLoop))
        else return .branch test consequent none) w (.branch test consequent none) w :=
      .unlessEat helse (.of_eq rfl)
    exact (hfirst.bind (hsecond.bind hend)).congr (by simp [alternateDepth])
  | some x =>
    rw [alternateTokens, List.length_cons] at hlimit
    obtain ⟨helse, -, hs'⟩ := hafter
    have hsecond := h.statement hconsequent (by omega) hthen fun hopen => by
      simp [hclosed (by simp)] at hopen
    have hthird := h.statement (halternate x rfl) (by omega) hs' fun hopen =>
      hu (by simpa [Stmt.endsOpen, endsOpenOption] using hopen)
    exact hfirst.bind (hsecond.bind (.ifEat helse (hthird.finish rfl)))

/-- A loop over elements or keys is read back: `w` stands between its binding and the value. -/
theorem each_rereads {inLoop : Bool} {binding : LoopBinding} {w : Token} {value : Expr} {x body : Stmt}
    (hends : w.EndsAssignment) (hcomma : w ≠ .punctuator .comma)
    (heach : ∀ {v : Tokens}, v.Starts (w :: (parens value.tokens ++
        .punctuator .rightParen :: body.tokens)) u →
      Rereads (value.depth < n ∧ body.depth ≤ n) (eachTail limit inner binding) v (some x) u)
    (hs : s.Starts (.keyword .forWord :: .punctuator .leftParen :: (binding.tokens ++
      w :: (parens value.tokens ++ .punctuator .rightParen :: body.tokens))) u) :
    Rereads (value.depth < n ∧ body.depth ≤ n) (statement limit inner inLoop) s x u := by
  obtain ⟨htoken, -, hs⟩ := hs
  rw [← List.cons_append] at hs
  obtain ⟨v, hs, hs'⟩ := Tokens.starts_append.mp hs
  refine statement_of_keyword htoken rfl (.advance ?_)
  exact loop_each h hs (hs'.1 ▸ hends) (hs'.1 ▸ hcomma) (fun hfits => by omega) (heach hs')

/-- A value in parentheses and a body. -/
theorem headed_rereads {inLoop : Bool} {f : Expr → Stmt → Stmt} {e : Expr} {body : Stmt}
    (he : e.Proper known) (hbody : body.Proper known inLoop)
    (hlimit : (parens e.tokens).length + body.tokens.length ≤ limit)
    (hs : s.Starts (parens e.tokens ++ body.tokens) u)
    (hu : body.endsOpen = true → u.current.token ≠ .keyword .elseWord) :
    Rereads (e.depth ≤ n ∧ body.depth ≤ n)
      (do
        let e ← parenthesized limit inner
        return f e (← inner.statement inLoop)) s (f e body) u := by
  obtain ⟨v, hs, hs'⟩ := Tokens.starts_append.mp hs
  have hfirst := parenthesized_rereads h he (by omega) hs
  have hsecond := h.statement hbody (by omega) hs' hu
  exact hfirst.bind (hsecond.finish rfl)

theorem block_rereads {inLoop : Bool} {body : List Stmt} (hbody : ∀ x ∈ body, x.Proper known inLoop)
    (hlimit : (Stmt.block body).tokens.length ≤ limit) (hs : s.Starts (Stmt.block body).tokens u) :
    Rereads (bodyDepth body ≤ n) (statement limit inner inLoop) s (.block body) u := by
  rw [Stmt.tokens] at hs hlimit
  simp only [List.length_cons, List.length_append, List.length_nil] at hlimit
  obtain ⟨hbrace, -, hs⟩ := hs
  have hread := statements_rereads h hbody (k := limit) (by omega) (by omega) hs
  refine .step rfl ?_
  rw [hbrace]
  exact Rereads.finish (.step (expect_eq hbrace) hread) rfl

/-- A statement is read back unless it ends in a choice and an `else` follows. -/
theorem statement_rereads {inLoop : Bool} {x : Stmt} (hx : x.Proper known inLoop)
    (hlimit : x.tokens.length ≤ limit) (hs : s.Starts x.tokens u)
    (hu : x.endsOpen = true → u.current.token ≠ .keyword .elseWord) :
    Rereads (x.depth ≤ n + 1) (statement limit inner inLoop) s x u := by
  cases hx with
  | declaration _ hinitial hconstant =>
    refine (declaration_rereads h hinitial hconstant hlimit hs).congr ?_
    rw [Stmt.depth]
    omega
  | @function _ f hf hname =>
    rw [Stmt.tokens] at hs hlimit
    have htoken : s.current.token = .keyword .functionWord := by
      rw [f.tokens_eq] at hs
      exact hs.1
    have hread := function_rereads h hf (Or.inr hname : false = true ∨ _) hlimit hs
    refine (statement_of_keyword htoken rfl (hread.finish rfl)).congr ?_
    rw [Stmt.depth]
    omega
  | branch htest hconsequent =>
    rw [Stmt.tokens] at hs hlimit
    simp only [List.length_cons, List.length_append] at hlimit
    obtain ⟨htoken, -, hs⟩ := hs
    have hread := branch_rereads h htest hconsequent (fun hsome => absurd rfl hsome) nofun (by omega)
      hs hu
    refine (statement_of_keyword htoken rfl (.advance hread)).congr ?_
    rw [Stmt.depth]
    omega
  | choice htest hconsequent hclosed halternate =>
    rw [Stmt.tokens] at hs hlimit
    simp only [List.length_cons, List.length_append] at hlimit
    obtain ⟨htoken, -, hs⟩ := hs
    have hread := branch_rereads h htest hconsequent (fun _ => hclosed)
      (fun x hx => Option.some.inj hx ▸ halternate) (by omega) hs hu
    refine (statement_of_keyword htoken rfl (.advance hread)).congr ?_
    rw [Stmt.depth]
    omega
  | loop hhead hinitial htest hupdate hbody =>
    rw [Stmt.tokens] at hs hlimit
    simp only [List.length_cons, List.length_append] at hlimit
    obtain ⟨htoken, -, hs⟩ := hs
    have hread := loop_rereads h hhead hinitial htest hupdate hbody (by omega) hs hu
    refine (statement_of_keyword htoken rfl (.advance hread)).congr ?_
    rw [Stmt.depth]
    omega
  | loopOf _ hiterable hbody =>
    rw [Stmt.tokens] at hs hlimit
    simp only [List.length_cons, List.length_append] at hlimit
    refine (each_rereads h endsAssignment_of Token.noConfusion (fun hs' => ?_) hs).congr ?_
    · exact eachTail_of h hiterable hbody (by omega) hs' hu
    · rw [Stmt.depth]
      omega
  | loopIn _ hobject hbody =>
    rw [Stmt.tokens] at hs hlimit
    simp only [List.length_cons, List.length_append] at hlimit
    refine (each_rereads h endsAssignment_in Token.noConfusion (fun hs' => ?_) hs).congr ?_
    · exact eachTail_in h hobject hbody (by omega) hs' hu
    · rw [Stmt.depth]
      omega
  | loopWhile htest hbody =>
    rw [Stmt.tokens] at hs hlimit
    simp only [List.length_cons, List.length_append] at hlimit
    obtain ⟨htoken, -, hs⟩ := hs
    have hread := headed_rereads (f := Stmt.loopWhile) h htest hbody (by omega) hs hu
    refine (statement_of_keyword htoken rfl (.advance hread)).congr ?_
    rw [Stmt.depth]
    omega
  | breakLoop | continueLoop =>
    obtain ⟨htoken, -, hsemicolon, -, rfl⟩ := hs
    refine .congr (statement_of_keyword htoken rfl (.advance ?_)) (by simp [Stmt.depth] : _ ↔ True)
    exact .step (terminator_eq hsemicolon) (.of_eq rfl)
  | returning hvalue =>
    rw [Stmt.tokens] at hs hlimit
    simp only [List.length_cons, List.length_append, List.length_nil] at hlimit
    obtain ⟨htoken, -, hs⟩ := hs
    have hread := returned_rereads h hvalue (by omega) hs
    refine (statement_of_keyword htoken rfl (.advance hread)).congr ?_
    rw [Stmt.depth]
    omega
  | within hobject hbody =>
    rw [Stmt.tokens] at hs hlimit
    simp only [List.length_cons, List.length_append] at hlimit
    obtain ⟨htoken, -, hs⟩ := hs
    have hread := headed_rereads (f := Stmt.within) h hobject hbody (by omega) hs hu
    refine (statement_of_keyword htoken rfl (.advance hread)).congr ?_
    rw [Stmt.depth]
    omega
  | block hbody =>
    refine (block_rereads h hbody hlimit hs).congr ?_
    rw [Stmt.depth]
    omega
  | empty =>
    obtain ⟨hsemicolon, -, rfl⟩ := hs
    refine .congr (.step rfl ?_) (by simp [Stmt.depth] : _ ↔ True)
    rw [hsemicolon]
    exact .advance (.of_eq rfl)
  | @expression _ e he =>
    rw [Stmt.tokens] at hs hlimit
    simp only [List.length_append, List.length_cons] at hlimit
    have htoken : s.current.token = .punctuator .leftParen := hs.1
    have hdepth : (Stmt.expression e).depth ≤ n + 1 ↔ e.depth < n := by
      rw [Stmt.depth]
      omega
    rw [hdepth]
    refine .step rfl ?_
    rw [htoken]
    exact expressionStatement_rereads h he (by omega) hs

end Level

theorem depth_pos_of_proper {e : Expr} (he : e.Proper known) : 0 < e.depth := by
  cases he with
  | sequence =>
    rw [Expr.depth, itemDepth]
    omega
  | join o => cases o <;> exact Nat.succ_pos _
  | update _ first =>
    rw [Expr.depth]
    split <;> omega
  | assign =>
    rw [Expr.depth]
    omega
  | _ => exact Nat.succ_pos _

theorem depth_pos (x : Stmt) : 0 < x.depth := by
  cases x <;> exact Nat.succ_pos _

/-- The readers of every level read back what fits the levels that are left. -/
theorem nested_rereads (known : Token → Prop) (limit n : Nat) :
    NestedRereads known limit n (nested limit n) := by
  induction n with
  | zero =>
    have hrefused : ∀ {s : Tokens}, (nested limit 0).assignment s =
        .error ⟨.nestedTooDeeply, s.current.text⟩ := rfl
    refine ⟨fun he _ _ _ => ⟨fun hfits => ?_, fun _ => ⟨_, rfl⟩⟩,
      fun _ _ _ _ => ⟨fun hfits => absurd hfits (Nat.not_lt_zero _), fun _ => ⟨_, rfl⟩⟩,
      fun _ _ _ _ => ⟨fun hfits => absurd hfits (Nat.not_lt_zero _), fun _ => ⟨_, rfl⟩⟩,
      fun _ _ => ⟨fun hfits => absurd hfits (Nat.not_lt_zero _), fun _ => ⟨_, rfl⟩⟩,
      fun {_ x} _ _ _ _ _ _ => ⟨fun hfits => ?_, fun _ => ⟨_, rfl⟩⟩⟩
    · have hpos := depth_pos_of_proper he
      omega
    · have hpos := depth_pos x
      omega
  | succ n ih =>
    refine ⟨expression_rereads ih rfl, fun he hlimit hs hu => ?_, fun he hlimit hs hu => ?_,
      fun hs hu => ?_, statement_rereads ih⟩
    · exact (assignment_parens ih he hlimit hs hu).congr Nat.lt_succ_iff
    · exact (unary_parens ih he hlimit hs hu.toEndsOperand).congr Nat.lt_succ_iff
    · exact (identifier_rereads hs hu).congr (by simp)

end Reader

end Microtemplate.Script
