import Microtemplate.Proofs.Script.ProperTree

/-!
The canonical text of a tree. Every expression inside another one or inside a statement stands in
parentheses, the target of an assignment apart; strings and the names of properties are escaped
literals, a semicolon ends every statement without a body, and a blank follows each token. Numbers
are spelled by literals that are read as them.
-/

namespace Microtemplate.Script

open Source (escapeLiteral)

/-- The punctuator of an infix operator. -/
def Infix.punctuator : Infix → Punctuator
  | .binary .multiply => .star
  | .binary .divide => .slash
  | .binary .remainder => .percent
  | .binary .add => .plus
  | .binary .subtract => .minus
  | .binary .less => .less
  | .binary .lessEqual => .lessEqual
  | .binary .greater => .greater
  | .binary .greaterEqual => .greaterEqual
  | .binary .equal => .equal
  | .binary .notEqual => .notEqual
  | .binary .strictEqual => .strictEqual
  | .binary .strictNotEqual => .strictNotEqual
  | .logical .and => .andAnd
  | .logical .or => .orOr
  | .logical .nullish => .questionQuestion

theorem Infix.ofPunctuator?_punctuator (o : Infix) : ofPunctuator? o.punctuator = some o := by
  rcases o with op | op <;> cases op <;> rfl

/-- The token of a prefix operator. -/
def UnaryOp.token : UnaryOp → Token
  | .not => .punctuator .bang
  | .negate => .punctuator .minus
  | .toNumber => .punctuator .plus
  | .typeof => .keyword .typeofWord

/-- The punctuator of an update operator. -/
def UpdateOp.punctuator : UpdateOp → Punctuator
  | .increment => .plusPlus
  | .decrement => .minusMinus

/-- The punctuator of an assignment. -/
def assignmentPunctuator : Option BinaryOp → Punctuator
  | some .add => .plusAssign
  | some .subtract => .minusAssign
  | some .multiply => .starAssign
  | some .divide => .slashAssign
  | some .remainder => .percentAssign
  | _ => .assign

/-- The keyword of a kind of declaration. -/
def DeclarationKind.keyword : DeclarationKind → Keyword
  | .functionWide => .varWord
  | .blockWide => .letWord
  | .constant => .constWord

/-- Tokens in parentheses. -/
def parens (ts : List Token) : List Token :=
  .punctuator .leftParen :: (ts ++ [.punctuator .rightParen])

/-- The tokens of the parameter that takes the rest. -/
def restTokens : Option String → List Token
  | none => []
  | some n => [.punctuator .ellipsis, .identifier n]

/-- The tokens of the parameters of a function. -/
def parameterTokens : List String → Option String → List Token
  | [], rest => restTokens rest
  | [n], none => [.identifier n]
  | n :: ns, rest => .identifier n :: .punctuator .comma :: parameterTokens ns rest

/-- The tokens of what the rounds of a loop are given to. -/
def LoopBinding.tokens : LoopBinding → List Token
  | .declare kind name => [.keyword kind.keyword, .identifier name]
  | .assign name => [.identifier name]

mutual

/-- The tokens of the canonical text of an expression that does not stand inside another one. -/
def Expr.tokens : Expr → List Token
  | .number x => [.number x]
  | .string s => [.string s]
  | .boolean b => [.keyword (if b then .trueWord else .falseWord)]
  | .null => [.keyword .nullWord]
  | .array items =>
    .punctuator .leftBracket :: (itemTokens items ++ [.punctuator .rightBracket])
  | .object properties =>
    .punctuator .leftBrace :: (propertyTokens properties ++ [.punctuator .rightBrace])
  | .function f => f.tokens
  | .identifier name => [.identifier name]
  | .member owner name => parens owner.tokens ++ [.punctuator .dot, Lexer.word name]
  | .index owner key =>
    parens owner.tokens ++ .punctuator .leftBracket :: (parens key.tokens ++ [.punctuator .rightBracket])
  | .call callee arguments =>
    parens callee.tokens ++ .punctuator .leftParen :: (itemTokens arguments ++ [.punctuator .rightParen])
  | .unary op operand => op.token :: parens operand.tokens
  | .update op true target => .punctuator op.punctuator :: parens target.tokens
  | .update op false target => parens target.tokens ++ [.punctuator op.punctuator]
  | .binary op left right =>
    parens left.tokens ++ .punctuator (Infix.binary op).punctuator :: parens right.tokens
  | .logical op left right =>
    parens left.tokens ++ .punctuator (Infix.logical op).punctuator :: parens right.tokens
  | .conditional test consequent alternate =>
    parens test.tokens ++ .punctuator .question ::
      (parens consequent.tokens ++ .punctuator .colon :: parens alternate.tokens)
  | .assign op target value =>
    target.tokens ++ .punctuator (assignmentPunctuator op) :: parens value.tokens
  | .sequence items => itemTokens items

/-- The tokens of expressions separated by commas. -/
def itemTokens : List Expr → List Token
  | [] => []
  | [e] => parens e.tokens
  | e :: es => parens e.tokens ++ .punctuator .comma :: itemTokens es

/-- The tokens of properties separated by commas. -/
def propertyTokens : List (String × Expr) → List Token
  | [] => []
  | [(key, e)] => .string key :: .punctuator .colon :: parens e.tokens
  | (key, e) :: ps =>
    .string key :: .punctuator .colon :: (parens e.tokens ++ .punctuator .comma :: propertyTokens ps)

/-- The tokens of an expression in parentheses that may be missing. -/
def optionTokens : Option Expr → List Token
  | none => []
  | some e => parens e.tokens

/-- The tokens of an initial value. -/
def initialTokens : Option Expr → List Token
  | none => []
  | some e => .punctuator .assign :: parens e.tokens

/-- The tokens of declared names separated by commas. -/
def declaratorTokens : List (DeclaratorOf Expr) → List Token
  | [] => []
  | [⟨name, value⟩] => .identifier name :: initialTokens value
  | ⟨name, value⟩ :: ds =>
    .identifier name :: (initialTokens value ++ .punctuator .comma :: declaratorTokens ds)

/-- The tokens of the canonical text of a statement. -/
def Stmt.tokens : Stmt → List Token
  | .declaration kind ds =>
    .keyword kind.keyword :: (declaratorTokens ds ++ [.punctuator .semicolon])
  | .function f => f.tokens
  | .branch test consequent alternate =>
    .keyword .ifWord :: (parens test.tokens ++ (consequent.tokens ++ alternateTokens alternate))
  | .loop initial test update body =>
    .keyword .forWord :: .punctuator .leftParen :: (headTokens initial ++ .punctuator .semicolon ::
      (optionTokens test ++ .punctuator .semicolon :: (optionTokens update ++
        .punctuator .rightParen :: body.tokens)))
  | .loopOf binding iterable body =>
    .keyword .forWord :: .punctuator .leftParen :: (binding.tokens ++ .identifier "of" ::
      (parens iterable.tokens ++ .punctuator .rightParen :: body.tokens))
  | .loopIn binding object body =>
    .keyword .forWord :: .punctuator .leftParen :: (binding.tokens ++ .keyword .inWord ::
      (parens object.tokens ++ .punctuator .rightParen :: body.tokens))
  | .loopWhile test body => .keyword .whileWord :: (parens test.tokens ++ body.tokens)
  | .breakLoop => [.keyword .breakWord, .punctuator .semicolon]
  | .continueLoop => [.keyword .continueWord, .punctuator .semicolon]
  | .returning value => .keyword .returnWord :: (optionTokens value ++ [.punctuator .semicolon])
  | .within object body => .keyword .withWord :: (parens object.tokens ++ body.tokens)
  | .block body => .punctuator .leftBrace :: (bodyTokens body ++ [.punctuator .rightBrace])
  | .empty => [.punctuator .semicolon]
  | .expression e => parens e.tokens ++ [.punctuator .semicolon]

/-- The tokens of what stands after the consequent of a choice. -/
def alternateTokens : Option Stmt → List Token
  | none => []
  | some s => .keyword .elseWord :: s.tokens

/-- The tokens of the first part of the head of a loop. -/
def headTokens : Option Stmt → List Token
  | some (.declaration kind ds) => .keyword kind.keyword :: declaratorTokens ds
  | some (.expression e) => parens e.tokens
  | _ => []

/-- The tokens of statements in a row. -/
def bodyTokens : List Stmt → List Token
  | [] => []
  | s :: ss => s.tokens ++ bodyTokens ss

/-- The tokens of the canonical text of a function. -/
def FunctionOf.tokens : FunctionOf Stmt → List Token
  | ⟨name, params, rest, body⟩ =>
    .keyword .functionWord :: (name.toList.map .identifier ++ .punctuator .leftParen ::
      (parameterTokens params rest ++ .punctuator .rightParen :: .punctuator .leftBrace ::
        (bodyTokens body ++ [.punctuator .rightBrace])))

end

section Rows

variable {α : Type} {tokens : α → List Token} {a : α} {as : List α}

/-- The tokens of things in a row, each after a comma. -/
def furtherTokens (tokens : α → List Token) : List α → List Token
  | [] => []
  | a :: as => .punctuator .comma :: (tokens a ++ furtherTokens tokens as)

/-- The tokens of things in a row, with commas between them. -/
def commaTokens (tokens : α → List Token) : List α → List Token
  | [] => []
  | a :: as => tokens a ++ furtherTokens tokens as

theorem commaTokens_cons_cons (tokens : α → List Token) (a b : α) (as : List α) :
    commaTokens tokens (a :: b :: as) =
      tokens a ++ .punctuator .comma :: commaTokens tokens (b :: as) := by
  rw [commaTokens, furtherTokens, commaTokens]

theorem length_lt_furtherTokens (tokens : α → List Token) (ha : a ∈ as) :
    (tokens a).length < (furtherTokens tokens as).length := by
  induction as with
  | nil => cases ha
  | cons b bs ih =>
    rw [furtherTokens, List.length_cons, List.length_append]
    rcases List.mem_cons.mp ha with rfl | ha
    · omega
    · have hmore := ih ha
      omega

theorem length_le_commaTokens (tokens : α → List Token) (ha : a ∈ as) :
    (tokens a).length ≤ (commaTokens tokens as).length := by
  cases as with
  | nil => cases ha
  | cons b bs =>
    rw [commaTokens, List.length_append]
    rcases List.mem_cons.mp ha with rfl | ha
    · omega
    · have hmore := length_lt_furtherTokens tokens ha
      omega

/-- A token of things in a row is a comma or one of theirs. -/
theorem forall_mem_commaTokens {P : Token → Prop} (hcomma : P (.punctuator .comma))
    (h : ∀ a ∈ as, ∀ t ∈ tokens a, P t) : ∀ t ∈ commaTokens tokens as, P t := by
  have hfurther : ∀ bs : List α, (∀ b ∈ bs, ∀ t ∈ tokens b, P t) → ∀ t ∈ furtherTokens tokens bs, P t := by
    intro bs hbs
    induction bs with
    | nil => simp [furtherTokens]
    | cons b bs ih =>
      obtain ⟨hb, hmore⟩ := List.forall_mem_cons.mp hbs
      rw [furtherTokens, List.forall_mem_cons, List.forall_mem_append]
      exact ⟨hcomma, hb, ih hmore⟩
  cases as with
  | nil => simp [commaTokens]
  | cons a as =>
    obtain ⟨ha, hmore⟩ := List.forall_mem_cons.mp h
    rw [commaTokens, List.forall_mem_append]
    exact ⟨ha, hfurther as hmore⟩

end Rows

/-- The tokens of a property. -/
def propertyItem (p : String × Expr) : List Token :=
  .string p.1 :: .punctuator .colon :: parens p.2.tokens

/-- The tokens of a declared name with its value. -/
def declaratorItem (d : Declarator) : List Token := .identifier d.name :: initialTokens d.initial

theorem itemTokens_eq (es : List Expr) : itemTokens es = commaTokens (fun e => parens e.tokens) es := by
  induction es with
  | nil => rw [itemTokens, commaTokens]
  | cons e es ih =>
    cases es with
    | nil => simp [itemTokens, commaTokens, furtherTokens]
    | cons e' es =>
      rw [itemTokens, ih, commaTokens_cons_cons]
      exact List.cons_ne_nil _ _

theorem propertyTokens_eq (ps : List (String × Expr)) :
    propertyTokens ps = commaTokens propertyItem ps := by
  induction ps with
  | nil => rw [propertyTokens, commaTokens]
  | cons p ps ih =>
    cases ps with
    | nil => simp [propertyTokens, commaTokens, furtherTokens, propertyItem]
    | cons p' ps =>
      rw [propertyTokens, ih, commaTokens_cons_cons, propertyItem, List.cons_append, List.cons_append]
      exact List.cons_ne_nil _ _

theorem declaratorTokens_eq (ds : List Declarator) :
    declaratorTokens ds = commaTokens declaratorItem ds := by
  induction ds with
  | nil => rw [declaratorTokens, commaTokens]
  | cons d ds ih =>
    cases ds with
    | nil => simp [declaratorTokens, commaTokens, furtherTokens, declaratorItem]
    | cons d' ds =>
      rw [declaratorTokens, ih, commaTokens_cons_cons, declaratorItem, List.cons_append]
      exact List.cons_ne_nil _ _

theorem FunctionOf.tokens_eq (f : Function) : f.tokens =
    .keyword .functionWord :: (f.name.toList.map .identifier ++ .punctuator .leftParen ::
      (parameterTokens f.params f.rest ++ .punctuator .rightParen :: .punctuator .leftBrace ::
        (bodyTokens f.body ++ [.punctuator .rightBrace]))) := by
  cases f
  simp only [FunctionOf.tokens]

mutual

/-- How many levels of nesting the canonical text of an expression has. Each part that is read as a
value of its own adds one for itself and one for its parentheses. -/
def Expr.depth : Expr → Nat
  | .array items => itemDepth items + 1
  | .object properties => propertyDepth properties + 1
  | .function f => f.depth + 1
  | .member owner _ => owner.depth + 1
  | .index owner key => max owner.depth (key.depth + 1) + 1
  | .call callee arguments => max callee.depth (itemDepth arguments) + 1
  | .unary _ operand => operand.depth + 2
  | .update _ first target => target.depth + (if first then 2 else 1)
  | .binary _ left right => max left.depth right.depth + 1
  | .logical _ left right => max left.depth right.depth + 1
  | .conditional test consequent alternate =>
    max test.depth (max (consequent.depth + 1) (alternate.depth + 1)) + 1
  | .assign _ target value => max target.depth (value.depth + 2)
  | .sequence items => itemDepth items
  | _ => 1

def itemDepth : List Expr → Nat
  | [] => 0
  | e :: es => max (e.depth + 1) (itemDepth es)

def propertyDepth : List (String × Expr) → Nat
  | [] => 0
  | (_, e) :: ps => max (e.depth + 1) (propertyDepth ps)

def optionDepth : Option Expr → Nat
  | none => 0
  | some e => e.depth + 1

def declaratorDepth : List (DeclaratorOf Expr) → Nat
  | [] => 0
  | ⟨_, value⟩ :: ds => max (optionDepth value) (declaratorDepth ds)

/-- How many levels of nesting the canonical text of a statement has. -/
def Stmt.depth : Stmt → Nat
  | .declaration _ ds => declaratorDepth ds + 1
  | .function f => f.depth + 1
  | .branch test consequent alternate =>
    max test.depth (max consequent.depth (alternateDepth alternate)) + 1
  | .loop initial test update body =>
    max (headDepth initial) (max (optionDepth test) (max (optionDepth update) body.depth)) + 1
  | .loopOf _ iterable body => max (iterable.depth + 1) body.depth + 1
  | .loopIn _ object body => max (object.depth + 1) body.depth + 1
  | .loopWhile test body => max test.depth body.depth + 1
  | .returning value => optionDepth value + 1
  | .within object body => max object.depth body.depth + 1
  | .block body => bodyDepth body + 1
  | .expression e => e.depth + 2
  | _ => 1

def alternateDepth : Option Stmt → Nat
  | none => 0
  | some s => s.depth

def headDepth : Option Stmt → Nat
  | some (.declaration _ ds) => declaratorDepth ds
  | some (.expression e) => e.depth + 1
  | _ => 0

def bodyDepth : List Stmt → Nat
  | [] => 0
  | s :: ss => max s.depth (bodyDepth ss)

/-- How many levels of nesting the canonical text of a function has. -/
def FunctionOf.depth : FunctionOf Stmt → Nat
  | ⟨_, _, _, body⟩ => bodyDepth body

end

theorem itemDepth_le_iff {es : List Expr} {n : Nat} : itemDepth es ≤ n ↔ ∀ e ∈ es, e.depth < n := by
  induction es with
  | nil => simp [itemDepth]
  | cons e es ih =>
    rw [itemDepth, Nat.max_le, ih, List.forall_mem_cons]
    exact Iff.rfl

theorem propertyDepth_le_iff {ps : List (String × Expr)} {n : Nat} :
    propertyDepth ps ≤ n ↔ ∀ p ∈ ps, p.2.depth < n := by
  induction ps with
  | nil => simp [propertyDepth]
  | cons p ps ih =>
    rw [propertyDepth, Nat.max_le, ih, List.forall_mem_cons]
    exact Iff.rfl

theorem declaratorDepth_le_iff {ds : List Declarator} {n : Nat} :
    declaratorDepth ds ≤ n ↔ ∀ d ∈ ds, optionDepth d.initial ≤ n := by
  induction ds with
  | nil => simp [declaratorDepth]
  | cons d ds ih => rw [declaratorDepth, Nat.max_le, ih, List.forall_mem_cons]

section Texts

variable (numeral : Float → List Char)

/-- How a token is spelled; `numeral` spells the numbers. -/
def Token.chars : Token → List Char
  | .identifier name => name.toList
  | .keyword k => k.text.toList
  | .number x => numeral x
  | .string s => '\'' :: (escapeLiteral s.toList ++ ['\''])
  | .punctuator p => p.chars
  | .endOfInput => []

/-- The text of tokens, with a blank after each. -/
def Token.text (ts : List Token) : List Char := ts.flatMap fun t => t.chars numeral ++ [' ']

/-- The canonical text of a function. -/
def FunctionOf.canonicalText (f : Function) : List Char := Token.text numeral f.tokens

/-- A literal that is read as a number, where a blank follows. -/
def IsNumeral (x : Float) (literal : List Char) : Prop :=
  ∀ rest, Lexer.token (literal ++ ' ' :: rest) = .ok (.number x, ' ' :: rest)

/-- A token that can be spelled. -/
def Token.Spelled : Token → Prop
  | .identifier name => isIdentifier name = true
  | .number x => IsNumeral x (numeral x)
  | .endOfInput => False
  | _ => True

end Texts

end Microtemplate.Script
