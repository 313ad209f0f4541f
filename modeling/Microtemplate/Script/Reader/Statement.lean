import Microtemplate.Script.Reader.Expression

/-!
Reading statements, given the readers of the next level of nesting.
-/

namespace Microtemplate.Script

namespace Reader

open Parse

variable (limit : Nat) (inner : Nested)

/-- The initial value of a declared name, if there is one. -/
def initial : Parse (Option Expr) := do
  if ← eatPunctuator .assign then return some (← inner.assignment) else return none

/-- A declared name after the name has been read; `l` is where a missing value is reported. -/
def declaratorOf (kind : DeclarationKind) (l : Located) (name : String) : Parse Declarator := do
  let value ← initial inner
  if kind = .constant ∧ value.isNone then refuse .missingInitializer l
  else return ⟨name, value⟩

/-- Further declared names, each after a comma. -/
def declaratorsRest (kind : DeclarationKind) : Nat → Parse (List Declarator)
  | 0 => return []
  | bound + 1 => do
    if ← eatPunctuator .comma then
      let l ← located
      let name ← identifier
      let d ← declaratorOf inner kind l name
      let more ← declaratorsRest kind bound
      return d :: more
    else return []

/-- Declared names separated by commas. -/
def declarators (kind : DeclarationKind) : Parse (List Declarator) := do
  let l ← located
  let name ← identifier
  let d ← declaratorOf inner kind l name
  let more ← declaratorsRest inner kind limit
  return d :: more

/-- An expression in parentheses. -/
def parenthesized : Parse Expr := do
  expect .leftParen
  let e ← expression limit inner
  expect .rightParen
  return e

/-- What follows the binding of a loop over elements or keys: `of` or `in`, the value, and the
body. None if neither word is here. -/
def eachTail (binding : LoopBinding) : Parse (Option Stmt) := do
  let t ← token
  if t = .identifier "of" then
    advance
    let iterable ← inner.assignment
    expect .rightParen
    return some (.loopOf binding iterable (← inner.statement true))
  else if t = .keyword .inWord then
    advance
    let object ← expression limit inner
    expect .rightParen
    return some (.loopIn binding object (← inner.statement true))
  else return none

/-- An expression, unless the given punctuator is here. -/
def expressionBefore (p : Punctuator) : Parse (Option Expr) := do
  if (← token) = .punctuator p then return none else return some (← expression limit inner)

/-- The rest of a loop with three parts after the first of them. -/
def loopTail (first : Option Stmt) : Parse Stmt := do
  expect .semicolon
  let test ← expressionBefore limit inner .semicolon
  expect .semicolon
  let update ← expressionBefore limit inner .rightParen
  expect .rightParen
  return .loop first test update (← inner.statement true)

/-- A loop, after its keyword. -/
def loop : Parse Stmt := do
  expect .leftParen
  let t ← token
  match DeclarationKind.ofToken? t with
  | some kind =>
    advance
    let name ← identifier
    match ← eachTail limit inner (.declare kind name) with
    | some s => return s
    | none =>
      let l ← located
      let d ← declaratorOf inner kind l name
      let more ← declaratorsRest inner kind limit
      loopTail limit inner (some (.declaration kind (d :: more)))
  | none =>
    if t = .punctuator .semicolon then loopTail limit inner none
    else
      let e ← expression limit inner
      match e with
      | .identifier name =>
        match ← eachTail limit inner (.assign name) with
        | some s => return s
        | none => loopTail limit inner (some (.expression e))
      | _ => loopTail limit inner (some (.expression e))

/-- A choice between statements, after its keyword. -/
def branch (inLoop : Bool) : Parse Stmt := do
  let test ← parenthesized limit inner
  let consequent ← inner.statement inLoop
  if ← eat (.keyword .elseWord) then
    return .branch test consequent (some (← inner.statement inLoop))
  else return .branch test consequent none

/-- A statement that consists of one word and is allowed inside loops only. -/
def loopWord (inLoop : Bool) (start : Located) (outside : Cause) (s : Stmt) : Parse Stmt := do
  if inLoop then
    terminator
    return s
  else refuse outside start

/-- The value that a function returns, after the keyword. -/
def returned : Parse Stmt := do
  let l ← located
  let value ←
    if endsStatement l || l.token = .punctuator .semicolon then pure none
    else some <$> expression limit inner
  terminator
  return .returning value

/-- An expression as a statement. -/
def expressionStatement : Parse Stmt := do
  let e ← expression limit inner
  terminator
  return .expression e

/-- A statement that starts with a keyword other than those of declarations. -/
def keywordStatement (inLoop : Bool) (start : Located) : Keyword → Parse Stmt
  | .functionWord => return .function (← function limit inner false)
  | .ifWord => do
    advance
    branch limit inner inLoop
  | .forWord => do
    advance
    loop limit inner
  | .whileWord => do
    advance
    let test ← parenthesized limit inner
    return .loopWhile test (← inner.statement true)
  | .breakWord => do
    advance
    loopWord inLoop start .breakOutsideLoop .breakLoop
  | .continueWord => do
    advance
    loopWord inLoop start .continueOutsideLoop .continueLoop
  | .returnWord => do
    advance
    returned limit inner
  | .withWord => do
    advance
    let object ← parenthesized limit inner
    return .within object (← inner.statement inLoop)
  | _ => expressionStatement limit inner

/-- A statement. -/
def statement (inLoop : Bool) : Parse Stmt := do
  let start ← located
  match DeclarationKind.ofToken? start.token with
  | some kind =>
    advance
    let ds ← declarators limit inner kind
    terminator
    return .declaration kind ds
  | none =>
    match start.token with
    | .punctuator .leftBrace => return .block (← braced limit inner inLoop)
    | .punctuator .semicolon =>
      advance
      return .empty
    | .keyword k => keywordStatement limit inner inLoop start k
    | _ => expressionStatement limit inner

end Reader

end Microtemplate.Script
