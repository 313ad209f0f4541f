import Microtemplate.Decimal.Notation
import Microtemplate.Script.Operator
import Microtemplate.Script.Parse

/-!
Reading functions and expressions. Nesting is bounded: statements, assignments and the operands of
prefix operators may stand inside each other at most `nestingLimit` deep, so the readers of one
level are given those of the next as a `Nested` and none of them calls itself. Loops over the
tokens take at most as many rounds as there are tokens, which is what `limit` says.
-/

namespace Microtemplate.Script

namespace Reader

open Parse

variable (limit : Nat) (inner : Nested)

/-- The parameters of a function up to the closing parenthesis, and the one that takes the rest. -/
def parameters : Nat → Parse (List String × Option String)
  | 0 => return ([], none)
  | bound + 1 => do
    if (← token) = .punctuator .rightParen then return ([], none)
    if ← eatPunctuator .ellipsis then return ([], some (← identifier))
    let name ← identifier
    if ← eatPunctuator .comma then
      let (names, rest) ← parameters bound
      return (name :: names, rest)
    else return ([name], none)

/-- Statements up to a closing brace. -/
def statements (inLoop : Bool) : Nat → Parse (List Stmt)
  | 0 => unexpected
  | bound + 1 => do
    if ← eatPunctuator .rightBrace then return []
    if (← token) = .endOfInput then unexpected
    else
      let first ← inner.statement inLoop
      let more ← statements inLoop bound
      return first :: more

/-- Statements in braces. -/
def braced (inLoop : Bool) : Parse (List Stmt) := do
  expect .leftBrace
  statements inner inLoop limit

/-- A function. Its body is outside all loops around the function. -/
def function (nameOptional : Bool) : Parse Function := do
  let l ← located
  if l.token = .keyword .functionWord then
    advance
    let name ← match ← token with
      | .identifier name => do
        advance
        pure (some name)
      | _ => if nameOptional then pure none else unexpected
    expect .leftParen
    let (params, rest) ← parameters limit
    expect .rightParen
    let body ← braced limit inner false
    return ⟨name, params, rest, body⟩
  else refuse (.expectedFunction l.token) l

/-- The further assignments of a sequence, each after a comma. -/
def commaRest : Nat → Parse (List Expr)
  | 0 => return []
  | bound + 1 => do
    if ← eatPunctuator .comma then
      let e ← inner.assignment
      let more ← commaRest bound
      return e :: more
    else return []

/-- An expression: an assignment or a sequence of them. -/
def expression : Parse Expr := do
  let first ← inner.assignment
  match ← commaRest inner limit with
  | [] => return first
  | more => return .sequence (first :: more)

/-- Assignments separated by commas up to a closing punctuator; a comma may stand before it. -/
def list (close : Punctuator) : Nat → Parse (List Expr)
  | 0 => unexpected
  | bound + 1 => do
    if ← eatPunctuator close then return []
    let e ← inner.assignment
    if ← eatPunctuator .comma then
      let more ← list close bound
      return e :: more
    else
      expect close
      return [e]

/-- The name of a property in an object, and whether the name may stand for its value. -/
def propertyName (l : Located) : Parse (String × Bool) :=
  match l.token with
  | .identifier name => return (name, true)
  | .keyword k => return (k.text, false)
  | .string s => return (s, false)
  | .number n => return (Decimal.numberText n, false)
  | other => refuse (.expectedPropertyName other) l

/-- One property of an object. -/
def property : Parse (String × Expr) := do
  let l ← located
  let (key, shorthand) ← propertyName l
  advance
  if ← eatPunctuator .colon then return (key, ← inner.assignment)
  else if shorthand then return (key, .identifier key)
  else refuse .missingColon l

/-- Properties separated by commas up to the closing brace. -/
def properties : Nat → Parse (List (String × Expr))
  | 0 => unexpected
  | bound + 1 => do
    if ← eatPunctuator .rightBrace then return []
    let p ← property inner
    if ← eatPunctuator .comma then
      let more ← properties bound
      return p :: more
    else
      expect .rightBrace
      return [p]

/-- Literals, identifiers, functions and what stands in brackets. -/
def primary : Parse Expr := do
  match ← token with
  | .number n =>
    advance
    return .number n
  | .string s =>
    advance
    return .string s
  | .identifier name =>
    advance
    return .identifier name
  | .keyword .trueWord =>
    advance
    return .boolean true
  | .keyword .falseWord =>
    advance
    return .boolean false
  | .keyword .nullWord =>
    advance
    return .null
  | .keyword .functionWord => return .function (← function limit inner true)
  | .punctuator .leftParen =>
    advance
    let e ← expression limit inner
    expect .rightParen
    return e
  | .punctuator .leftBracket =>
    advance
    return .array (← list inner .rightBracket limit)
  | .punctuator .leftBrace =>
    advance
    return .object (← properties inner limit)
  | _ => unexpected

/-- The name after a point. -/
def memberName : Parse String := do
  let l ← located
  match l.token with
  | .identifier name =>
    advance
    return name
  | .keyword k =>
    advance
    return k.text
  | other => refuse (.expectedPropertyName other) l

/-- The properties and calls that follow an expression. -/
def suffixes : Nat → Expr → Parse Expr
  | 0, e => return e
  | bound + 1, e => do
    if ← eatPunctuator .dot then
      let name ← memberName
      suffixes bound (.member e name)
    else if ← eatPunctuator .leftBracket then
      let key ← expression limit inner
      expect .rightBracket
      suffixes bound (.index e key)
    else if ← eatPunctuator .leftParen then
      let arguments ← list inner .rightParen limit
      suffixes bound (.call e arguments)
    else return e

/-- An operand with an update operator after it, if there is one on the same line. -/
def postfixed : Parse Expr := do
  let start ← located
  let e ← primary limit inner
  let e ← suffixes limit inner limit e
  let l ← located
  match UpdateOp.ofToken? l.token with
  | some op =>
    if l.newlineBefore then return e
    else if e.isTarget then
      advance
      return .update op false e
    else refuse .invalidUpdateTarget start
  | none => return e

/-- An operand with its prefix operators. -/
def unary : Parse Expr := do
  let start ← located
  match UnaryOp.ofToken? start.token with
  | some op =>
    advance
    return .unary op (← inner.unary)
  | none =>
    match UpdateOp.ofToken? start.token with
    | some op =>
      advance
      let target ← inner.unary
      if target.isTarget then return .update op true target
      else refuse .invalidUpdateTarget start
    | none => postfixed limit inner

/-- The infix operator of a looseness that a token is. -/
def infixAt? (looseness : Nat) (t : Token) : Option Infix :=
  match t with
  | .punctuator p => (Infix.ofPunctuator? p).filter fun o => o.looseness = looseness
  | _ => none

/-- The further operands of a chain of operators of one looseness, joined to what stands on their
left. -/
def chainRest (looseness : Nat) (operand : Parse Expr) : Nat → Expr → Parse Expr
  | 0, left => return left
  | bound + 1, left => do
    match infixAt? looseness (← token) with
    | some o =>
      advance
      let right ← operand
      chainRest looseness operand bound (o.join left right)
    | none => return left

/-- A chain of operators up to a looseness. -/
def chain : Nat → Parse Expr
  | 0 => unary limit inner
  | looseness + 1 => do
    let left ← chain looseness
    chainRest (looseness + 1) (chain looseness) limit left

/-- A chain, or a choice between two assignments. -/
def conditional : Parse Expr := do
  let test ← chain limit inner Infix.loosest
  if ← eatPunctuator .question then
    let consequent ← inner.assignment
    expect .colon
    let alternate ← inner.assignment
    return .conditional test consequent alternate
  else return test

/-- An assignment, or an expression without one. -/
def assignment : Parse Expr := do
  let start ← located
  let target ← conditional limit inner
  match assignmentOfToken? (← token) with
  | some op =>
    if target.isTarget then
      advance
      return .assign op target (← inner.assignment)
    else refuse .invalidAssignmentTarget start
  | none => return target

end Reader

end Microtemplate.Script
