import Microtemplate.Script.Lexer
import Microtemplate.Script.Tree

/-!
Readers of token sequences: a reader takes the tokens that are left and gives a result and what is
left after it, or refuses the text with a fault at one of the tokens.
-/

namespace Microtemplate.Script

/-- The tokens that are left, of which there is always one: the end of input stays. -/
structure Tokens where
  current : Located
  following : List Located

/-- Readers of token sequences. -/
abbrev Parse := StateT Tokens (Except Fault)

namespace Parse

/-- The current token with its place. -/
def located : Parse Located := fun s => .ok (s.current, s)

/-- The current token. -/
def token : Parse Token := fun s => .ok (s.current.token, s)

/-- Refuses the text at a place. -/
def refuse {α : Type} (cause : Cause) (l : Located) : Parse α := fun _ => .error ⟨cause, l.text⟩

/-- Goes on to the next token; at the end of input nothing changes. -/
def advance : Parse Unit := fun s =>
  match s.following with
  | [] => .ok ((), s)
  | next :: rest => .ok ((), ⟨next, rest⟩)

/-- Goes over the current token if it is the given one, and says whether it was. -/
def eat (t : Token) : Parse Bool := do
  if (← token) = t then
    advance
    return true
  else return false

/-- Goes over a punctuator if it is the current token. -/
def eatPunctuator (p : Punctuator) : Parse Bool := eat (.punctuator p)

/-- Refuses the current token. -/
def unexpected {α : Type} : Parse α := do
  let l ← located
  refuse (.unexpected l.token) l

/-- Goes over a punctuator that has to be here. -/
def expect (p : Punctuator) : Parse Unit := do
  let l ← located
  if l.token = .punctuator p then advance else refuse (.expected p l.token) l

/-- Goes over an identifier that has to be here. -/
def identifier : Parse String := do
  let l ← located
  match l.token with
  | .identifier name =>
    advance
    return name
  | other => refuse (.expectedIdentifier other) l

/-- Whether a statement may end before this token without a semicolon. -/
def endsStatement (l : Located) : Bool :=
  l.newlineBefore || l.token = .punctuator .rightBrace || l.token = .endOfInput

/-- The end of a statement. -/
def terminator : Parse Unit := do
  let l ← located
  if l.token = .punctuator .semicolon then advance
  else if endsStatement l then return
  else refuse (.expectedTerminator l.token) l

end Parse

/-- How deep statements, assignments and prefix operands may stand inside each other. -/
def nestingLimit : Nat := 128

/-- The readers of the next level of nesting. -/
structure Nested where
  /-- A statement; the flag says whether it is inside a loop of its function. -/
  statement : Bool → Parse Stmt
  assignment : Parse Expr
  /-- An operand with its prefix operators. -/
  unary : Parse Expr

end Microtemplate.Script
