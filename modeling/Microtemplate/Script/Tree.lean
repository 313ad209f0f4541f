/-!
The trees of programs. Expressions and statements are defined together, since a function expression
holds statements.
-/

namespace Microtemplate.Script

/-- The ways a name can be declared. -/
inductive DeclarationKind where
  /-- Declared for the whole function, and assignable. -/
  | functionWide
  /-- Declared for the block, and assignable. -/
  | blockWide
  /-- Declared for the block with a value that stays. -/
  | constant
deriving DecidableEq, Repr

/-- The operators before an operand. -/
inductive UnaryOp where
  | not
  | negate
  | toNumber
  | typeof
deriving DecidableEq, Repr

/-- Counting up or down. -/
inductive UpdateOp where
  | increment
  | decrement
deriving DecidableEq, Repr

/-- The operators whose operands are both evaluated. -/
inductive BinaryOp where
  | add
  | subtract
  | multiply
  | divide
  | remainder
  | less
  | lessEqual
  | greater
  | greaterEqual
  | equal
  | notEqual
  | strictEqual
  | strictNotEqual
deriving DecidableEq, Repr

/-- The operators whose right operand is evaluated if the left one asks for it. -/
inductive LogicalOp where
  | and
  | or
  | nullish
deriving DecidableEq, Repr

/-- A function with statements of some kind: an optional name, the parameters, an optional
parameter that takes all further arguments, and the body. -/
structure FunctionOf (statement : Type) where
  name : Option String
  params : List String
  rest : Option String
  body : List statement

/-- A declared name and its initial value. -/
structure DeclaratorOf (expression : Type) where
  name : String
  initial : Option expression

/-- What each round of a loop over elements or keys is given to. -/
inductive LoopBinding where
  | declare (kind : DeclarationKind) (name : String)
  | assign (name : String)
deriving DecidableEq, Repr

/-- The name that a loop gives its elements or keys to. -/
def LoopBinding.name : LoopBinding → String
  | declare _ name => name
  | assign name => name

mutual

/-- Expressions. -/
inductive Expr where
  | number (value : Float)
  | string (value : String)
  | boolean (value : Bool)
  | null
  | array (items : List Expr)
  | object (properties : List (String × Expr))
  | function (f : FunctionOf Stmt)
  | identifier (name : String)
  /-- `object.name` -/
  | member (object : Expr) (name : String)
  /-- `object[key]` -/
  | index (object key : Expr)
  | call (callee : Expr) (arguments : List Expr)
  | unary (op : UnaryOp) (operand : Expr)
  /-- `++target` and `target++`; the flag says whether the operator comes first. -/
  | update (op : UpdateOp) (first : Bool) (target : Expr)
  | binary (op : BinaryOp) (left right : Expr)
  | logical (op : LogicalOp) (left right : Expr)
  | conditional (test consequent alternate : Expr)
  /-- `target = value`, or `target op= value`. -/
  | assign (op : Option BinaryOp) (target value : Expr)
  | sequence (items : List Expr)

/-- Statements. -/
inductive Stmt where
  | declaration (kind : DeclarationKind) (declarators : List (DeclaratorOf Expr))
  | function (f : FunctionOf Stmt)
  | branch (test : Expr) (consequent : Stmt) (alternate : Option Stmt)
  /-- A loop with a head of three parts; the first part is a statement that is a declaration or an
  expression. -/
  | loop (initial : Option Stmt) (test update : Option Expr) (body : Stmt)
  | loopOf (binding : LoopBinding) (iterable : Expr) (body : Stmt)
  | loopIn (binding : LoopBinding) (object : Expr) (body : Stmt)
  | loopWhile (test : Expr) (body : Stmt)
  /-- Leaves the innermost loop. -/
  | breakLoop
  /-- Goes on with the next round of the innermost loop. -/
  | continueLoop
  | returning (value : Option Expr)
  /-- The own properties of the object are names in the body. -/
  | within (object : Expr) (body : Stmt)
  | block (body : List Stmt)
  | empty
  | expression (e : Expr)

end

/-- Functions. -/
abbrev Function := FunctionOf Stmt

/-- Declared names with their initial values. -/
abbrev Declarator := DeclaratorOf Expr

namespace Expr

/-- Whether an expression can stand on the left of an assignment. -/
def isTarget : Expr → Bool
  | identifier _ => true
  | member _ _ => true
  | index _ _ => true
  | _ => false

/-- A short description of an expression for messages. -/
def describe : Expr → String
  | identifier name => name
  | member inner name => inner.describe ++ "." ++ name
  | index inner _ => inner.describe ++ "[...]"
  | call callee _ => callee.describe ++ "(...)"
  | _ => "expression"

end Expr

mutual

/-- The names declared function-wide by a statement, at any depth outside nested functions, in the
order of the text. -/
def Stmt.hoisted : Stmt → List String
  | .declaration .functionWide declarators => declarators.map (·.name)
  | .branch _ consequent alternate => consequent.hoisted ++ hoistedOption alternate
  | .loop initial _ _ body => hoistedOption initial ++ body.hoisted
  | .loopOf (.declare .functionWide name) _ body => name :: body.hoisted
  | .loopOf _ _ body => body.hoisted
  | .loopIn (.declare .functionWide name) _ body => name :: body.hoisted
  | .loopIn _ _ body => body.hoisted
  | .loopWhile _ body => body.hoisted
  | .within _ body => body.hoisted
  | .block body => hoistedList body
  | _ => []

/-- The names declared function-wide by a statement that may be missing. -/
def hoistedOption : Option Stmt → List String
  | none => []
  | some s => s.hoisted

/-- The names declared function-wide by statements in a row. -/
def hoistedList : List Stmt → List String
  | [] => []
  | s :: ss => s.hoisted ++ hoistedList ss

end

end Microtemplate.Script
