import Microtemplate.Script.Tree

/-!
Code: the expressions and statements that a run comes to. The parts of a piece of code are what is
directly inside it and is run in the same function; functions inside are kept apart, since their code
is run only when they are called. The names that a piece of code reads and writes are those that
running it looks up by itself, whatever its parts do.
-/

namespace Microtemplate.Script

/-- What can be run: expressions are evaluated and statements are executed. -/
inductive Code where
  | expression (e : Expr)
  | statement (s : Stmt)

namespace Expr

/-- The expressions directly inside an expression, in the order of the text. -/
def parts : Expr → List Expr
  | array items | sequence items => items
  | object properties => properties.map (·.2)
  | member owner _ => [owner]
  | index owner key => [owner, key]
  | call callee arguments => callee :: arguments
  | unary _ operand | update _ _ operand => [operand]
  | binary _ left right | logical _ left right | assign _ left right => [left, right]
  | conditional test consequent alternate => [test, consequent, alternate]
  | _ => []

/-- The name that is assigned to if the expression is a target. -/
def name? : Expr → Option String
  | identifier n => some n
  | _ => none

end Expr

/-- The name that each round of a loop assigns to; the others declare one. -/
def LoopBinding.assigned? : LoopBinding → Option String
  | declare .functionWide n | assign n => some n
  | _ => none

namespace Stmt

/-- The expressions directly inside a statement. -/
def expressions : Stmt → List Expr
  | declaration _ ds => ds.filterMap (·.initial)
  | branch test _ _ | loopWhile test _ => [test]
  | loop _ test update _ => test.toList ++ update.toList
  | loopOf _ e _ | loopIn _ e _ | within e _ | expression e => [e]
  | returning value => value.toList
  | _ => []

/-- The statements directly inside a statement. -/
def statements : Stmt → List Stmt
  | branch _ consequent alternate => consequent :: alternate.toList
  | loop initial _ _ body => initial.toList ++ [body]
  | loopOf _ _ body | loopIn _ _ body | loopWhile _ body | within _ body => [body]
  | block body => body
  | _ => []

end Stmt

namespace Code

/-- The code directly inside code, outside functions. -/
def parts : Code → List Code
  | expression e => e.parts.map expression
  | statement s => s.expressions.map expression ++ s.statements.map statement

/-- The functions that code makes a value of. -/
def functions : Code → List Function
  | expression (.function f) | statement (.function f) => [f]
  | _ => []

/-- The names that code looks up, and that have to be there. -/
def reads : Code → List String
  | expression (.identifier n) => [n]
  | expression (.update _ _ target) | expression (.assign (some _) target _) => target.name?.toList
  | _ => []

/-- The names that code looks up, and that may be missing. -/
def probes : Code → List String
  | expression (.unary .typeof (.identifier n)) => [n]
  | _ => []

/-- The names that code assigns to. -/
def writes : Code → List String
  | expression (.update _ _ target) | expression (.assign _ target _) => target.name?.toList
  | statement (.declaration .functionWide ds) => ds.map (·.name)
  | statement (.loopOf binding _ _) | statement (.loopIn binding _ _) => binding.assigned?.toList
  | _ => []

/-- The expressions that code assigns to. -/
def targets : Code → List Expr
  | expression (.update _ _ target) | expression (.assign _ target _) => [target]
  | _ => []

theorem mem_parts_value {s : Stmt} {e : Expr} (h : e ∈ s.expressions) :
    expression e ∈ (statement s).parts := List.mem_append_left _ (List.mem_map_of_mem h)

theorem mem_parts_statement {s part : Stmt} (h : part ∈ s.statements) :
    statement part ∈ (statement s).parts := List.mem_append_right _ (List.mem_map_of_mem h)

end Code

/-- The code of a function itself, outside the functions inside it. -/
inductive FunctionOf.OwnCode (f : Function) : Code → Prop
  | body {s : Stmt} (h : s ∈ f.body) : OwnCode f (.statement s)
  | part {x y : Code} (hx : OwnCode f x) (hy : y ∈ x.parts) : OwnCode f y

/-- A function itself, and all functions inside it at any depth. -/
inductive FunctionOf.Includes (f : Function) : Function → Prop
  | self : Includes f f
  | inner {g h : Function} {x : Code} (hg : Includes f g) (hx : g.OwnCode x) (hh : h ∈ x.functions) :
      Includes f h

/-- All code of a function, also that of the functions inside it. -/
def FunctionOf.Contains (f : Function) (x : Code) : Prop := ∃ g, f.Includes g ∧ g.OwnCode x

/-- The names that a function declares for its whole body: its parameters and what is declared
function-wide anywhere in it. -/
def FunctionOf.declared (f : Function) : List String :=
  f.params ++ f.rest.toList ++ hoistedList f.body

/-- All names that calling a function declares: also its own name. -/
def FunctionOf.names (f : Function) : List String := f.name.toList ++ f.declared

end Microtemplate.Script
