import Microtemplate.Script.Builtin
import Microtemplate.Script.Comparison

/-!
Evaluating expressions, executing statements and calling functions. One step of each is a function
that is given the evaluators for what is inside as an `Evaluator`; `eval`, `exec` and `call` tie the
knot with a bound on the depth of steps. A loop takes at most as many rounds as the bound says. A run
that ends before its bound is used up ends in the same way with any larger bound.
-/

namespace Microtemplate.Script

/-- How deep calls of functions may stand inside each other. Builtin functions and methods do not
count. -/
def callLimit : Nat := 64

/-- Where an expression is evaluated. -/
structure Context where
  scope : Scope
  /-- How many functions are being called. -/
  depth : Nat
  /-- The frame of the program, which holds the text produced so far. -/
  output : Address

/-- A context with one more frame. -/
def Context.push (c : Context) (frame : Address) : Context := { c with scope := frame :: c.scope }

/-- How a statement has ended. -/
inductive Completion where
  | normal
  | broken
  | continued
  | returned (v : Value)
deriving DecidableEq

/-- The evaluators for what is inside an expression, a statement or a call, and the number of rounds
that a loop may take. -/
structure Evaluator where
  rounds : Nat
  eval : Context → Expr → Run Value
  exec : Context → Stmt → Run Completion
  call : Context → Value → List Value → Run Value

/-- Something that can be assigned to. -/
inductive Target where
  | name (n : String)
  | property (owner : Value) (key : String)

namespace Evaluator

variable (self : Evaluator)

/-- The current value of a target. -/
def readTarget (c : Context) : Target → Run Value
  | .name n => Run.lookup c.scope n
  | .property owner key => Run.readProperty owner key

/-- Gives a target a new value. -/
def writeTarget (c : Context) (t : Target) (v : Value) : Run Unit :=
  match t with
  | .name n => Run.assign c.scope n v
  | .property owner key => Run.writeProperty owner key v

/-- The key of a property in brackets. -/
def key (c : Context) (e : Expr) : Run String := do
  let v ← self.eval c e
  Run.text v

/-- The target that an expression is. -/
def target (c : Context) (e : Expr) : Run Target := do
  match e with
  | .identifier n => return .name n
  | .member owner name =>
    let v ← self.eval c owner
    return .property v name
  | .index owner e =>
    let v ← self.eval c owner
    let key ← self.key c e
    return .property v key
  | _ => Run.fail (.notAssignable e.describe)

/-- A new function with the current frames around it. -/
def closure (c : Context) (f : Function) : Run Value := Run.add (·.addFunction ⟨f, c.scope⟩)

/-- An operand with a unary operator; a name that is not defined has a type nevertheless. -/
def unary (c : Context) (op : UnaryOp) (e : Expr) : Run Value := do
  match op, e with
  | .typeof, .identifier n =>
    let v ← Run.read (·.lookup? c.scope n)
    return .string (v.elim "undefined" Value.typeName)
  | _, _ =>
    let v ← self.eval c e
    match op with
    | .not => return .boolean (!v.truthy)
    | .negate => Run.read fun s => .number (-s.number v)
    | .toNumber => Run.read fun s => .number (s.number v)
    | .typeof => return .string v.typeName

/-- Whether the left operand of a logical operator is its result. -/
def decides (op : LogicalOp) (v : Value) : Bool :=
  match op with
  | .and => !v.truthy
  | .or => v.truthy
  | .nullish => !v.isNullish

/-- Counts a target up or down. -/
def update (c : Context) (op : UpdateOp) (first : Bool) (e : Expr) : Run Value := do
  let t ← self.target c e
  let current ← readTarget c t
  let old ← Run.read (·.number current)
  let new := match op with
    | .increment => old + 1.0
    | .decrement => old - 1.0
  writeTarget c t (.number new)
  return .number (if first then new else old)

/-- Assigns to a target. With an operator, the current value is read before the new one is
evaluated. -/
def assign (c : Context) (op : Option BinaryOp) (e value : Expr) : Run Value := do
  let t ← self.target c e
  let v ← match op with
    | none => self.eval c value
    | some op => do
      let current ← readTarget c t
      let operand ← self.eval c value
      Run.read (·.binary op current operand)
  writeTarget c t v
  return v

/-- Calls a function with arguments. -/
def callExpression (c : Context) (callee : Expr) (arguments : List Expr) : Run Value := do
  let f ← self.eval c callee
  let args ← arguments.mapM (self.eval c)
  if f.isCallable then self.call c f args else Run.fail (.notFunction callee.describe)

/-- Expressions in a row; the value is that of the last one. -/
def sequence (c : Context) : Value → List Expr → Run Value
  | last, [] => return last
  | _, e :: es => do
    let v ← self.eval c e
    sequence c v es

/-- One step of evaluating an expression. -/
def evalStep (c : Context) (e : Expr) : Run Value := do
  match e with
  | .number x => return .number x
  | .string t => return .string t
  | .boolean b => return .boolean b
  | .null => return .null
  | .array items =>
    let vs ← items.mapM (self.eval c)
    Run.add (·.addArray vs.toArray)
  | .object properties =>
    let pairs ← properties.mapM fun p => do return (p.1, ← self.eval c p.2)
    Run.add (·.addObject (Fields.ofPairs pairs))
  | .function f => closure c f
  | .identifier n => Run.lookup c.scope n
  | .member owner name =>
    let v ← self.eval c owner
    Run.readProperty v name
  | .index owner e =>
    let v ← self.eval c owner
    let key ← self.key c e
    Run.readProperty v key
  | .call callee arguments => self.callExpression c callee arguments
  | .unary op e => self.unary c op e
  | .update op first e => self.update c op first e
  | .binary op a b =>
    let x ← self.eval c a
    let y ← self.eval c b
    Run.read (·.binary op x y)
  | .logical op a b =>
    let x ← self.eval c a
    if decides op x then return x else self.eval c b
  | .conditional test a b =>
    let v ← self.eval c test
    if v.truthy then self.eval c a else self.eval c b
  | .assign op e value => self.assign c op e value
  | .sequence items => self.sequence c .undefined items

/-- Declares the functions that stand directly among statements. -/
def hoistFunctions (c : Context) (frame : Address) : List Stmt → Run Unit
  | [] => return
  | .function f :: rest => do
    match f.name with
    | some n =>
      let v ← closure c f
      Run.declare frame n v true
      hoistFunctions c frame rest
    | none => hoistFunctions c frame rest
  | _ :: rest => hoistFunctions c frame rest

/-- Declares names without values. -/
def hoistNames (frame : Address) : List String → Run Unit
  | [] => return
  | n :: rest => do
    Run.change (·.declareMissing frame n ⟨.undefined, true⟩)
    hoistNames frame rest

/-- Executes statements in a row until one does not end normally. -/
def execAll (c : Context) : List Stmt → Run Completion
  | [] => return .normal
  | s :: rest => do
    match ← self.exec c s with
    | .normal => execAll c rest
    | other => return other

/-- Executes a declaration. Names declared function-wide are there already and are assigned to. -/
def execDeclaration (c : Context) (frame : Address) (kind : DeclarationKind) :
    List Declarator → Run Unit
  | [] => return
  | d :: rest => do
    match kind, d.initial with
    | .functionWide, none => pure ()
    | .functionWide, some e =>
      let v ← self.eval c e
      Run.assign c.scope d.name v
    | _, none => Run.declare frame d.name .undefined (kind = .blockWide)
    | _, some e =>
      let v ← self.eval c e
      Run.declare frame d.name v (kind = .blockWide)
    execDeclaration c frame kind rest

/-- The value of a condition; a missing one is true. -/
def holds (c : Context) : Option Expr → Run Bool
  | none => return true
  | some e => do
    let v ← self.eval c e
    return v.truthy

/-- Evaluates an expression for its effect, if there is one. -/
def perform (c : Context) : Option Expr → Run Unit
  | none => return
  | some e => do
    let _ ← self.eval c e

/-- Repeats a statement while a condition holds. -/
def execWhile (c : Context) (test update : Option Expr) (body : Stmt) : Nat → Run Completion
  | 0 => throw .exhausted
  | rounds + 1 => do
    if ← self.holds c test then
      match ← self.exec c body with
      | .broken => return .normal
      | .returned v => return .returned v
      | _ =>
        self.perform c update
        execWhile c test update body rounds
    else return .normal

/-- Gives the binding of a loop the value of a round. -/
def bindRound (c : Context) (frame : Address) (binding : LoopBinding) (v : Value) : Run Unit :=
  match binding with
  | .declare .functionWide n => Run.assign c.scope n v
  | .assign n => Run.assign c.scope n v
  | .declare kind n => Run.declare frame n v (kind = .blockWide)

/-- Executes a statement for each value, in a frame of its own each time. -/
def execEach (c : Context) (binding : LoopBinding) (body : Stmt) : List Value → Run Completion
  | [] => return .normal
  | v :: rest => do
    let frame ← Run.add (·.addFrame .block)
    bindRound (c.push frame) frame binding v
    match ← self.exec (c.push frame) body with
    | .broken => return .normal
    | .returned v => return .returned v
    | _ => execEach c binding body rest

/-- The values that a loop over elements goes through: those that are there at the start. -/
def iterated (e : Expr) (v : Value) : Run (List Value) :=
  match v with
  | .array a => Run.read fun s => (s.elements a).toList
  | .string t => return t.toList.map fun c => .string c.toString
  | _ => Run.fail (.notIterable e.describe)

/-- The innermost frame of a context. -/
def innermost (c : Context) : Address := c.scope.head?.getD 0

/-- One step of executing a statement. -/
def execStep (c : Context) (s : Stmt) : Run Completion := do
  match s with
  | .declaration kind ds =>
    self.execDeclaration c (innermost c) kind ds
    return .normal
  | .function _ => return .normal
  | .branch test a b =>
    let v ← self.eval c test
    if v.truthy then self.exec c a
    else match b with
      | some b => self.exec c b
      | none => return .normal
  | .loop first test update body =>
    let frame ← Run.add (·.addFrame .block)
    match first with
    | some s =>
      let _ ← self.exec (c.push frame) s
      self.execWhile (c.push frame) test update body self.rounds
    | none => self.execWhile (c.push frame) test update body self.rounds
  | .loopOf binding e body =>
    let v ← self.eval c e
    let items ← iterated e v
    self.execEach c binding body items
  | .loopIn binding e body =>
    let v ← self.eval c e
    let keys ← Run.read (·.keys v)
    self.execEach c binding body (keys.map .string)
  | .loopWhile test body => self.execWhile c (some test) none body self.rounds
  | .breakLoop => return .broken
  | .continueLoop => return .continued
  | .returning none => return .returned .undefined
  | .returning (some e) =>
    let v ← self.eval c e
    return .returned v
  | .within e body =>
    let v ← self.eval c e
    if v.isNullish then Run.fail .notObject
    else
      let frame ← Run.add (·.addFrame (.within v))
      self.exec (c.push frame) body
  | .block body =>
    let frame ← Run.add (·.addFrame .block)
    hoistFunctions (c.push frame) frame body
    self.execAll (c.push frame) body
  | .empty => return .normal
  | .expression e =>
    let _ ← self.eval c e
    return .normal

/-- Executes the body of a function in its frame, after its parameters have been declared. -/
def execBody (c : Context) (frame : Address) (body : List Stmt) : Run Value := do
  hoistNames frame (hoistedList body)
  hoistFunctions c frame body
  match ← self.execAll c body with
  | .returned v => return v
  | _ => return .undefined

/-- Declares the parameters of a function with their values. -/
def declareArguments (frame : Address) (f : Function) (args : List Value) : Run Unit := do
  Run.declareParameters frame f.params args
  match f.rest with
  | some n =>
    let v ← Run.add (·.addArray (args.drop f.params.length).toArray)
    Run.declare frame n v true
  | none => return

/-- Calls a function of the program; its own name is a name in its frame. -/
def callClosure (c : Context) (f : Value) (closure : Closure) (args : List Value) : Run Value := do
  let frame ← Run.add (·.addFrame .function)
  match closure.code.name with
  | some n => Run.declare frame n f true
  | none => pure ()
  declareArguments frame closure.code args
  self.execBody ⟨frame :: closure.scope, c.depth + 1, c.output⟩ frame closure.code.body

/-- One step of calling a value. -/
def callStep (c : Context) (f : Value) (args : List Value) : Run Value := do
  match f with
  | .function a =>
    if callLimit ≤ c.depth then Run.fail .callDepth
    else match ← Run.read (·.functions[a]?) with
      | some closure => self.callClosure c f closure args
      | none => Run.fail (.notFunction "expression")
  | .builtin b => Builtin.run (self.call c) c.output b args
  | .method a =>
    match ← Run.read (·.methods[a]?) with
    | some bound => bound.run (self.call c) args
    | none => Run.fail (.notFunction "expression")
  | _ => Run.fail (.notFunction (← Run.text f))

end Evaluator

mutual

/-- Evaluates an expression in at most the given depth of steps. -/
def eval : Nat → Context → Expr → Run Value
  | 0, _, _ => throw .exhausted
  | bound + 1, c, e => Evaluator.evalStep ⟨bound, eval bound, exec bound, call bound⟩ c e

/-- Executes a statement in at most the given depth of steps. -/
def exec : Nat → Context → Stmt → Run Completion
  | 0, _, _ => throw .exhausted
  | bound + 1, c, s => Evaluator.execStep ⟨bound, eval bound, exec bound, call bound⟩ c s

/-- Calls a value in at most the given depth of steps. -/
def call : Nat → Context → Value → List Value → Run Value
  | 0, _, _, _ => throw .exhausted
  | bound + 1, c, f, args =>
    Evaluator.callStep ⟨bound, eval bound, exec bound, call bound⟩ c f args

end

/-- The evaluators with a bound on the depth of steps. -/
def Evaluator.within (bound : Nat) : Evaluator :=
  ⟨bound, Script.eval bound, Script.exec bound, Script.call bound⟩

end Microtemplate.Script
