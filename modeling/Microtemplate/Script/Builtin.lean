import Microtemplate.Script.Builtin.Array
import Microtemplate.Script.Builtin.Number
import Microtemplate.Script.Scope
import Microtemplate.Script.Stringify
import Microtemplate.Text.Html

/-!
Calling builtin functions and methods, given what calls other functions.
-/

namespace Microtemplate.Script

/-- The name of the variable that holds the text produced so far. -/
def outputName : String := "__p"

namespace Store

/-- Appends to a text that a frame holds under a name; a missing one is taken as empty. -/
def append (s : Store) (frame : Address) (name text : String) : Store :=
  s.modifyFrame frame fun bindings =>
    match bindings.get? name with
    | some b => bindings.set name { b with value := .string (s.text b.value ++ text) }
    | none => bindings.set name ⟨.string text, true⟩

/-- The unit of indentation that an argument asks for: a count of blanks, or a text, each up to ten
characters. -/
def indentation (v : Value) : Indentation :=
  match v with
  | .number x =>
    let count := match Decimal.Whole.ofFloat x with
      | .below => 0
      | .above => 10
      | .int i => min i.toNat 10
    ⟨String.ofList (List.replicate count ' ')⟩
  | .string t => ⟨String.ofList (t.toList.take 10)⟩
  | _ => ⟨""⟩

/-- The escaped text of a value; what stands for nothing has the empty text. -/
def escaped (s : Store) (v : Value) : String :=
  if v.isNullish then "" else Text.escapeHtml (s.text v)

end Store

namespace Builtin

/-- Calls a function for each field that an object has at the start. -/
def visitFields (call : List Value → Run Value) (owner : Value) : Fields Value → Run Unit
  | [] => return
  | (name, v) :: rest => do
    let _ ← call [v, .string name, owner]
    visitFields call owner rest

/-- Calls a function for each element of an array or each field of an object. -/
def visitEach (call : Caller) (list callback : Value) : Run Unit := do
  if callback.isCallable then
    match list with
    | .array a =>
      let _ ← ArrayMethod.visitAll call a callback
      return
    | .object a => visitFields (call callback) list (← Run.read (·.fields a))
    | _ => return
  else Run.fail (.notFunction (← Run.text callback))

/-- Calls a builtin function; printed text is appended in the frame `output`. -/
def run (call : Caller) (output : Address) (b : Builtin) (args : List Value) : Run Value := do
  match b with
  | print =>
    Run.change fun s => s.append output outputName (s.joinValues "" args)
    return .undefined
  | escape => Run.read fun s => .string (s.escaped (argument args 0))
  | each =>
    visitEach call (argument args 0) (argument args 1)
    return argument args 0
  | string => Run.read fun s => .string ((args.head?.map s.text).getD "")
  | number => Run.read fun s => .number ((args.head?.map s.number).getD 0.0)
  | stringify =>
    match ← Run.read (·.json (Store.indentation (argument args 2)) (argument args 0)) with
    | .ok text => return (text.map .string).getD .undefined
    | .error e => Run.fail e

end Builtin

/-- Calls a method with the value it was read from. -/
def BoundMethod.run (call : Caller) (bound : BoundMethod) (args : List Value) : Run Value := do
  match bound.receiver with
  | .string t => TextMethod.run call t bound.method args
  | .array a => ArrayMethod.run call a bound.method args
  | .number x =>
    match ← Run.read (NumberMethod.run · x bound.method args) with
    | .ok v => return v
    | .error e => Run.fail e
  | .boolean b => return .string (if b then "true" else "false")
  | _ => Run.fail (.notFunction bound.method.name)

end Microtemplate.Script
