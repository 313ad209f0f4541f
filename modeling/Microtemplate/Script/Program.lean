import Microtemplate.Json.Basic
import Microtemplate.Script.Evaluation
import Microtemplate.Script.Reader

/-!
Running a program on data. The data becomes the first argument, the global frame holds the builtin
functions and constants, and the result is the text of what the program returns.
-/

namespace Microtemplate.Script

namespace Store

mutual

/-- Puts a JSON value into the store. -/
def addJson : Json → Store → Value × Store
  | .null, s => (.null, s)
  | .boolean b, s => (.boolean b, s)
  | .number n, s => (.number n.toFloat, s)
  | .string t, s => (.string t, s)
  | .array items, s =>
    let (values, s) := addJsonItems items s
    s.addArray values.toArray
  | .object fields, s =>
    let (values, s) := addJsonFields fields s
    s.addObject values

/-- Puts the items of a JSON array into the store. -/
def addJsonItems : List Json → Store → List Value × Store
  | [], s => ([], s)
  | j :: rest, s =>
    let (v, s) := addJson j s
    let (more, s) := addJsonItems rest s
    (v :: more, s)

/-- Puts the fields of a JSON object into the store. -/
def addJsonFields : List (String × Json) → Store → Fields Value × Store
  | [], s => ([], s)
  | (name, j) :: rest, s =>
    let (v, s) := addJson j s
    let (more, s) := addJsonFields rest s
    ((name, v) :: more, s)

end

end Store

/-- The names of the global frame. -/
def globalBindings (helpers json : Value) : Fields Binding :=
  [("print", ⟨.builtin .print, true⟩), ("_", ⟨helpers, true⟩),
    ("String", ⟨.builtin .string, true⟩), ("Number", ⟨.builtin .number, true⟩),
    ("JSON", ⟨json, true⟩), ("undefined", ⟨.undefined, false⟩),
    ("NaN", ⟨.number Decimal.nan, false⟩), ("Infinity", ⟨.number (Decimal.infinity false), false⟩)]

/-- The frames of a program: the global one and that of the program itself. -/
def globalFrame : Address := 0

/-- The frame of the program itself. -/
def programFrame : Address := 1

/-- A store with the two frames in which a program starts. -/
def initialStore : Store :=
  let (helpers, s) := Store.empty.addObject
    [("escape", .builtin .escape), ("each", .builtin .each)]
  let (json, s) := s.addObject [("stringify", .builtin .stringify)]
  { s with frames := #[⟨.global, globalBindings helpers json⟩, ⟨.function, []⟩] }

/-- The context in which the statements of a program are executed. -/
def programContext : Context := ⟨[programFrame, globalFrame], 0, programFrame⟩

namespace Function

/-- Runs a program on arguments, and gives the text of what it returns. -/
def runProgram (f : Function) (bound : Nat) (args : List Value) : Run String := do
  Evaluator.declareArguments programFrame f args
  let v ← (Evaluator.within bound).execBody programContext programFrame f.body
  if v = .undefined then return "" else Run.text v

/-- Runs a program on data in at most the given depth of steps. -/
def render (f : Function) (bound : Nat) (data : Json) : Except Halt String :=
  let (v, s) := initialStore.addJson data
  ((f.runProgram bound [v]).run.run s).1

end Function

end Microtemplate.Script
