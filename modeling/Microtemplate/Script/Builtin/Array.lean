import Microtemplate.Script.Builtin.Text
import Microtemplate.Script.Comparison

/-!
The methods of arrays. Methods that call a function for each element go over the indices that there
are at the start, and stop at the first one that the array no longer has.
-/

namespace Microtemplate.Script

namespace ArrayMethod

/-- Calls a function for the elements from an index on, `count` of them at most, with the element,
its index and the array. Gives the elements with the results. -/
def visit (call : List Value → Run Value) (a : Address) :
    Nat → Nat → Run (List (Value × Value))
  | 0, _ => return []
  | count + 1, index => do
    match ← Run.read fun s => (s.elements a)[index]? with
    | none => return []
    | some item =>
      let result ← call [item, .number (Decimal.ofNat index), .array a]
      let more ← visit call a count (index + 1)
      return (item, result) :: more

/-- Calls a function for each element of an array. -/
def visitAll (call : Caller) (a : Address) (callback : Value) : Run (List (Value × Value)) := do
  visit (call callback) a (← Run.read fun s => (s.elements a).size) 0

/-- The same if the function can be called. -/
def visitAll? (call : Caller) (a : Address) (callback : Value) :
    Run (List (Value × Value)) := do
  if callback.isCallable then visitAll call a callback
  else Run.fail (.notFunction (← Run.text callback))

/-- The index of the first equal element at or after a position. -/
def indexOf (s : Store) (items : Array Value) (args : List Value) : Option Nat :=
  let start := s.relativePosition items.size 0 (argument args 1)
  ((items.toList.drop start).findIdx? (·.strictEquals (argument args 0))).map (· + start)

/-- The elements from one position up to another. -/
def slice (s : Store) (items : Array Value) (args : List Value) : Array Value :=
  let start := s.relativePosition items.size 0 (argument args 0)
  let stop := s.relativePosition items.size items.size (argument args 1)
  items.extract start stop

/-- The separator that the first argument asks for. -/
def separator (s : Store) (args : List Value) : String :=
  match argument args 0 with
  | .undefined => ","
  | v => s.text v

/-- Calls a method of an array. -/
def run (call : Caller) (a : Address) (m : Method) (args : List Value) : Run Value := do
  match m with
  | .join => Run.read fun s => .string (s.joinArray a (separator s args))
  | .toString => Run.read fun s => .string (s.joinArray a ",")
  | .push =>
    Run.change (·.modifyArray a (· ++ args.toArray))
    Run.read fun s => .number (Decimal.ofNat (s.elements a).size)
  | .pop =>
    let last ← Run.read fun s => (s.elements a).back?
    Run.change (·.modifyArray a (·.pop))
    return last.getD .undefined
  | .indexOf =>
    Run.read fun s => .number (((indexOf s (s.elements a) args).map Decimal.ofNat).getD (-1.0))
  | .includes =>
    Run.read fun s => .boolean ((s.elements a).any fun v => v.sameValue (argument args 0))
  | .slice =>
    let items ← Run.read fun s => slice s (s.elements a) args
    Run.add (·.addArray items)
  | .forEach =>
    let _ ← visitAll? call a (argument args 0)
    return .undefined
  | .map =>
    let visited ← visitAll? call a (argument args 0)
    Run.add (·.addArray (visited.map (·.2)).toArray)
  | .filter =>
    let visited ← visitAll? call a (argument args 0)
    Run.add (·.addArray ((visited.filter (·.2.truthy)).map (·.1)).toArray)
  | _ => Run.fail (.notFunction m.name)

end ArrayMethod

end Microtemplate.Script
