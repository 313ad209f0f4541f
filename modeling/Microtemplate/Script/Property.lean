import Microtemplate.Script.Conversion

/-!
Properties of values. Arrays have indices and a length, texts have them too but cannot be changed,
objects have fields; strings, arrays, numbers and booleans have methods.
-/

namespace Microtemplate.Script

/-- The index that a key spells: figures without a superfluous zero, below `2 ^ 64`. -/
def arrayIndex? (key : String) : Option Nat :=
  match key.toList with
  | [] => none
  | '0' :: _ :: _ => none
  | cs =>
    if cs.all Char.isDigit && Decimal.figuresValue cs < Nat.pow 2 64 then some (Decimal.figuresValue cs)
    else none

/-- No array becomes longer than this by writing to an index or to its length. -/
def arrayLimit : Nat := Nat.pow 2 24

/-- The method of a value with a name. -/
def Method.of? (receiver : Value) (name : String) : Option Method :=
  let methods : List Method :=
    match receiver with
    | .string _ => [toUpperCase, toLowerCase, trim, startsWith, endsWith, split, repeated, charAt,
        replace, indexOf, includes, slice, toString]
    | .array _ => [indexOf, includes, slice, join, push, pop, forEach, map, filter, toString]
    | .number _ => [toFixed, toString]
    | .boolean _ => [toString]
    | _ => []
  methods.find? (·.name == name)

namespace Store

/-- The own property of a value that `with` makes visible as a name. -/
def ownProperty? (s : Store) (v : Value) (name : String) : Option Value :=
  match v with
  | .object a => (s.fields a).get? name
  | .array a =>
    if name = "length" then some (.number (Decimal.ofNat (s.elements a).size))
    else (arrayIndex? name).bind fun i => (s.elements a)[i]?
  | _ => none

/-- The keys of a value, in order. -/
def keys (s : Store) : Value → List String
  | .object a => (s.fields a).names
  | .array a => (List.range (s.elements a).size).map fun i => String.ofList (Decimal.figures i)
  | .string t => (List.range t.length).map fun i => String.ofList (Decimal.figures i)
  | _ => []

end Store

/-- Elements cut or filled up with `undefined` to a length. -/
def resize (items : Array Value) (length : Nat) : Array Value :=
  if length ≤ items.size then items.extract 0 length
  else items ++ Array.replicate (length - items.size) .undefined

/-- Puts a value at an index; what is missing before it becomes `undefined`. -/
def putAt (items : Array Value) (index : Nat) (v : Value) : Array Value :=
  if index < items.size then items.setIfInBounds index v else (resize items index).push v

namespace Run

/-- The text of a value. -/
def text (v : Value) : Run String := read (·.text v)

/-- Reads a method of a value: a bound method of its own each time. -/
def readMethod (v : Value) (key : String) : Run Value :=
  match Method.of? v key with
  | some m => add (·.addMethod ⟨v, m⟩)
  | none => return .undefined

/-- Reads a property of a value. -/
def readProperty (v : Value) (key : String) : Run Value := do
  match v with
  | .undefined | .null => fail (.cannotRead (← text v) key)
  | .object a => read fun s => ((s.fields a).get? key).getD .undefined
  | .array a =>
    if key = "length" then read fun s => .number (Decimal.ofNat (s.elements a).size)
    else match arrayIndex? key with
      | some i => read fun s => ((s.elements a)[i]?).getD .undefined
      | none => readMethod v key
  | .string t =>
    if key = "length" then return .number (Decimal.ofNat t.length)
    else match arrayIndex? key with
      | some i => return (t.toList[i]?).elim .undefined fun c => .string c.toString
      | none => readMethod v key
  | _ => readMethod v key

/-- Writes the length of an array. -/
def writeLength (a : Address) (new : Value) : Run Unit := do
  match Decimal.exactInt? (← read (·.number new)) with
  | some n =>
    if n < 0 ∨ (arrayLimit : Int) < n then fail .arrayLength
    else change (·.modifyArray a (resize · n.toNat))
  | none => fail .arrayLength

/-- Writes an element of an array. -/
def writeElement (a : Address) (index : Nat) (new : Value) : Run Unit := do
  let size ← read fun s => (s.elements a).size
  if size ≤ index ∧ arrayLimit ≤ index then fail .arrayLength
  else change (·.modifyArray a (putAt · index new))

/-- Writes a property of a value. Other keys of arrays, and all properties of other values, take no
notice. -/
def writeProperty (v : Value) (key : String) (new : Value) : Run Unit := do
  match v with
  | .undefined | .null => fail (.cannotWrite (← text v) key)
  | .object a => change (·.modifyObject a (·.set key new))
  | .array a =>
    if key = "length" then writeLength a new
    else match arrayIndex? key with
      | some i => writeElement a i new
      | none => return
  | _ => return

end Run

end Microtemplate.Script
