import Microtemplate.Fields
import Microtemplate.Script.RenderError
import Microtemplate.Script.Tree
import Microtemplate.Script.Value

/-!
The store of a run: arrays, objects, functions, bound methods and frames of names, each kind by
address. A `Run` is a computation on a store that ends with a value, with an error, or because its
bound of steps is used up; the store is kept in all three cases.
-/

namespace Microtemplate.Script

/-- The frames in which a name is looked up, the innermost first. -/
abbrev Scope := List Address

/-- A function and the frames around it. -/
structure Closure where
  code : Function
  scope : Scope

/-- A method and the value it was read from. -/
structure BoundMethod where
  receiver : Value
  method : Method

/-- The value of a name, and whether it can be assigned to. -/
structure Binding where
  value : Value
  assignable : Bool
deriving DecidableEq

/-- The kinds of frames. -/
inductive FrameKind where
  | global
  | function
  | block
  /-- The own properties of the value are names too, before those of the frame. -/
  | within (value : Value)
deriving DecidableEq

/-- A frame of names. -/
structure Frame where
  kind : FrameKind
  bindings : Fields Binding

/-- Everything that has an address. -/
structure Store where
  arrays : Array (Array Value)
  objects : Array (Fields Value)
  functions : Array Closure
  methods : Array BoundMethod
  frames : Array Frame

namespace Store

/-- Nothing has an address. -/
def empty : Store := ⟨#[], #[], #[], #[], #[]⟩

/-- The elements of an array. -/
def elements (s : Store) (a : Address) : Array Value := s.arrays[a]?.getD #[]

/-- The fields of an object. -/
def fields (s : Store) (a : Address) : Fields Value := s.objects[a]?.getD []

/-- The number of arrays and objects. -/
def containerCount (s : Store) : Nat := s.arrays.size + s.objects.size

/-- Changes the elements of an array. -/
def modifyArray (s : Store) (a : Address) (f : Array Value → Array Value) : Store :=
  { s with arrays := s.arrays.modify a f }

/-- Changes the fields of an object. -/
def modifyObject (s : Store) (a : Address) (f : Fields Value → Fields Value) : Store :=
  { s with objects := s.objects.modify a f }

/-- Changes the names of a frame. -/
def modifyFrame (s : Store) (a : Address) (f : Fields Binding → Fields Binding) : Store :=
  { s with frames := s.frames.modify a fun frame => { frame with bindings := f frame.bindings } }

/-- A new array. -/
def addArray (s : Store) (items : Array Value) : Value × Store :=
  (.array s.arrays.size, { s with arrays := s.arrays.push items })

/-- A new object. -/
def addObject (s : Store) (fields : Fields Value) : Value × Store :=
  (.object s.objects.size, { s with objects := s.objects.push fields })

/-- A new function. -/
def addFunction (s : Store) (c : Closure) : Value × Store :=
  (.function s.functions.size, { s with functions := s.functions.push c })

/-- A new bound method. -/
def addMethod (s : Store) (m : BoundMethod) : Value × Store :=
  (.method s.methods.size, { s with methods := s.methods.push m })

/-- A new frame without names. -/
def addFrame (s : Store) (kind : FrameKind) : Address × Store :=
  (s.frames.size, { s with frames := s.frames.push ⟨kind, []⟩ })

end Store

/-- Why a run has ended early. -/
inductive Halt where
  | failed (e : RenderError)
  /-- The bound of steps is used up; the run itself has not ended. -/
  | exhausted
deriving DecidableEq

/-- Computations on a store. -/
abbrev Run := ExceptT Halt (StateM Store)

namespace Run

/-- Ends the run with an error. -/
def fail {α : Type} (e : RenderError) : Run α := throw (.failed e)

/-- What a function finds in the store. -/
def read {α : Type} (f : Store → α) : Run α := return f (← get)

/-- Changes the store. -/
def change (f : Store → Store) : Run Unit := modify f

/-- Adds to the store and gives the address or value of what has been added. -/
def add {α : Type} (f : Store → α × Store) : Run α := modifyGet f

end Run

end Microtemplate.Script
