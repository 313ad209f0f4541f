import Microtemplate.Script.Property

/-!
Names. A name is resolved in the frames of a scope from the innermost one on; in a frame made by
`with`, the own properties of its value come before the names of the frame.
-/

namespace Microtemplate.Script

/-- Where a name was found. -/
inductive Resolved where
  /-- An own property of a value, with its value. -/
  | property (owner value : Value)
  /-- A name of a frame. -/
  | binding (frame : Address) (b : Binding)

/-- The value of a resolved name. -/
def Resolved.value : Resolved → Value
  | property _ v => v
  | binding _ b => b.value

namespace Store

/-- The own property that a frame makes visible as a name. -/
def visibleProperty? (s : Store) (frame : Frame) (name : String) : Option Resolved :=
  match frame.kind with
  | .within v => (s.ownProperty? v name).map (.property v)
  | _ => none

/-- A name in one frame. -/
def resolveIn? (s : Store) (a : Address) (name : String) : Option Resolved :=
  match s.frames[a]? with
  | some frame =>
    match s.visibleProperty? frame name with
    | some r => some r
    | none => (frame.bindings.get? name).map (.binding a)
  | none => none

/-- A name in the frames of a scope. -/
def resolve? (s : Store) (scope : Scope) (name : String) : Option Resolved :=
  scope.findSome? (s.resolveIn? · name)

/-- The value of a name. -/
def lookup? (s : Store) (scope : Scope) (name : String) : Option Value :=
  (s.resolve? scope name).map (·.value)

/-- Declares a name in a frame; an earlier declaration there is replaced. -/
def declare (s : Store) (frame : Address) (name : String) (b : Binding) : Store :=
  s.modifyFrame frame (·.set name b)

/-- Declares a name in a frame that has no such name yet. -/
def declareMissing (s : Store) (frame : Address) (name : String) (b : Binding) : Store :=
  s.modifyFrame frame fun bindings => if bindings.has name then bindings else bindings.set name b

end Store

namespace Run

/-- The value of a name that has to be there. -/
def lookup (scope : Scope) (name : String) : Run Value := do
  match ← read (·.lookup? scope name) with
  | some v => return v
  | none => fail (.notDefined name)

/-- Gives a name a new value where it was found. -/
def assign (scope : Scope) (name : String) (v : Value) : Run Unit := do
  match ← read (·.resolve? scope name) with
  | none => fail (.notDefined name)
  | some (.property owner _) => writeProperty owner name v
  | some (.binding frame b) =>
    if b.assignable then change (·.declare frame name ⟨v, true⟩) else fail .constantAssigned

/-- Declares a name in a frame. -/
def declare (frame : Address) (name : String) (v : Value) (assignable : Bool) : Run Unit :=
  change (·.declare frame name ⟨v, assignable⟩)

/-- Declares parameters; missing arguments are `undefined`. -/
def declareParameters (frame : Address) : List String → List Value → Run Unit
  | [], _ => return
  | p :: ps, args => do
    declare frame p (args.head?.getD .undefined) true
    declareParameters frame ps args.tail

end Run

end Microtemplate.Script
