import Microtemplate.Script.Conversion

/-!
Arguments of builtin functions and methods. A position argument is a whole number resolved against
a length, so that it never leaves it.
-/

namespace Microtemplate.Script

/-- An argument; a missing one is `undefined`. -/
def argument (args : List Value) (i : Nat) : Value := args[i]?.getD .undefined

namespace Store

/-- A value as a whole number; what is no number is zero. -/
def whole (s : Store) (v : Value) : Decimal.Whole := Decimal.Whole.ofFloat (s.number v)

/-- A position, counted from the end if it is negative. -/
def relativePosition (s : Store) (length default : Nat) (v : Value) : Nat :=
  if v = .undefined then default
  else match s.whole v with
    | .below => 0
    | .above => length
    | .int i => if i < 0 then (length + i).toNat else min i.toNat length

/-- A position, a negative one being the start. -/
def clampedPosition (s : Store) (length default : Nat) (v : Value) : Nat :=
  if v = .undefined then default
  else match s.whole v with
    | .below => 0
    | .above => length
    | .int i => min i.toNat length

theorem relativePosition_le {s : Store} {length default : Nat} {v : Value}
    (h : default ≤ length) : s.relativePosition length default v ≤ length := by
  unfold relativePosition
  split
  · exact h
  · split <;> (try split) <;> omega

theorem clampedPosition_le {s : Store} {length default : Nat} {v : Value}
    (h : default ≤ length) : s.clampedPosition length default v ≤ length := by
  unfold clampedPosition
  split
  · exact h
  · split <;> omega

end Store

end Microtemplate.Script
