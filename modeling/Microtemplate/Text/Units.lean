/-!
The order of texts by UTF-16 code units: characters beyond U+FFFF count as two surrogates, so they
come before the last characters below it.
-/

namespace Microtemplate.Text

/-- The UTF-16 code units of a character. -/
def unitsOfChar (c : Char) : List Nat :=
  if c.toNat < 0x10000 then [c.toNat]
  else [0xD800 + (c.toNat - 0x10000) / 1024, 0xDC00 + (c.toNat - 0x10000) % 1024]

/-- The UTF-16 code units of a text. -/
def units (cs : List Char) : List Nat := cs.flatMap unitsOfChar

/-- The order in which the first difference decides, and a beginning comes before what goes on. -/
def compareUnits : List Nat → List Nat → Ordering
  | [], [] => .eq
  | [], _ :: _ => .lt
  | _ :: _, [] => .gt
  | a :: as, b :: bs => if a < b then .lt else if b < a then .gt else compareUnits as bs

example : compareUnits (units ['\uffff']) (units ['😀']) = .gt := by decide

end Microtemplate.Text
