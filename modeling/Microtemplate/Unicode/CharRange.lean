/-!
Ranges of code points, of which the character tables of this library are made, and the values of
hexadecimal digits.
-/

namespace Microtemplate.Unicode

/-- The code points from `first` to `last`, both included. -/
structure CharRange where
  first : Nat
  last : Nat
deriving DecidableEq, Repr

/-- The value of a hexadecimal digit. -/
def hexDigit? (c : Char) : Option Nat :=
  if '0' ≤ c ∧ c ≤ '9' then some (c.toNat - '0'.toNat)
  else if 'a' ≤ c ∧ c ≤ 'f' then some (c.toNat - 'a'.toNat + 10)
  else if 'A' ≤ c ∧ c ≤ 'F' then some (c.toNat - 'A'.toNat + 10)
  else none

namespace CharRange

/-- Whether a code point lies in the range. -/
def holds (r : CharRange) (n : Nat) : Bool := r.first ≤ n && n ≤ r.last

/-- Whether a character lies in one of the ranges. -/
def anyHolds (ranges : List CharRange) (c : Char) : Bool := ranges.any (·.holds c.toNat)

end CharRange

end Microtemplate.Unicode
