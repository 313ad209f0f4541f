import Microtemplate.Decimal.Numeral

/-!
The shortest numeral that reads back as a given double. For one, two, … seventeen digits the two
neighbours of the exact value on the grid of that many digits are tried; the first grid with a hit
wins, of two hits the nearer one, and the upper one of a tie. Should no grid have a hit, the exact
expansion is the answer, so that the answer reads back in any case.
-/

namespace Microtemplate.Decimal

/-- The power of ten of the leading digit of the fraction `num / den`. -/
def leadingPlace (num den : Nat) : Int :=
  if den ≤ num then ((digits 10 (num / den)).length : Int) - 1
  else -((digits 10 (den / num)).length : Int)

/-- Moves the zeros at the end of the coefficient into the exponent, at most as many as given. -/
def Numeral.strip : Nat → Numeral → Numeral
  | 0, n => n
  | fuel + 1, n =>
    if n.coefficient % 10 = 0 then strip fuel ⟨n.coefficient / 10, n.exponent + 1⟩ else n

/-- The numeral of the grid `10 ^ exponent` next to `num / den` that reads back as the given
double, if one of the two neighbours does. -/
def neighbour? (x : Float) (num den : Nat) (exponent : Int) : Option Numeral :=
  let top := num * Nat.pow 10 (-exponent).toNat
  let unit := den * Nat.pow 10 exponent.toNat
  let lower : Numeral := ⟨top / unit, exponent⟩
  let upper : Numeral := ⟨top / unit + 1, exponent⟩
  match decide (lower.toFloat false = x), decide (upper.toFloat false = x) with
  | true, true => some (if 2 * (top % unit) < unit then lower else upper)
  | true, false => some lower
  | false, true => some upper
  | false, false => none

/-- The exact decimal expansion of `significand * 2 ^ exponent`. -/
def exactNumeral (significand : Nat) (exponent : Int) : Numeral :=
  if exponent < 0 then ⟨significand * Nat.pow 5 (-exponent).toNat, exponent⟩
  else ⟨significand * Nat.pow 2 exponent.toNat, 0⟩

/-- The shortest numeral that reads back as the positive double with this significand and
exponent. -/
def shortest (significand : Nat) (exponent : Int) : Numeral :=
  let num := numerator significand exponent
  let den := denominator exponent
  let x := nearest false num den
  let place := leadingPlace num den
  let found := (List.range 17).findSome? fun (k : Nat) => neighbour? x num den (place - k)
  (found.getD (exactNumeral significand exponent)).strip 1100

example : shortest 5404319552844595 (-54) = ⟨3, -1⟩ := by decide +kernel

end Microtemplate.Decimal
