import Microtemplate.Decimal.Fixed
import Microtemplate.Script.Argument

/-!
The methods of numbers.
-/

namespace Microtemplate.Script

namespace NumberMethod

/-- A number with a given count of places after the point; numbers from `1e21` on, and those that
are not finite, are written as they are. -/
def toFixed (s : Store) (x : Float) (args : List Value) : Except RenderError String :=
  match s.whole (argument args 0) with
  | .int places =>
    if places < 0 ∨ 100 < places then .error .fixedPlaces
    else match Decimal.Binary.ofFloat x with
      | .finite negative significand exponent =>
        if Nat.pow 10 21 * Decimal.denominator exponent ≤ Decimal.numerator significand exponent then
          .ok (Decimal.numberText x)
        else .ok (Decimal.fixedText negative significand exponent places.toNat)
      | _ => .ok (Decimal.numberText x)
  | _ => .error .fixedPlaces

/-- A number in a base from two to thirty-six. -/
def toText (s : Store) (x : Float) (args : List Value) : Except RenderError String :=
  match argument args 0 with
  | .undefined => .ok (Decimal.numberText x)
  | v => match s.whole v with
    | .int base =>
      if base < 2 ∨ 36 < base then .error .radix else .ok (Decimal.radixText x base.toNat)
    | _ => .error .radix

/-- Calls a method of a number. -/
def run (s : Store) (x : Float) (m : Method) (args : List Value) : Except RenderError Value :=
  match m with
  | .toFixed => (toFixed s x args).map .string
  | .toString => (toText s x args).map .string
  | _ => .error (.notFunction m.name)

end NumberMethod

end Microtemplate.Script
