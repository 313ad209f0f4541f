import Microtemplate.Decimal.Numeral

/-!
Numbers with a fixed count of places after the point. The exact value is written out by long
division; of its digits those up to the last place are kept, and the next one decides whether one is
added there, so that a half is rounded away from zero.
-/

namespace Microtemplate.Decimal

/-- The digits of the fraction `rest / den` after the point, by long division. -/
def fractionDigits (den : Nat) : Nat → Nat → List Nat
  | 0, _ => []
  | count + 1, rest => 10 * rest / den :: fractionDigits den count (10 * rest % den)

/-- How many places an exact value is written with. No double has more. -/
def exactPlaces : Nat := 1100

/-- Adds one in the last place of a number that is given by its digits, the last one first: nines
become zeros, and where there are no other digits one more stands in front. -/
def increment : List Nat → List Nat
  | [] => [1]
  | d :: ds => if d = 9 then 0 :: increment ds else (d + 1) :: ds

/-- The digits of a number rounded to some places, those of the places included. -/
def roundedDigits (whole fraction : List Nat) (places : Nat) : List Nat :=
  let kept := whole ++ (fraction ++ List.replicate places 0).take places
  if fraction[places]?.any (5 ≤ ·) then (increment kept.reverse).reverse else kept

/-- Digits with a point before the last places, if there are any. -/
def pointed (ds : List Nat) (places : Nat) : List Char :=
  let cs := ds.map digitChar
  cs.take (ds.length - places) ++
    if places = 0 then [] else '.' :: cs.drop (ds.length - places)

/-- A number with the given count of places after the point: the exact value rounded to the nearest
such decimal, a half away from zero. Zero has no sign. -/
def fixedText (negative : Bool) (significand : Nat) (exponent : Int) (places : Nat) : String :=
  let num := numerator significand exponent
  let den := denominator exponent
  let fraction := fractionDigits den exactPlaces (num % den)
  let text := pointed (roundedDigits (digits 10 (num / den)) fraction places) places
  String.ofList (if negative && significand != 0 then '-' :: text else text)

end Microtemplate.Decimal
