/-!
What a double stands for, and the double nearest to a fraction. A finite double is a sign, a whole
significand and a power of two; `nearest` rounds an exact fraction to the nearest such value, a tie
to the even significand, so that arithmetic on numerals is exact up to one rounding.
-/

namespace Microtemplate.Decimal

/-- A double as what it stands for: no number, an infinity, or `significand * 2 ^ exponent` with a
sign. -/
inductive Binary where
  | nan
  | infinite (negative : Bool)
  | finite (negative : Bool) (significand : Nat) (exponent : Int)
deriving DecidableEq, Repr

namespace Binary

/-- Reads sign, exponent and fraction off the bits. -/
def ofFloat (x : Float) : Binary :=
  let bits := x.toBits.toNat
  let negative := bits / Nat.pow 2 63 == 1
  let biased : Nat := bits / Nat.pow 2 52 % Nat.pow 2 11
  let fraction := bits % Nat.pow 2 52
  if biased = 2047 then
    if fraction = 0 then .infinite negative else .nan
  else if biased = 0 then .finite negative fraction (-1074)
  else .finite negative (fraction + Nat.pow 2 52) ((biased : Int) - 1075)

end Binary

/-- The number that is no number. -/
def nan : Float := Float.ofBits 0x7FF8000000000000

/-- The positive or the negative infinity. -/
def infinity (negative : Bool) : Float :=
  Float.ofBits (if negative then 0xFFF0000000000000 else 0x7FF0000000000000)

/-- The numerator of `significand * 2 ^ exponent` written as a fraction of whole numbers. -/
def numerator (significand : Nat) (exponent : Int) : Nat := significand * Nat.pow 2 exponent.toNat

/-- The denominator of a whole multiple of `2 ^ exponent` written as a fraction. -/
def denominator (exponent : Int) : Nat := Nat.pow 2 (-exponent).toNat

/-- The whole number nearest to a fraction, a tie going to the even one. -/
def roundToEven (num den : Nat) : Nat :=
  let q := num / den
  let twice := 2 * (num % den)
  if twice < den then q
  else if den < twice then q + 1
  else q + q % 2

/-- The exponent at which a fraction has a significand of 53 bits, or the least exponent of a
double where that is larger. -/
def scaleOf (num den : Nat) : Int :=
  let guess : Int := (num.log2 : Int) - den.log2 - 53
  let exponent :=
    if num * Nat.pow 2 (-guess).toNat < Nat.pow 2 53 * (den * Nat.pow 2 guess.toNat) then guess
    else guess + 1
  max exponent (-1074)

/-- The bits of the nonnegative double nearest to `num / den`; from half a unit above the largest
double on, those of infinity. A significand rounded up to `2 ^ 53` carries into the exponent by
itself. -/
def nearestBits (num den : Nat) : Nat :=
  let exponent := scaleOf num den
  let significand := roundToEven (num * Nat.pow 2 (-exponent).toNat) (den * Nat.pow 2 exponent.toNat)
  let bits := if significand < Nat.pow 2 52 then significand
    else (exponent + 1074).toNat * Nat.pow 2 52 + significand
  min bits 0x7FF0000000000000

/-- The double nearest to the fraction `num / den`, with a sign. -/
def nearest (negative : Bool) (num den : Nat) : Float :=
  let bits := if num = 0 then 0 else nearestBits num den
  Float.ofBits (UInt64.ofNat (if negative then bits + Nat.pow 2 63 else bits))

/-- The double nearest to a whole number. -/
def ofNat (n : Nat) : Float := nearest false n 1

/-- The double nearest to a whole number with a sign. -/
def ofInt (i : Int) : Float := nearest (i < 0) i.natAbs 1

/-- The remainder of the division rounded towards zero: exact, with the sign of the dividend. No
number if the dividend is infinite or the divisor zero. -/
def remainder (x y : Float) : Float :=
  match Binary.ofFloat x, Binary.ofFloat y with
  | .finite negative mx ex, .finite _ my ey =>
    if my = 0 then nan
    else
      let exponent := min ex ey
      let rest := (mx * Nat.pow 2 (ex - exponent).toNat) % (my * Nat.pow 2 (ey - exponent).toNat)
      nearest negative (numerator rest exponent) (denominator exponent)
  | .finite .., .infinite _ => x
  | _, _ => nan

/-- A number without its fraction: a whole number or one of the infinities. -/
inductive Whole where
  | below
  | int (i : Int)
  | above
deriving DecidableEq, Repr

/-- Drops the fraction, towards zero; what is no number counts as zero. -/
def Whole.ofFloat (x : Float) : Whole :=
  match Binary.ofFloat x with
  | .nan => .int 0
  | .infinite negative => if negative then .below else .above
  | .finite negative significand exponent =>
    let n := numerator significand exponent / denominator exponent
    .int (if negative then -(n : Int) else n)

/-- The whole number a double is equal to, if there is one. -/
def exactInt? (x : Float) : Option Int :=
  match Binary.ofFloat x with
  | .finite negative significand exponent =>
    let num := numerator significand exponent
    let den := denominator exponent
    if num % den = 0 then some (if negative then -((num / den : Nat) : Int) else (num / den : Nat))
    else none
  | _ => none

example : ofNat 3 = 3.0 := by decide +kernel
example : nearest true 1 10 = -0.1 := by decide +kernel
example : Whole.ofFloat (-2.75) = .int (-2) := by decide +kernel

end Microtemplate.Decimal
