import Microtemplate.Decimal.Shortest

/-!
Written forms of numbers. A `Layout` holds the decisions of a written form: in which range of
exponents a number is written without one, whether a positive exponent has its sign, and what
marks a number without a fraction.
-/

namespace Microtemplate.Decimal

/-- The decisions of a written form of numbers. The exponent meant is the one of the leading
digit. -/
structure Layout where
  /-- The least exponent written positionally; none means that there is no least one. -/
  least : Option Int
  /-- The largest exponent written positionally; none means that there is no largest one. -/
  largest : Option Int
  /-- What stands before an exponent that is not negative. -/
  plus : List Char
  /-- What follows a positional number that has no fraction. -/
  wholeMark : List Char

namespace Layout

/-- Numbers of the script language: positional from `1e-6` up to twenty-one digits. -/
def script : Layout := ⟨some (-7 + 1), some 20, ['+'], []⟩

/-- Always one digit, a fraction if there are more, and the exponent. -/
def scientific : Layout := ⟨some 1, some 0, [], []⟩

/-- Always positional, with a fraction in any case. -/
def positional : Layout := ⟨none, none, [], ['.', '0']⟩

/-- Positional with a fraction from `1e-5` up to sixteen digits. -/
def compact : Layout := ⟨some (-5), some 15, [], ['.', '0']⟩

/-- Whether numbers with this exponent are written positionally. -/
def isPositional (l : Layout) (exponent : Int) : Bool :=
  l.least.all (· ≤ exponent) && l.largest.all (exponent ≤ ·)

/-- Writes a positive numeral. -/
def write (l : Layout) (n : Numeral) : List Char :=
  let ds := figures n.coefficient
  let exponent : Int := n.exponent + ds.length - 1
  if l.isPositional exponent then
    if 0 ≤ n.exponent then ds ++ List.replicate n.exponent.toNat '0' ++ l.wholeMark
    else if 0 ≤ exponent then
      ds.take (exponent.toNat + 1) ++ '.' :: ds.drop (exponent.toNat + 1)
    else '0' :: '.' :: (List.replicate (-exponent - 1).toNat '0' ++ ds)
  else
    let fraction := match ds.drop 1 with
      | [] => []
      | rest => '.' :: rest
    let mark := if exponent < 0 then ['-'] else l.plus
    ds.take 1 ++ fraction ++ 'e' :: (mark ++ figures exponent.natAbs)

end Layout

/-- A number as the script language writes it; both zeros are `0`. -/
def numberText (x : Float) : String :=
  match Binary.ofFloat x with
  | .nan => "NaN"
  | .infinite negative => if negative then "-Infinity" else "Infinity"
  | .finite negative significand exponent =>
    if significand = 0 then "0"
    else
      let text := Layout.script.write (shortest significand exponent)
      String.ofList (if negative then '-' :: text else text)

/-- A number in a layout that keeps the sign of zero; `zero` is how zero is written. -/
def signedText (l : Layout) (zero : String) (x : Float) : String :=
  match Binary.ofFloat x with
  | .nan => "NaN"
  | .infinite negative => if negative then "-inf" else "inf"
  | .finite negative significand exponent =>
    let text := if significand = 0 then zero.toList else l.write (shortest significand exponent)
    String.ofList (if negative then '-' :: text else text)

/-- A number with one digit before the point and an exponent. -/
def scientificText (x : Float) : String := signedText .scientific "0e0" x

/-- A number in another base, if it is whole and not beyond `2 ^ 64`; the largest such number is
taken as `2 ^ 64 - 1`. Others are written in base ten. -/
def radixText (x : Float) (base : Nat) : String :=
  match exactInt? x with
  | some i =>
    if base = 10 ∨ Nat.pow 2 64 < i.natAbs then numberText x
    else
      let text := inBase base (min i.natAbs (Nat.pow 2 64 - 1))
      String.ofList (if i < 0 then '-' :: text else text)
  | none => numberText x

example : numberText 0.1 = "0.1" := by decide +kernel
example : numberText 1e21 = "1e+21" := by decide +kernel
example : radixText 255.0 16 = "ff" := by decide +kernel

end Microtemplate.Decimal
