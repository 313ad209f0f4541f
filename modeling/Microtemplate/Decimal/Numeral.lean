import Microtemplate.Decimal.Binary

/-!
Decimal numerals. A numeral is a whole coefficient and a power of ten; its double is the one
nearest to that value. `Numeral.ofText?` reads the usual written forms: a sign, digits with at most
one point among them, and an exponent.
-/

namespace Microtemplate.Decimal

/-- The digits of a number in a base of at least two, most significant first. -/
def digits (base n : Nat) : List Nat := go (n + 1) n []
where
  /-- Each division makes the number smaller, so the first argument never runs out. -/
  go : Nat → Nat → List Nat → List Nat
    | 0, _, later => later
    | fuel + 1, n, later =>
      if n < base then n :: later else go fuel (n / base) (n % base :: later)

/-- The character for a digit: figures, then small letters. -/
def digitChar (d : Nat) : Char :=
  if d < 10 then Char.ofNat ('0'.toNat + d) else Char.ofNat ('a'.toNat + (d - 10))

/-- A number written in a base. -/
def inBase (base n : Nat) : List Char := (digits base n).map digitChar

/-- A number written in figures. -/
def figures (n : Nat) : List Char := inBase 10 n

/-- The value of a list of figures, read from the left. -/
def figuresValue (cs : List Char) : Nat :=
  cs.foldl (fun n c => n * 10 + (c.toNat - '0'.toNat)) 0

/-- The value `coefficient * 10 ^ exponent`. -/
structure Numeral where
  coefficient : Nat
  exponent : Int
deriving DecidableEq, Repr

namespace Numeral

/-- The double nearest to a numeral with a sign. The size of the numeral is looked at first, so
that no power of ten is computed where the answer is zero or infinite anyway. -/
def toFloat (n : Numeral) (negative : Bool) : Float :=
  if n.coefficient = 0 then nearest negative 0 1
  else
    let places : Int := (digits 10 n.coefficient).length + n.exponent
    if 400 < places then infinity negative
    else if places < -400 then nearest negative 0 1
    else nearest negative (n.coefficient * Nat.pow 10 n.exponent.toNat)
      (Nat.pow 10 (-n.exponent).toNat)

/-- A numeral given by the figures before and after its point and a further exponent. -/
def ofParts (whole fraction : List Char) (exponent : Int) : Numeral :=
  ⟨figuresValue (whole ++ fraction), exponent - fraction.length⟩

end Numeral

/-- An optional sign at the start of a text, and what follows it. -/
def signOf : List Char → Bool × List Char
  | '-' :: rest => (true, rest)
  | '+' :: rest => (false, rest)
  | rest => (false, rest)

/-- The figures after a point, if one is here, and what follows them. -/
def fractionOf : List Char → List Char × List Char
  | '.' :: rest => rest.span Char.isDigit
  | rest => ([], rest)

namespace Numeral

/-- An exponent in a text: an optional sign and at least one figure, and nothing after them. -/
def exponentOfText? (cs : List Char) : Option Int :=
  let (negative, ds) := signOf cs
  if ds.isEmpty || !ds.all Char.isDigit then none
  else some (if negative then -(figuresValue ds : Int) else figuresValue ds)

/-- The power of ten at the end of a text; if nothing is there, it is zero. -/
def powerOfText? : List Char → Option Int
  | [] => some 0
  | c :: rest => if c = 'e' ∨ c = 'E' then exponentOfText? rest else none

/-- Reads a whole text as a numeral with a sign: figures before or after a point, or both, then an
exponent if there is an `e`. -/
def ofText? (cs : List Char) : Option (Bool × Numeral) :=
  let (negative, start) := signOf cs
  let (whole, rest) := start.span Char.isDigit
  let (fraction, rest) := fractionOf rest
  if whole.isEmpty && fraction.isEmpty then none
  else (powerOfText? rest).map fun power => (negative, ofParts whole fraction power)

end Numeral

example : (Numeral.ofText? "-12.50e3".toList).map (fun p => p.2.toFloat p.1) = some (-12500.0) := by
  decide +kernel

end Microtemplate.Decimal
