import Microtemplate.Unicode.Category
import Microtemplate.Unicode.Property

/-!
The character classes that the readers of this library use: blanks, letters, digits and numbers.
The ASCII part of each class is decided without its table.
-/

namespace Microtemplate.Unicode

/-- White space (`White_Space`): the ASCII blanks and the spaces and separators beyond them. -/
def isBlank (c : Char) : Bool :=
  let n := c.toNat
  n = 0x20 || (0x09 ≤ n && n ≤ 0x0D) || n = 0x85 || n = 0xA0 || n = 0x1680
    || (0x2000 ≤ n && n ≤ 0x200A) || n = 0x2028 || n = 0x2029 || n = 0x202F || n = 0x205F
    || n = 0x3000

/-- Letters and the characters that count as letters (`Alphabetic`). -/
def isAlphabetic (c : Char) : Bool :=
  if c.toNat < 128 then c.isAlpha else CharRange.anyHolds Property.alphabetic c

/-- Decimal digits, letter numbers and other numbers. -/
def isNumeric (c : Char) : Bool :=
  if c.toNat < 128 then c.isDigit
  else CharRange.anyHolds Category.decimalNumber c || CharRange.anyHolds Category.letterNumber c
    || CharRange.anyHolds Category.otherNumber c

/-- Letters and numbers. -/
def isAlphanumeric (c : Char) : Bool := isAlphabetic c || isNumeric c

/-- Removes the blanks at the end. -/
def trimEnd (cs : List Char) : List Char := (cs.reverse.dropWhile isBlank).reverse

/-- Removes the blanks at both ends. -/
def trim (cs : List Char) : List Char := trimEnd (cs.dropWhile isBlank)

/-- Every blank of the core library is a blank here. -/
theorem isBlank_of_isWhitespace {c : Char} (h : c.isWhitespace = true) : isBlank c = true := by
  simp only [Char.isWhitespace, Bool.or_eq_true, decide_eq_true_eq] at h
  rcases h with ((rfl | rfl) | rfl) | rfl <;> decide

end Microtemplate.Unicode
