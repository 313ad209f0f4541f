import Microtemplate.Proofs.Script.Lexing

/-!
Characters that close. The closing parenthesis and the characters of gaps end whatever token stands
before them and belong to none that is longer, so a text may go on with one of them where it ended.
-/

namespace Microtemplate.Script

/-- The characters that end whatever token stands before them and belong to none that is longer: the
closing parenthesis and those of gaps. -/
def closes (c : Char) : Bool := c = ')' || isGap c

theorem closes_of_isGap {c : Char} (h : isGap c = true) : closes c = true := by
  rw [closes, h, Bool.or_true]

theorem closes_cases {c : Char} (h : closes c = true) : c = ')' ∨ isGap c = true := by
  simpa [closes] using h

theorem ne_of_closes {c d : Char} (h : closes c = true) (hd : closes d = false) : c ≠ d := by
  rintro rfl
  rw [h] at hd
  cases hd

/-- The code points of the characters that end tokens. -/
theorem toNat_of_closes {c : Char} (h : closes c = true) : c.toNat = 0x29 ∨ c.toNat = 0x20 ∨
    (0x09 ≤ c.toNat ∧ c.toNat ≤ 0x0D) ∨ 0x80 ≤ c.toNat := by
  rcases closes_cases h with rfl | h
  · exact Or.inl rfl
  · exact Or.inr ((toNat_of_isGap h).imp_right fun h => h.imp_right fun h => h.1)

/-- No run of figures or letters has such a character. -/
theorem not_between_of_closes {c : Char} (h : closes c = true) {first last : Char}
    (hrun : 0x29 < first.toNat ∧ last.toNat < 0x80) : ¬ (first ≤ c ∧ c ≤ last) := by
  rintro ⟨hfirst, hlast⟩
  have hfirst' : first.toNat ≤ c.toNat := UInt32.le_iff_toNat_le.mp hfirst
  have hlast' : c.toNat ≤ last.toNat := UInt32.le_iff_toNat_le.mp hlast
  rcases toNat_of_closes h with h | h | h | h <;> omega

theorem isDigit_of_closes {c : Char} (h : closes c = true) : c.isDigit = false := by
  refine Bool.eq_false_iff.mpr fun hdigit => ?_
  rw [Char.isDigit, Bool.and_eq_true, decide_eq_true_iff, decide_eq_true_iff] at hdigit
  have hfigure : ¬ ('0' ≤ c ∧ c ≤ '9') := not_between_of_closes h (by decide)
  exact hfigure hdigit

theorem isHexDigit_of_closes {c : Char} (h : closes c = true) : isHexDigit c = false := by
  rw [isHexDigit, Unicode.hexDigit?, if_neg (not_between_of_closes h (by decide)),
    if_neg (not_between_of_closes h (by decide)), if_neg (not_between_of_closes h (by decide))]
  rfl

theorem not_numeric_gapCodes : ∀ n ∈ gapCodes, (Unicode.Category.decimalNumber.any (·.holds n) ||
    Unicode.Category.letterNumber.any (·.holds n) ||
    Unicode.Category.otherNumber.any (·.holds n)) = false := by
  decide +kernel

theorem isIdentifierStart_of_closes {c : Char} (h : closes c = true) :
    isIdentifierStart c = false := by
  refine Bool.eq_false_iff.mpr fun hstart => ?_
  rcases closes_cases h with rfl | hgap
  · revert hstart
    decide
  · rw [not_isGap_of_isIdentifierStart hstart] at hgap
    cases hgap

theorem isIdentifierPart_of_closes {c : Char} (h : closes c = true) : isIdentifierPart c = false := by
  have hstart := isIdentifierStart_of_closes h
  have halphabetic : Unicode.isAlphabetic c = false := by
    rw [isIdentifierStart, Bool.or_eq_false_iff] at hstart
    exact hstart.2
  have hnumeric : Unicode.isNumeric c = false := by
    unfold Unicode.isNumeric
    split
    · exact isDigit_of_closes h
    · rename_i hhigh
      rcases closes_cases h with rfl | hgap
      · exact absurd (by decide) hhigh
      · rcases toNat_of_isGap hgap with hcode | hcode | ⟨-, hcode⟩
        · omega
        · omega
        · exact not_numeric_gapCodes _ hcode
  rw [isIdentifierPart, hstart, Unicode.isAlphanumeric, halphabetic, hnumeric]
  rfl

/-- What may stand where a token has ended, whatever token it was: nothing more, or a character that
closes. -/
def Closing (new : List Char) : Prop := ∀ c ∈ new.head?, closes c = true

theorem closing_cons {c : Char} (hc : closes c = true) (cs : List Char) : Closing (c :: cs) := by
  rintro _ ⟨⟩
  exact hc

/-- No other character starts such a text. -/
theorem Closing.ne_cons {new : List Char} (h : Closing new) {d : Char} (hd : closes d = false)
    (ds : List Char) : new ≠ d :: ds := by
  rintro rfl
  exact ne_of_closes (h d rfl) hd rfl

end Microtemplate.Script
