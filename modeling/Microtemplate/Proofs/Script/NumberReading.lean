import Microtemplate.Proofs.Decimal.Exact
import Microtemplate.Proofs.Decimal.Layouts
import Microtemplate.Proofs.Script.NumberTokens

/-!
Reading the texts of numbers. The text of a number denotes exactly the number that its shortest figures
say, the lexer takes the text of a positive number as one token, and the text of any number is converted
back to the number; only zero loses its sign.
-/

namespace Microtemplate.Script

open Decimal

variable {cs whole fraction power : List Char} {exponent : Int}

section Characters

theorem isBlank_of_isDigit {c : Char} (h : c.isDigit = true) : Unicode.isBlank c = false := by
  have hgap := isGap_of_isDigit h
  simp only [isGap, Bool.or_eq_false_iff] at hgap
  exact hgap.1.2

/-- The characters of numerals. -/
def InNumeral (c : Char) : Prop := c.isDigit = true ∨ c ∈ ['.', 'e', '+', '-']

theorem InNumeral.isBlank {c : Char} (h : InNumeral c) : Unicode.isBlank c = false := by
  rcases h with h | h
  · exact isBlank_of_isDigit h
  · simp only [List.mem_cons, List.not_mem_nil, or_false] at h
    rcases h with rfl | rfl | rfl | rfl <;> rfl

theorem not_inNumeral {c : Char} (hc : c = 'I' ∨ c = 'x' ∨ c = 'X') : ¬ InNumeral c := by
  unfold InNumeral
  rcases hc with rfl | rfl | rfl <;> decide

theorem inNumeral_of_parted (h : Parted cs whole fraction exponent power) :
    ∀ c ∈ cs, InNumeral c := by
  have hpower : ∀ c ∈ power, InNumeral c := by
    rcases h.power with _ | ⟨-, hds⟩ | ⟨-, hds⟩
    · nofun
    all_goals
      refine List.forall_mem_cons.mpr ⟨.inr (by decide), ?_⟩
      exact List.forall_mem_cons.mpr ⟨.inr (by decide), fun c hc => .inl (hds c hc)⟩
  have hpoint : ∀ c ∈ pointText fraction, InNumeral c := by
    have hfraction := h.fraction
    cases fraction with
    | nil => nofun
    | cons d ds => exact List.forall_mem_cons.mpr ⟨.inr (by decide), fun c hc => .inl (hfraction c hc)⟩
  rw [h.text]
  intro c hc
  rcases List.mem_append.mp hc with hc | hc
  · exact .inl (h.whole.2 c hc)
  · exact (List.mem_append.mp hc).elim (hpoint c) (hpower c)

end Characters

/-- A text of numeral characters that is read as a numeral is converted to its double. -/
theorem numberOfText_of_ofText? {text : List Char} {negative : Bool} {n : Numeral}
    (hchars : ∀ c ∈ text, InNumeral c) (h : Numeral.ofText? text = some (negative, n)) :
    numberOfText (String.ofList text) = n.toFloat negative := by
  have htrim : Unicode.trim (String.ofList text).toList = text := by
    rw [String.toList_ofList]
    exact trim_eq_self (fun c hc => (hchars c (List.mem_of_mem_head? hc)).isBlank)
      fun c hc => (hchars c (List.mem_of_mem_getLast? hc)).isBlank
  have hne : text ≠ [] := by
    rintro rfl
    cases h
  have hletter : ∀ w ∈ ["Infinity", "+Infinity", "-Infinity"], 'I' ∈ w.toList := by decide
  rw [numberOfText_decimal htrim hne, h]
  · rfl
  · rintro w hw rfl
    exact not_inNumeral (.inl rfl) (hchars 'I' (hletter w hw))
  · rintro c hc ds rfl
    exact not_inNumeral (.inr hc) (hchars c (.tail _ (.head _)))

/-- A text of a numeral is converted to the double of the numeral, with the sign before it. -/
theorem numberOfText_parted (h : Parted cs whole fraction exponent power) (negative : Bool) :
    numberOfText (String.ofList (if negative then '-' :: cs else cs)) =
      (Numeral.ofParts whole fraction exponent).toFloat negative := by
  refine numberOfText_of_ofText? ?_ (h.ofText?_eq negative)
  cases negative
  · exact inNumeral_of_parted h
  · exact List.forall_mem_cons.mpr ⟨.inr (by decide), inNumeral_of_parted h⟩

namespace Lexer

theorem exponent_powerText (h : PowerText exponent power) :
    Lexer.exponent power = .ok (exponent, []) := by
  have hfigures : ∀ {ds : List Char}, AreFigures ds → ds.span Char.isDigit = (ds, []) ∧
      ds.isEmpty = false := fun hds =>
    ⟨by simpa using @span_figures _ [] hds.2 nofun, by simpa using hds.1⟩
  cases h with
  | none => rfl
  | plus h | minus h =>
    refine (exponent_letter (.inl rfl)).mpr ?_
    obtain ⟨hspan, hne⟩ := hfigures h
    rw [signOf, hspan]
    exact ⟨hne, rfl, rfl⟩

theorem number_parted (h : Parted cs whole fraction exponent power) :
    number cs = .ok ((Numeral.ofParts whole fraction exponent).toFloat false, []) := by
  rw [number_decimal, decimal_eq, h.span_eq]
  · dsimp only
    rw [h.fractionOf_eq]
    dsimp only
    rw [exponent_powerText h.power]
    rfl
  · rintro c hc rest rfl
    exact not_inNumeral (.inr hc) (inNumeral_of_parted h c (.tail _ (.head _)))

/-- The text of a numeral is one token, and there is nothing after it. -/
theorem tokens_parted (h : Parted cs whole fraction exponent power) : tokens cs =
    .ok [⟨.number ((Numeral.ofParts whole fraction exponent).toFloat false), false, cs⟩,
      ⟨.endOfInput, true, []⟩] := by
  refine (isNumber_iff.mpr ⟨?_, number_parted h⟩).1
  obtain ⟨c, rest, rfl, hc⟩ := h.exists_cons
  rw [startsNumber_cons_of_ne]
  · exact hc
  · rintro rfl
    cases hc

end Lexer

section Texts

variable {x : Float}

/-- The text of a number is converted back to the number, but for the sign of zero. -/
theorem numberOfText_numberText (hx : Binary.ofFloat x ≠ .nan) :
    numberOfText (numberText x) = if x = -0.0 then 0.0 else x := by
  cases hbinary : Binary.ofFloat x with
  | nan => exact absurd hbinary hx
  | infinite negative =>
    rw [eq_infinity_of_ofFloat hbinary]
    cases negative <;> decide +kernel
  | finite negative m e =>
    by_cases hm : m = 0
    · subst hm
      have hzero : x = if negative then -0.0 else 0.0 := by
        rw [← nearest_ofFloat hbinary, numerator, Nat.zero_mul, nearest, if_pos rfl]
        cases negative <;> decide +kernel
      rw [hzero]
      cases negative <;> decide +kernel
    · have hne : x ≠ -0.0 := by
        rintro rfl
        rw [show Binary.ofFloat (-0.0) = .finite true 0 (-1074) by decide +kernel] at hbinary
        cases hbinary
        exact hm rfl
      obtain ⟨whole, fraction, exponent, power, hparted, hread⟩ := numberText_parted hbinary hm
      rw [if_neg hne, numberText_eq hbinary hm, numberOfText_parted hparted, hread]

/-- The text of a finite number that is not zero denotes the figures and the power of ten that the
number has when it is written with one figure before the point. They are laid out as their power says,
and the text of a positive number is one token. The text of any number is converted back to the number;
only zero loses its sign. -/
theorem numberText_denotes (hx : Binary.ofFloat x ≠ .nan) :
    (∀ q, Exactly x q → q ≠ 0 → ∃ ds exponent cs, AreFigures ds ∧ ds.head? ≠ some '0' ∧
      (scientificText x).toList =
        (if q < 0 then '-' :: powerLayout [] ds exponent else powerLayout [] ds exponent) ∧
      (numberText x).toList = (if q < 0 then '-' :: cs else cs) ∧ LaidOut ds exponent cs ∧
      StandsFor cs (figuresValue ds * 10 ^ (exponent + 1 - ds.length)) ∧
      (0 < q → Lexer.tokens (numberText x).toList =
        .ok [⟨.number x, false, (numberText x).toList⟩, ⟨.endOfInput, true, []⟩])) ∧
    numberOfText (numberText x) = if x = -0.0 then 0.0 else x := by
  refine ⟨fun q hq hne => ?_, numberOfText_numberText hx⟩
  obtain ⟨negative, m, e, hfinite, -⟩ := id hq
  have hm : m ≠ 0 := mt (hq.eq_zero_iff hfinite).mpr hne
  have hcoefficient := shortest_coefficient_pos hfinite (Nat.pos_of_ne_zero hm)
  have hfigures := areFigures_figures hcoefficient
  have hlaidOut := Layout.script_laidOut (shortest m e)
  have hsign : q < 0 ↔ negative = true := by simpa [hm] using hq.neg_iff hfinite
  refine ⟨_, _, _, hfigures, ?_, ?_, ?_, hlaidOut, hlaidOut.standsFor hfigures, fun hpositive => ?_⟩
  · obtain ⟨c, cs, hcs, hc⟩ := exists_cons_figures hcoefficient
    rw [hcs]
    exact fun heq => hc (Option.some.inj heq)
  · simp only [scientificText_eq hfinite hm, String.toList_ofList, hsign]
  · simp only [numberText_eq hfinite hm, String.toList_ofList, hsign]
  · obtain rfl : negative = false := by
      rw [← Bool.not_eq_true, ← hsign]
      exact not_lt.mpr hpositive.le
    obtain ⟨whole, fraction, exponent, power, hparted, hread⟩ := numberText_parted hfinite hm
    rw [numberText_eq hfinite hm, String.toList_ofList, if_neg Bool.false_ne_true, ← hread]
    exact Lexer.tokens_parted hparted

/-- A number that is written with a power of ten. -/
theorem numberText_denotes_power :
    Binary.ofFloat 1.5e21 ≠ .nan ∧ Exactly 1.5e21 (15 * 10 ^ 20) ∧
      (∃ ds exponent cs, (scientificText 1.5e21).toList = powerLayout [] ds exponent ∧
        (numberText 1.5e21).toList = cs ∧ LaidOut ds exponent cs ∧
        StandsFor cs (figuresValue ds * 10 ^ (exponent + 1 - ds.length)) ∧
        Lexer.tokens (numberText 1.5e21).toList =
          .ok [⟨.number 1.5e21, false, (numberText 1.5e21).toList⟩, ⟨.endOfInput, true, []⟩]) ∧
      numberOfText (numberText 1.5e21) = 1.5e21 := by
  have hx : Binary.ofFloat 1.5e21 ≠ .nan := by decide +kernel
  have hexact : Exactly 1.5e21 (15 * 10 ^ 20) :=
    ⟨false, 5722045898437500, 18, by decide +kernel, by norm_num⟩
  obtain ⟨htext, hread⟩ := numberText_denotes hx
  obtain ⟨ds, exponent, cs, -, -, hscientific, hcs, hlaidOut, hstands, htokens⟩ :=
    htext _ hexact (by norm_num)
  rw [if_neg (by norm_num)] at hscientific hcs
  rw [if_neg (by decide +kernel)] at hread
  exact ⟨hx, hexact, ⟨ds, exponent, cs, hscientific, hcs, hlaidOut, hstands,
    htokens (by norm_num)⟩, hread⟩

end Texts

end Microtemplate.Script
