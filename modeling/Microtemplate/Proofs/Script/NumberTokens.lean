import Microtemplate.Proofs.Decimal.Shortest
import Microtemplate.Proofs.Script.Cutting
import Microtemplate.Script.Conversion

/-!
Texts that are converted to numbers and texts that the lexer reads as numbers. They are the same texts with
the same numbers, blanks and signs at the ends and infinities apart; only after `0x` the conversion takes a
plus sign, which the lexer does not.
-/

namespace Microtemplate.Script

open Decimal

variable {cs ds : List Char} {x : Float}

section Spans

theorem span_snd_eq_nil_iff {p : Char → Bool} : (cs.span p).2 = [] ↔ cs.all p = true := by
  rw [List.span_eq_takeWhile_dropWhile, List.dropWhile_eq_nil_iff, List.all_eq_true]

theorem span_fst_of_all {p : Char → Bool} (h : cs.all p = true) : (cs.span p).1 = cs := by
  rw [List.span_eq_takeWhile_dropWhile, List.takeWhile_eq_self_iff]
  exact List.all_eq_true.mp h

end Spans

theorem isGap_of_isDigit {c : Char} (h : c.isDigit = true) : isGap c = false := by
  by_contra hgap
  rw [isDigit_of_closes (closes_of_isGap (by simpa using hgap))] at h
  cases h

namespace Lexer

/-- A whole text is one token, a number. -/
def IsNumber (cs : List Char) (x : Float) : Prop :=
  tokens cs = .ok [⟨.number x, false, cs⟩, ⟨.endOfInput, true, []⟩] ∧ token cs = .ok (.number x, [])

theorem startsNumber_first (h : startsNumber cs = true) :
    ∃ c rest, cs = c :: rest ∧ (c.isDigit = true ∨ c = '.') := by
  unfold startsNumber at h
  split at h
  · exact ⟨_, _, rfl, .inr rfl⟩
  · exact ⟨_, _, rfl, .inl h⟩
  · cases h

theorem startsNumber_letter {c : Char} (h : startsNumber (c :: cs) = true) :
    isIdentifierStart c = false := by
  obtain ⟨_, _, ⟨⟩, hc | rfl⟩ := startsNumber_first h
  · by_contra hletter
    rw [isDigit_of_isIdentifierStart (by simpa using hletter)] at hc
    cases hc
  · rfl

theorem startsToken_of_startsNumber (h : startsNumber cs = true) : StartsToken cs := by
  obtain ⟨c, rest, rfl, hc⟩ := startsNumber_first h
  refine ⟨c, rest, rfl, ?_, ?_⟩
  · obtain hc | rfl := hc
    · exact isGap_of_isDigit hc
    · rfl
  · rintro rfl
    simp at hc

/-- A text is one number token exactly if a number starts there and nothing is left after it. -/
theorem isNumber_iff : IsNumber cs x ↔ startsNumber cs = true ∧ number cs = .ok (x, []) := by
  constructor
  · rintro ⟨-, htoken⟩
    cases cs with
    | nil => cases htoken
    | cons c cs =>
      have hstart := startsNumber_of_token htoken
      rw [token_cons_eq_ok_iff, if_neg (by simp [startsNumber_letter hstart]), if_pos hstart]
        at htoken
      obtain ⟨_, hnumber, ⟨⟩⟩ := htoken
      exact ⟨hstart, hnumber⟩
  · rintro ⟨hstart, hnumber⟩
    have hgap := (startsToken_of_startsNumber hstart).skipGap_eq false
    obtain ⟨c, rest, rfl, -⟩ := startsNumber_first hstart
    have htoken : token (c :: rest) = .ok (.number x, []) := by
      rw [token_cons_eq_ok_iff, if_neg (by simp [startsNumber_letter hstart]), if_pos hstart]
      exact ⟨x, hnumber, rfl⟩
    exact ⟨tokens_eq_ok_iff.mpr ⟨_, .step hgap (List.cons_ne_nil _ _) htoken (.stop rfl), rfl⟩,
      htoken⟩

/-- A number starts where there are figures before or after a point. -/
theorem startsNumber_eq (cs : List Char) : startsNumber cs =
    !((cs.span Char.isDigit).1.isEmpty && (fractionOf (cs.span Char.isDigit).2).1.isEmpty) := by
  cases cs with
  | nil => rfl
  | cons c cs =>
    by_cases hpoint : c = '.'
    · subst hpoint
      rw [List.span_eq_takeWhile_dropWhile, List.takeWhile_cons_of_neg (by decide),
        List.dropWhile_cons_of_neg (by decide), fractionOf, List.span_eq_takeWhile_dropWhile]
      cases cs with
      | nil => rfl
      | cons d ds => cases hd : d.isDigit <;> simp [startsNumber, hd]
    · rw [startsNumber_cons_of_ne hpoint, List.span_eq_takeWhile_dropWhile]
      cases hc : c.isDigit with
      | true => simp [hc]
      | false =>
        have hfraction : fractionOf (c :: cs) = ([], c :: cs) := by
          refine fractionOf.eq_2 _ ?_
          rintro _ ⟨⟩
          exact hpoint rfl
        simp [hc, hfraction]

/-- A power of ten at the end of a text is read by the lexer as it is converted. -/
theorem exponent_eq_ok_nil_iff {power : Int} :
    exponent cs = .ok (power, []) ↔ Numeral.powerOfText? cs = some power := by
  cases cs with
  | nil => simp [exponent, Numeral.powerOfText?, eq_comm]
  | cons d ds =>
    by_cases hd : d = 'e' ∨ d = 'E'
    · rw [exponent_letter hd, Numeral.powerOfText?, if_pos hd, Numeral.exponentOfText?]
      generalize signOf ds = sign
      obtain ⟨negative, figures⟩ := sign
      dsimp only
      cases hall : figures.all Char.isDigit with
      | true =>
        rw [span_fst_of_all hall, span_snd_eq_nil_iff.mpr hall]
        cases hempty : figures.isEmpty with
        | true =>
          refine iff_of_false (fun h => ?_) (by simp)
          cases h.1
        | false =>
          refine ⟨fun h => congrArg some h.2.1.symm, fun h => ?_⟩
          exact ⟨rfl, (Option.some.inj h).symm, rfl⟩
      | false =>
        refine iff_of_false (fun h => ?_) (by simp)
        rw [span_snd_eq_nil_iff.mp h.2.2.symm] at hall
        cases hall
    · rw [exponent_none (by simpa using hd), Numeral.powerOfText?, if_neg hd]
      simp

theorem decimal_eq_ok_nil_iff :
    decimal cs = .ok (x, []) ↔ ∃ power,
      Numeral.powerOfText? (fractionOf (cs.span Char.isDigit).2).2 = some power ∧
        x = (Numeral.ofParts (cs.span Char.isDigit).1 (fractionOf (cs.span Char.isDigit).2).1
          power).toFloat false := by
  rw [decimal_eq, bind_eq_ok]
  constructor
  · rintro ⟨⟨power, rest⟩, hpower, hend⟩
    obtain ⟨rfl, rfl, -⟩ := endNumber_eq_ok_iff.mp hend
    exact ⟨power, exponent_eq_ok_nil_iff.mp hpower, rfl⟩
  · rintro ⟨power, hpower, rfl⟩
    exact ⟨(power, []), exponent_eq_ok_nil_iff.mpr hpower, endNumber_eq_ok_iff.mpr ⟨rfl, rfl, nofun⟩⟩

/-- Whether a text is no hexadecimal number that is read, after its `0x`. -/
def isBadHexadecimal (ds : List Char) : Bool :=
  ds.isEmpty || !ds.all isHexDigit || Nat.pow 2 64 ≤ Unicode.hexValue ds

theorem hexadecimal_eq_ok_nil_iff {start : List Char} : hexadecimal start ds = .ok (x, []) ↔
    isBadHexadecimal ds = false ∧ x = Decimal.ofNat (Unicode.hexValue ds) := by
  rw [hexadecimal]
  dsimp only
  constructor
  · intro h
    split at h
    · cases h
    · next hgood =>
      obtain ⟨hx, hrest, -⟩ := endNumber_eq_ok_iff.mp h
      have hall := span_snd_eq_nil_iff.mp hrest.symm
      rw [span_fst_of_all hall] at hgood hx
      exact ⟨by simpa [isBadHexadecimal, hall] using hgood, hx⟩
  · rintro ⟨hgood, rfl⟩
    have hall : ds.all isHexDigit = true := by
      simp only [isBadHexadecimal, Bool.or_eq_false_iff] at hgood
      simpa using hgood.1.2
    rw [span_fst_of_all hall, span_snd_eq_nil_iff.mpr hall, if_neg]
    · rfl
    · simpa [isBadHexadecimal, hall] using hgood

end Lexer

section Conversion

open Lexer (IsNumber isNumber_iff isBadHexadecimal)

variable {t : String} {c : Char}

theorem trim_eq_self (hfirst : ∀ c ∈ cs.head?, Unicode.isBlank c = false)
    (hlast : ∀ c ∈ cs.getLast?, Unicode.isBlank c = false) : Unicode.trim cs = cs := by
  have hdrop : ∀ ds : List Char, (∀ c ∈ ds.head?, Unicode.isBlank c = false) →
      ds.dropWhile Unicode.isBlank = ds := fun ds hds => by
    cases ds with
    | nil => rfl
    | cons d ds => exact List.dropWhile_cons_of_neg (by simp [hds d rfl])
  rw [Unicode.trim, Unicode.trimEnd, hdrop cs hfirst, hdrop _ (by simpa using hlast),
    List.reverse_reverse]

/-- What is left of hexadecimal digits when a plus sign before them is dropped. -/
def withoutPlus : List Char → List Char
  | '+' :: ds => ds
  | ds => ds

theorem numberOfText_hexadecimal (hc : c = 'x' ∨ c = 'X')
    (ht : Unicode.trim t.toList = '0' :: c :: ds) : numberOfText t =
      if isBadHexadecimal (withoutPlus ds) then nan
      else Decimal.ofNat (Unicode.hexValue (withoutPlus ds)) := by
  have hother : ∀ w : List Char, w.head? ≠ some '0' → '0' :: c :: ds ≠ w := by
    rintro w hw rfl
    exact hw rfl
  simp only [numberOfText, ht, List.isEmpty_cons, hother "Infinity".toList (by decide),
    hother "+Infinity".toList (by decide), hother "-Infinity".toList (by decide), decide_false,
    Bool.or_self, Bool.false_eq_true, if_false]
  rw [if_pos (by simpa using hc)]
  rfl

theorem numberOfText_decimal (ht : Unicode.trim t.toList = cs) (hne : cs ≠ [])
    (hinfinity : ∀ w ∈ ["Infinity", "+Infinity", "-Infinity"], cs ≠ w.toList)
    (hhex : ∀ c, c = 'x' ∨ c = 'X' → ∀ ds, cs ≠ '0' :: c :: ds) :
    numberOfText t = ((Numeral.ofText? cs).map fun p => p.2.toFloat p.1).getD nan := by
  simp only [numberOfText, ht, List.isEmpty_eq_false_iff.mpr hne, hinfinity "Infinity" (by decide),
    hinfinity "+Infinity" (by decide), hinfinity "-Infinity" (by decide), decide_false, Bool.or_self,
    Bool.false_eq_true, if_false]
  rw [if_neg]
  · cases Numeral.ofText? cs <;> rfl
  · split
    · next c rest =>
      intro hc
      exact hhex c (by simpa using hc) rest rfl
    · exact Bool.false_ne_true

/-- What is read as a double without a sign is a number. -/
theorem ne_nan_of_toBits_le (h : x.toBits.toNat ≤ 0x7FF0000000000000) : x ≠ nan := by
  rintro rfl
  exact absurd h (by decide +kernel)

/-- The texts of which hexadecimal numbers are made, with the numbers they are converted to. -/
theorem number_iff_hexadecimal (hc : c = 'x' ∨ c = 'X') (ht : Unicode.trim t.toList = '0' :: c :: ds)
    (v : Float) : numberOfText t = v ∧ v ≠ nan ↔ IsNumber ('0' :: c :: withoutPlus ds) v := by
  have hstart : Lexer.startsNumber ('0' :: c :: withoutPlus ds) = true := rfl
  rw [numberOfText_hexadecimal hc ht, isNumber_iff, and_iff_right hstart, Lexer.number_hexadecimal hc,
    Lexer.hexadecimal_eq_ok_nil_iff]
  cases isBadHexadecimal (withoutPlus ds) with
  | true => exact iff_of_false (fun h => h.2 h.1.symm) (fun h => nomatch h.1)
  | false =>
    constructor
    · rintro ⟨rfl, -⟩
      exact ⟨rfl, rfl⟩
    · rintro ⟨-, rfl⟩
      exact ⟨rfl, ne_nan_of_toBits_le (toBits_nearest_le _ _)⟩

theorem signOf_eq (h : ∀ c ∈ cs.head?, c ≠ '+' ∧ c ≠ '-') : signOf cs = (false, cs) := by
  refine signOf.eq_3 cs ?_ ?_
  · rintro _ rfl
    exact (h '-' rfl).2 rfl
  · rintro _ rfl
    exact (h '+' rfl).1 rfl

theorem number_iff_decimal (ht : Unicode.trim t.toList = cs) (hne : cs ≠ [])
    (hsign : ∀ c ∈ cs.head?, c ≠ '+' ∧ c ≠ '-') (hinfinity : cs ≠ "Infinity".toList)
    (hhex : ∀ c, c = 'x' ∨ c = 'X' → ∀ ds, cs ≠ '0' :: c :: ds) (v : Float) :
    numberOfText t = v ∧ v ≠ nan ↔ IsNumber cs v := by
  have hinfinity' : ∀ w ∈ ["Infinity", "+Infinity", "-Infinity"], cs ≠ w.toList := by
    simp only [List.forall_mem_cons]
    refine ⟨hinfinity, ?_, ?_, nofun⟩
    · rintro rfl
      exact (hsign '+' rfl).1 rfl
    · rintro rfl
      exact (hsign '-' rfl).2 rfl
  rw [numberOfText_decimal ht hne hinfinity' hhex, isNumber_iff, Lexer.number_decimal hhex,
    Lexer.decimal_eq_ok_nil_iff, Lexer.startsNumber_eq, Numeral.ofText?, signOf_eq hsign]
  dsimp only
  cases (cs.span Char.isDigit).1.isEmpty && (fractionOf (cs.span Char.isDigit).2).1.isEmpty with
  | true => exact iff_of_false (fun h => h.2 h.1.symm) (fun h => nomatch h.1)
  | false =>
    rw [Bool.not_false, and_iff_right rfl, if_neg Bool.false_ne_true]
    cases Numeral.powerOfText? (fractionOf (cs.span Char.isDigit).2).2 with
    | none => exact iff_of_false (fun h => h.2 h.1.symm) (fun ⟨_, h, _⟩ => nomatch h)
    | some power =>
      constructor
      · rintro ⟨rfl, -⟩
        exact ⟨power, rfl, rfl⟩
      · rintro ⟨_, ⟨⟩, rfl⟩
        exact ⟨rfl, ne_nan_of_toBits_le (Numeral.toBits_toFloat_le _)⟩

/-- A text is converted to a number exactly if the lexer reads all of it as this number, unless there is
a plus sign after `0x`. Such a text is no token, and it is converted as the text without the sign. -/
theorem converted_iff_token {t : String} (hne : t ≠ "")
    (hfirst : ∀ c ∈ t.toList.head?, Unicode.isBlank c = false ∧ c ≠ '+' ∧ c ≠ '-')
    (hlast : ∀ c ∈ t.toList.getLast?, Unicode.isBlank c = false) (hinfinity : t ≠ "Infinity") :
    ((∀ c, c = 'x' ∨ c = 'X' → ∀ ds, t.toList ≠ '0' :: c :: '+' :: ds) →
      ∀ v, numberOfText t = v ∧ v ≠ nan ↔ IsNumber t.toList v) ∧
    ∀ c, c = 'x' ∨ c = 'X' → ∀ ds, t.toList = '0' :: c :: '+' :: ds →
      ∀ v, ¬ IsNumber t.toList v ∧ (numberOfText t = v ∧ v ≠ nan ↔ IsNumber ('0' :: c :: ds) v) := by
  have htrim : Unicode.trim t.toList = t.toList := trim_eq_self (fun c hc => (hfirst c hc).1) hlast
  have hne' : t.toList ≠ [] := by simpa using hne
  have hinfinity' : t.toList ≠ "Infinity".toList := mt String.toList_inj.mp hinfinity
  refine ⟨fun hplus v => ?_, fun c hc ds ht v => ⟨?_, ?_⟩⟩
  · by_cases hhex : ∃ c ds, (c = 'x' ∨ c = 'X') ∧ t.toList = '0' :: c :: ds
    · obtain ⟨c, ds, hc, ht⟩ := hhex
      have hplain : withoutPlus ds = ds := by
        refine withoutPlus.eq_2 ds ?_
        rintro ds rfl
        exact hplus c hc ds ht
      have htoken := number_iff_hexadecimal hc (htrim.trans ht) v
      rwa [hplain, ← ht] at htoken
    · refine number_iff_decimal htrim hne' (fun c hc => (hfirst c hc).2) hinfinity' ?_ v
      exact fun c hc ds ht => hhex ⟨c, ds, hc, ht⟩
  · rw [isNumber_iff, ht, Lexer.number_hexadecimal hc, Lexer.hexadecimal_eq_ok_nil_iff]
    rintro ⟨-, hgood, -⟩
    cases hgood
  · exact number_iff_hexadecimal hc (htrim.trans ht) v

/-- A text with a plus sign after `0x`. -/
theorem converted_iff_token_after_sign :
    "0x+5" ≠ "" ∧ "0x+5" ≠ "Infinity" ∧ numberOfText "0x+5" = 5.0 ∧
      (∀ v, ¬ IsNumber "0x+5".toList v) ∧ IsNumber "0x5".toList 5.0 := by
  have hfive : numberOfText "0x+5" = 5.0 := by decide +kernel
  have hfirst : ∀ c ∈ "0x+5".toList.head?, Unicode.isBlank c = false ∧ c ≠ '+' ∧ c ≠ '-' := by
    rintro _ ⟨⟩
    decide
  have hlast : ∀ c ∈ "0x+5".toList.getLast?, Unicode.isBlank c = false := by
    rintro _ ⟨⟩
    rfl
  obtain ⟨-, hsigned⟩ := @converted_iff_token "0x+5" (by decide) hfirst hlast (by decide)
  have hread := hsigned 'x' (.inl rfl) ['5'] rfl
  exact ⟨by decide, by decide, hfive, fun v => (hread v).1,
    (hread 5.0).2.mp ⟨hfive, by decide +kernel⟩⟩

end Conversion

end Microtemplate.Script
