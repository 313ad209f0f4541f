import Microtemplate.Json.Reader
import Microtemplate.Proofs.Decimal.Layouts

/-!
Numbers in JSON. The script's text of a double is a number of JSON, whichever of its layouts it has,
and it is read as the double again; only zero loses its sign.
-/

namespace Microtemplate

namespace Json.Reader

open Decimal

variable {cs ds rest : List Char}

/-- No number goes on with a text. -/
def EndsNumber (rest : List Char) : Prop :=
  ∀ c ∈ rest.head?, c.isDigit = false ∧ c ≠ '.' ∧ c ≠ 'e' ∧ c ≠ 'E'

/-- Figures that start with no superfluous zero. -/
def IsWhole (ds : List Char) : Prop := ds = ['0'] ∨ ∃ c cs, ds = c :: cs ∧ c ≠ '0'

theorem wholePart?_append (hwhole : IsWhole ds) (hds : ∀ c ∈ ds, c.isDigit = true)
    (hrest : ∀ c ∈ rest.head?, c.isDigit = false) : wholePart? (ds ++ rest) = some (ds, rest) := by
  rw [wholePart?, span_figures hds hrest]
  rcases hwhole with rfl | ⟨c, cs, rfl, hc⟩
  · rfl
  · split
    · next heq => cases heq
    · next heq =>
      cases heq
      exact absurd rfl hc
    · rfl

theorem fraction?_append (hne : ds ≠ []) (hds : ∀ c ∈ ds, c.isDigit = true)
    (hrest : ∀ c ∈ rest.head?, c.isDigit = false) :
    fraction? ('.' :: (ds ++ rest)) = some (ds, rest) := by
  rw [fraction?, span_figures hds hrest]
  split
  · next heq =>
    cases heq
    exact absurd rfl hne
  · rfl

theorem fraction?_none (hrest : ∀ c ∈ rest.head?, c ≠ '.') : fraction? rest = some ([], rest) := by
  rw [fraction?]
  rintro cs rfl
  exact hrest '.' rfl rfl

theorem exponent?_none (hrest : ∀ c ∈ rest.head?, c ≠ 'e' ∧ c ≠ 'E') :
    exponent? rest = some (none, rest) := by
  cases rest with
  | nil => rfl
  | cons c rest =>
    obtain ⟨hsmall, hlarge⟩ := hrest c rfl
    simp [exponent?, hsmall, hlarge]

theorem exponent?_append (negative : Bool) (hne : ds ≠ []) (hds : ∀ c ∈ ds, c.isDigit = true)
    (hrest : ∀ c ∈ rest.head?, c.isDigit = false) :
    exponent? ('e' :: (if negative then '-' else '+') :: (ds ++ rest)) =
      some (some (if negative then -(figuresValue ds : Int) else figuresValue ds), rest) := by
  cases ds with
  | nil => exact absurd rfl hne
  | cons d ds =>
    have hspan := span_figures hds hrest
    rw [List.cons_append, List.span_eq_takeWhile_dropWhile] at hspan
    cases negative <;> simp [exponent?, hspan]

/-- A reader gives a value for a text and leaves what stands after it, unless a number went on. -/
def Takes {α : Type} (reader : List Char → Option (α × List Char)) (text : List Char) (a : α) :
    Prop :=
  ∀ rest, EndsNumber rest → reader (text ++ rest) = some (a, rest)

/-- What the parts of a number are read as: the figures before and after its point and its power. -/
structure Parts (text whole fraction : List Char) (power : Option Int) : Prop where
  read : ∀ rest, EndsNumber rest → ∃ a b, wholePart? (text ++ rest) = some (whole, a) ∧
    fraction? a = some (fraction, b) ∧ exponent? b = some (power, rest)

theorem ofFloat_infinity (negative : Bool) :
    Binary.ofFloat (infinity negative) = .infinite negative := by
  cases negative <;> decide +kernel

section

variable {text whole fraction : List Char} {power : Option Int} {negative : Bool} {x : Float}

/-- A whole number within sixty-four bits has the double of its numeral. -/
theorem toFloat_whole (hpos : 0 < (Numeral.ofParts whole [] 0).value)
    (hless : figuresValue whole < 2 ^ 64) :
    JsonNumber.toFloat
      (.whole (if negative then -(figuresValue whole : Int) else figuresValue whole)) =
      (Numeral.ofParts whole [] 0).toFloat negative := by
  have hvalue : (Numeral.ofParts whole [] 0).value = figuresValue whole / (1 : Nat) := by
    simp [Numeral.ofParts, Numeral.value]
  have hwhole : 0 < figuresValue whole := by
    rw [hvalue, Nat.cast_one, div_one] at hpos
    exact_mod_cast hpos
  have hsign : decide ((if negative then -(figuresValue whole : Int) else figuresValue whole) < 0) =
      negative := by
    cases negative <;> simp [hwhole]
  rw [Numeral.toFloat_eq_nearest Nat.one_pos hvalue ?_ ?_ negative, JsonNumber.toFloat, ofInt,
    hsign]
  · cases negative <;> simp
  · rw [hvalue, Nat.cast_one, div_one]
    calc (10 : ℚ) ^ (-401 : Int) ≤ 1 := zpow_le_one_of_nonpos₀ (by norm_num) (by decide)
      _ ≤ figuresValue whole := by exact_mod_cast hwhole
  · rw [hvalue, Nat.cast_one, div_one]
    calc (figuresValue whole : ℚ) < 2 ^ 64 := by exact_mod_cast hless
      _ < 10 ^ (400 : Int) := by exact_mod_cast (by decide +kernel : 2 ^ 64 < 10 ^ 400)

/-- A number is read as the double of its numeral. -/
theorem Parts.unsigned?_takes (h : Parts text whole fraction power)
    (hpos : 0 < (Numeral.ofParts whole fraction (power.getD 0)).value)
    (hx : (Numeral.ofParts whole fraction (power.getD 0)).toFloat negative = x)
    (hfinite : x ≠ infinity negative) :
    ∃ n : JsonNumber, Takes (unsigned? negative) text n ∧ n.toFloat = x := by
  by_cases hrange : (fraction.isEmpty && power.isNone &&
      (if negative then
        decide (0 < figuresValue whole) && decide (figuresValue whole ≤ Nat.pow 2 63)
        else decide (figuresValue whole < Nat.pow 2 64))) = true
  · refine ⟨.whole (if negative then -(figuresValue whole : Int) else figuresValue whole),
      fun rest hrest => ?_, ?_⟩
    · obtain ⟨a, b, hwhole, hfraction, hpower⟩ := h.read rest hrest
      simp only [unsigned?, hwhole, hfraction, hpower, bind, Option.bind, pure]
      exact if_pos hrange
    · simp only [Bool.and_eq_true, List.isEmpty_iff, Option.isNone_iff_eq_none] at hrange
      obtain ⟨⟨rfl, rfl⟩, hrange⟩ := hrange
      refine (toFloat_whole hpos ?_).trans hx
      cases negative
      · exact of_decide_eq_true hrange
      · exact Nat.lt_of_le_of_lt (of_decide_eq_true (Bool.and_eq_true_iff.mp hrange).2) (by decide)
  · refine ⟨.double x, fun rest hrest => ?_, rfl⟩
    obtain ⟨a, b, hwhole, hfraction, hpower⟩ := h.read rest hrest
    simp only [unsigned?, hwhole, hfraction, hpower, bind, Option.bind, pure, hx]
    exact (if_neg hrange).trans (if_neg hfinite)

end

/-- A numeral with no superfluous zero is read as its parts. -/
theorem exists_parts {text whole fraction power : List Char} {exponent : Int}
    (h : Parted text whole fraction exponent power) (hwhole : IsWhole whole) :
    ∃ read, Parts text whole fraction read ∧ read.getD 0 = exponent := by
  obtain ⟨read, hread, hexponent⟩ : ∃ read : Option Int, (∀ rest, EndsNumber rest →
      exponent? (power ++ rest) = some (read, rest)) ∧ read.getD 0 = exponent := by
    rcases h.power with _ | ⟨hne, hds⟩ | ⟨hne, hds⟩
    · exact ⟨none, fun rest hrest => exponent?_none fun c hc => (hrest c hc).2.2, rfl⟩
    · exact ⟨some _, fun rest hrest => exponent?_append false hne hds fun c hc => (hrest c hc).1, rfl⟩
    · exact ⟨some _, fun rest hrest => exponent?_append true hne hds fun c hc => (hrest c hc).1, rfl⟩
  have hleft : ∀ rest, EndsNumber rest →
      ∀ c ∈ (power ++ rest).head?, c.isDigit = false ∧ c ≠ '.' := by
    intro rest hrest c hc
    cases hpower : power with
    | nil =>
      rw [hpower] at hc
      exact ⟨(hrest c hc).1, (hrest c hc).2.1⟩
    | cons d ds =>
      rw [hpower] at hc
      rw [h.power.head c (hpower ▸ hc)]
      decide
  refine ⟨read, ⟨fun rest hrest => ⟨pointText fraction ++ (power ++ rest), power ++ rest, ?_, ?_,
    hread rest hrest⟩⟩, hexponent⟩
  · rw [h.text, List.append_assoc, List.append_assoc]
    refine wholePart?_append hwhole h.whole.2 fun c hc => ?_
    cases fraction with
    | nil => exact (hleft rest hrest c hc).1
    | cons d ds =>
      cases hc
      rfl
  · cases hfraction : fraction with
    | nil => exact fraction?_none fun c hc => (hleft rest hrest c hc).2
    | cons d ds =>
      refine fraction?_append (List.cons_ne_nil _ _) ?_ fun c hc => (hleft rest hrest c hc).1
      exact fun c hc => h.fraction c (hfraction ▸ hc)

/-- The script's layout of a numeral is a number with the same value. -/
theorem script_parts {n : Numeral} (hn : 0 < n.coefficient) :
    ∃ whole fraction power, Parts (Layout.script.write n) whole fraction power ∧
      (Numeral.ofParts whole fraction (power.getD 0)).value = n.value := by
  obtain ⟨whole, fraction, exponent, power, hparted, hvalue, hfirst⟩ :=
    (Layout.script_laidOut n).exists_parted (areFigures_figures hn)
  have hwhole : IsWhole whole := by
    obtain ⟨d, ds, hds, hd⟩ := exists_cons_figures hn
    refine hfirst.imp_right fun hhead => ?_
    rw [hds] at hhead
    obtain ⟨cs, hcs⟩ := List.head?_eq_some_iff.mp hhead
    exact ⟨d, cs, hcs, hd⟩
  obtain ⟨read, hparts, rfl⟩ := exists_parts hparted hwhole
  exact ⟨whole, fraction, read, hparts, hvalue.trans (value_figures hn).symm⟩

/-- The script's layout of a numeral starts with a figure. -/
theorem script_starts {n : Numeral} (hn : 0 < n.coefficient) :
    ∃ c cs, Layout.script.write n = c :: cs ∧ c.isDigit = true := by
  obtain ⟨_, _, _, _, hparted, -⟩ :=
    (Layout.script_laidOut n).exists_parted (areFigures_figures hn)
  exact hparted.exists_cons

/-- A double without the sign of zero. -/
def unsignedZero (x : Float) : Float :=
  match Binary.ofFloat x with
  | .finite _ 0 _ => 0.0
  | _ => x

theorem number?_of_start {c : Char} (hc : c ≠ '-') :
    number? (c :: cs) = unsigned? false (c :: cs) := by
  rw [number?]
  rintro cs ⟨⟩
  exact hc rfl

/-- The text of a double that is not zero is a number that is read as it. -/
theorem numberText_takes_of_pos {x : Float} {negative : Bool} {m : Nat} {e : Int}
    (h : Binary.ofFloat x = .finite negative m e) (hm : 0 < m) :
    ∃ n : JsonNumber, Takes number? (numberText x).toList n ∧ n.toFloat = x := by
  have hfinite : x ≠ infinity negative := fun hinfinite => by
    rw [hinfinite, ofFloat_infinity] at h
    cases h
  have hcoefficient := shortest_coefficient_pos h hm
  obtain ⟨whole, fraction, power, hparts, hvalue⟩ := script_parts hcoefficient
  have hpos : 0 < (Numeral.ofParts whole fraction (power.getD 0)).value := by
    rw [hvalue]
    exact mul_pos (Nat.cast_pos.mpr hcoefficient) (by positivity)
  have hread := (Numeral.toFloat_congr hvalue negative).trans (shortest_toFloat h hm)
  obtain ⟨n, hn, hx⟩ := hparts.unsigned?_takes hpos hread hfinite
  refine ⟨n, fun rest hrest => ?_, hx⟩
  have hunsigned := hn rest hrest
  rw [numberText, h]
  simp only [hm.ne', if_false]
  cases negative with
  | true =>
    rw [if_pos rfl, String.toList_ofList]
    exact hunsigned
  | false =>
    obtain ⟨c, cs, hcs, hc⟩ := script_starts hcoefficient
    rw [if_neg Bool.false_ne_true, String.toList_ofList]
    rw [hcs, List.cons_append] at hunsigned ⊢
    rw [number?_of_start, hunsigned]
    rintro rfl
    cases hc

/-- A finite number is read back from its text, but for the sign of zero. -/
theorem numberText_takes {x : Float} {negative : Bool} {m : Nat} {e : Int}
    (h : Binary.ofFloat x = .finite negative m e) :
    ∃ n : JsonNumber, Takes number? (numberText x).toList n ∧ n.toFloat = unsignedZero x := by
  cases m with
  | zero =>
    have hzero : (JsonNumber.whole 0).toFloat = 0.0 := by decide +kernel
    have htext : numberText x = "0" := by
      rw [numberText, h]
      rfl
    rw [unsignedZero, h, htext]
    refine ⟨.whole 0, fun rest hrest => ?_, hzero⟩
    have hwhole : wholePart? ('0' :: rest) = some (['0'], rest) :=
      wholePart?_append (.inl rfl) (List.forall_mem_singleton.mpr rfl) fun c hc => (hrest c hc).1
    change number? ('0' :: rest) = _
    rw [number?_of_start (by decide)]
    simp only [unsigned?, hwhole, fraction?_none fun c hc => (hrest c hc).2.1,
      exponent?_none fun c hc => (hrest c hc).2.2, bind, Option.bind, pure]
    rfl
  | succ m =>
    rw [unsignedZero, h]
    exact numberText_takes_of_pos h (Nat.succ_pos m)

theorem numberText_starts {x : Float} {negative : Bool} {m : Nat} {e : Int}
    (h : Binary.ofFloat x = .finite negative m e) :
    ∃ c cs, (numberText x).toList = c :: cs ∧ (c = '-' ∨ c.isDigit = true) := by
  rw [numberText, h]
  by_cases hm : m = 0
  · exact ⟨'0', [], by simp [hm], Or.inr rfl⟩
  · obtain ⟨c, cs, hcs, hc⟩ := script_starts (shortest_coefficient_pos h (Nat.pos_of_ne_zero hm))
    cases negative
    · exact ⟨c, cs, by simp [hm, hcs], Or.inr hc⟩
    · exact ⟨'-', c :: cs, by simp [hm, hcs], Or.inl rfl⟩

end Json.Reader

end Microtemplate
