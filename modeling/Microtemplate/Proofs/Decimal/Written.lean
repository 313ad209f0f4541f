import Microtemplate.Proofs.Decimal.Figures

/-!
What decimal numerals stand for: figures, perhaps with a point among them, and perhaps with a power
of ten after them. A numeral stands for the value that its parts have, and it is read as these parts.
-/

namespace Microtemplate.Decimal

/-- A row of figures, at least one of them. -/
def AreFigures (cs : List Char) : Prop := cs ≠ [] ∧ ∀ c ∈ cs, c.isDigit = true

/-- What a numeral without a power of ten stands for. -/
inductive Positional : List Char → ℚ → Prop
  | whole {whole : List Char} (h : AreFigures whole) : Positional whole (figuresValue whole)
  | point {whole fraction : List Char} (h : AreFigures whole) (hfraction : AreFigures fraction) :
      Positional (whole ++ '.' :: fraction)
        (figuresValue whole + figuresValue fraction / 10 ^ fraction.length)

/-- A power of ten after a numeral, and how large it is; where none is written, it is zero. -/
inductive PowerText : Int → List Char → Prop
  | none : PowerText 0 []
  | plus {ds : List Char} (h : AreFigures ds) : PowerText (figuresValue ds) ('e' :: '+' :: ds)
  | minus {ds : List Char} (h : AreFigures ds) :
      PowerText (-(figuresValue ds : Int)) ('e' :: '-' :: ds)

/-- What a numeral without a sign stands for. -/
inductive StandsFor : List Char → ℚ → Prop
  | times {cs power : List Char} {q : ℚ} {exponent : Int} (h : Positional cs q)
      (hpower : PowerText exponent power) : StandsFor (cs ++ power) (q * 10 ^ exponent)

/-- A point and figures after it, unless there are none. -/
def pointText : List Char → List Char
  | [] => []
  | fraction => '.' :: fraction

/-- The parts of a numeral without a sign: its figures before and after a point and its power. -/
structure Parted (cs whole fraction : List Char) (exponent : Int) (power : List Char) : Prop where
  text : cs = whole ++ (pointText fraction ++ power)
  whole : AreFigures whole
  fraction : ∀ c ∈ fraction, c.isDigit = true
  power : PowerText exponent power

variable {cs whole fraction power : List Char} {exponent : Int}

theorem areFigures_figures {n : Nat} (hn : 0 < n) : AreFigures (figures n) := by
  obtain ⟨c, cs, hcs, -⟩ := exists_cons_figures hn
  exact ⟨by simp [hcs], fun _ => isDigit_of_mem_figures hn⟩

theorem AreFigures.append (h : AreFigures whole) (hmore : ∀ c ∈ fraction, c.isDigit = true) :
    AreFigures (whole ++ fraction) :=
  ⟨by simp [h.1], fun c hc => (List.mem_append.mp hc).elim (h.2 c) (hmore c)⟩

theorem isDigit_of_mem_zeros {k : Nat} : ∀ c ∈ List.replicate k '0', c.isDigit = true := by
  intro c hc
  rw [List.eq_of_mem_replicate hc]
  rfl

theorem pointText_of_ne_nil (h : fraction ≠ []) : pointText fraction = '.' :: fraction := by
  cases fraction with
  | nil => exact absurd rfl h
  | cons c cs => rfl

/-- Figures with a point before the last ones of them stand for their value, divided by a power of
ten. -/
theorem positional_of_parts (h : AreFigures whole) (hfraction : ∀ c ∈ fraction, c.isDigit = true) :
    Positional (whole ++ pointText fraction)
      (figuresValue (whole ++ fraction) / 10 ^ fraction.length) := by
  cases fraction with
  | nil => simpa [pointText] using Positional.whole h
  | cons c cs =>
    have hvalue : (figuresValue (whole ++ c :: cs) : ℚ) / 10 ^ (c :: cs).length =
        figuresValue whole + figuresValue (c :: cs) / 10 ^ (c :: cs).length := by
      rw [figuresValue_append]
      push_cast
      field_simp
    rw [hvalue]
    exact .point h ⟨List.cons_ne_nil _ _, hfraction⟩

/-- A numeral stands for the value of all its figures, moved to where its point and its power say. -/
theorem Parted.standsFor (h : Parted cs whole fraction exponent power) :
    StandsFor cs (figuresValue (whole ++ fraction) * 10 ^ (exponent - fraction.length)) := by
  have hvalue : (figuresValue (whole ++ fraction) * 10 ^ (exponent - fraction.length) : ℚ) =
      figuresValue (whole ++ fraction) / 10 ^ fraction.length * 10 ^ exponent := by
    rw [zpow_sub₀ (by norm_num), zpow_natCast]
    ring
  rw [h.text, hvalue, ← List.append_assoc]
  exact .times (positional_of_parts h.whole h.fraction) h.power

section Reading

theorem PowerText.head (h : PowerText exponent power) : ∀ c ∈ power.head?, c = 'e' := by
  cases h <;> simp

theorem PowerText.powerOfText?_eq (h : PowerText exponent power) :
    Numeral.powerOfText? power = some exponent := by
  have hfigures : ∀ {ds : List Char}, AreFigures ds →
      (ds.isEmpty || !ds.all Char.isDigit) = false := fun hds => by
    simpa [hds.1] using hds.2
  cases h with
  | none => rfl
  | plus h => exact if_neg (by simp [hfigures h])
  | minus h => exact if_neg (by simp [hfigures h])

theorem signOf_figures (h : AreFigures whole) (rest : List Char) :
    signOf (whole ++ rest) = (false, whole ++ rest) := by
  obtain ⟨c, cs, rfl⟩ := List.exists_cons_of_ne_nil h.1
  have hc : c.isDigit = true := h.2 c (.head _)
  refine signOf.eq_3 _ ?_ ?_
  · rintro _ ⟨⟩
    cases hc
  · rintro _ ⟨⟩
    cases hc

namespace Parted

variable (h : Parted cs whole fraction exponent power)

include h

theorem exists_cons : ∃ c rest, cs = c :: rest ∧ c.isDigit = true := by
  obtain ⟨c, more, rfl⟩ := List.exists_cons_of_ne_nil h.whole.1
  exact ⟨c, _, h.text, h.whole.2 c (.head _)⟩

theorem span_eq : cs.span Char.isDigit = (whole, pointText fraction ++ power) := by
  rw [h.text]
  refine span_figures h.whole.2 fun c hc => ?_
  cases fraction with
  | nil =>
    rw [h.power.head c hc]
    rfl
  | cons d ds =>
    cases hc
    rfl

theorem fractionOf_eq : fractionOf (pointText fraction ++ power) = (fraction, power) := by
  cases hfraction : fraction with
  | nil =>
    refine fractionOf.eq_2 _ fun rest hrest => ?_
    have hpoint := h.power.head '.' (by rw [show power = '.' :: rest from hrest]; rfl)
    exact absurd hpoint (by decide)
  | cons d ds =>
    refine span_figures (fun c hc => h.fraction c (hfraction ▸ hc)) fun c hc => ?_
    rw [h.power.head c hc]
    rfl

/-- A text of a numeral is read as the numeral of its parts, whatever its sign. -/
theorem ofText?_eq (negative : Bool) : Numeral.ofText? (if negative then '-' :: cs else cs) =
    some (negative, .ofParts whole fraction exponent) := by
  have hsign : signOf (if negative then '-' :: cs else cs) = (negative, cs) := by
    cases negative with
    | true => rfl
    | false => rw [h.text]; exact signOf_figures h.whole _
  have hwhole : whole.isEmpty = false := by simpa using h.whole.1
  simp only [Numeral.ofText?, hsign, h.span_eq, h.fractionOf_eq, hwhole, h.power.powerOfText?_eq]
  rfl

end Parted

end Reading

end Microtemplate.Decimal
