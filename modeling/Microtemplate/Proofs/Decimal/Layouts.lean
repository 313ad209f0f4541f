import Microtemplate.Decimal.Notation
import Microtemplate.Proofs.Decimal.Written

/-!
Layouts of the figures of a number. The script language has four of them, one for each range of the
power of ten of the first figure, and in each of them the figures stand for the same number.
-/

namespace Microtemplate.Decimal

/-- One figure, a point before the others if there are any, and the power of ten of the first figure;
`plus` stands before a power that is not negative. -/
def powerLayout (plus ds : List Char) (exponent : Int) : List Char :=
  ds.take 1 ++ pointText (ds.drop 1) ++
    'e' :: ((if exponent < 0 then ['-'] else plus) ++ figures exponent.natAbs)

/-- How the script language lays out figures, the first of which counts `10 ^ exponent`. Each figure
is used once: where figures are cut, there are some on both sides, and the zeros fill exactly the
places that the figures leave. -/
inductive LaidOut (ds : List Char) (exponent : Int) : List Char → Prop
  | whole (zeros : Nat) (h : exponent + 1 = ds.length + zeros) (hmost : exponent ≤ 20) :
      LaidOut ds exponent (ds ++ List.replicate zeros '0')
  | point {whole fraction : List Char} (h : ds = whole ++ fraction) (hfraction : fraction ≠ [])
      (hwhole : (whole.length : Int) = exponent + 1) (hleast : 0 ≤ exponent)
      (hmost : exponent ≤ 20) : LaidOut ds exponent (whole ++ '.' :: fraction)
  | small (zeros : Nat) (h : exponent = -1 - zeros) (hleast : -6 ≤ exponent) :
      LaidOut ds exponent ('0' :: '.' :: (List.replicate zeros '0' ++ ds))
  | power (h : exponent < -6 ∨ 20 < exponent) : LaidOut ds exponent (powerLayout ['+'] ds exponent)

namespace Numeral

/-- The power of ten of the first figure. -/
def leading (n : Numeral) : Int := n.exponent + (figures n.coefficient).length - 1

end Numeral

namespace Layout

variable {l : Layout} {n : Numeral}

theorem write_power (h : l.isPositional n.leading = false) :
    l.write n = powerLayout l.plus (figures n.coefficient) n.leading := by
  rw [write]
  refine (if_neg ?_).trans ?_
  · exact fun hpositional => Bool.false_ne_true (h.symm.trans hpositional)
  · rw [powerLayout]
    cases (figures n.coefficient).drop 1 <;> rfl

theorem script_isPositional (exponent : Int) :
    script.isPositional exponent = true ↔ -6 ≤ exponent ∧ exponent ≤ 20 := by
  simp [script, isPositional]

theorem scientific_isPositional (exponent : Int) : scientific.isPositional exponent = false := by
  simp only [scientific, isPositional, Option.all_some, Bool.and_eq_false_iff,
    decide_eq_false_iff_not]
  omega

/-- The script's layout of a numeral is one of the four, as its leading power says. -/
theorem script_laidOut (n : Numeral) :
    LaidOut (figures n.coefficient) n.leading (script.write n) := by
  by_cases hpositional : script.isPositional n.leading = true
  · obtain ⟨hleast, hmost⟩ := (script_isPositional _).mp hpositional
    have hleading : n.leading = n.exponent + (figures n.coefficient).length - 1 := rfl
    rw [write, ← hleading]
    generalize figures n.coefficient = ds at *
    refine (if_pos hpositional) ▸ ?_
    split
    · next hexponent =>
      rw [show script.wholeMark = [] from rfl, List.append_nil]
      exact .whole _ (by omega) hmost
    · next hexponent =>
      split
      · next hpoint =>
        refine .point (List.take_append_drop _ _).symm (fun hnil => ?_) ?_ hpoint hmost
        · have := congrArg List.length hnil
          rw [List.length_drop, List.length_nil] at this
          omega
        · rw [List.length_take]
          omega
      · exact .small _ (by omega) hleast
  · have hout : n.leading < -6 ∨ 20 < n.leading := by
      rw [script_isPositional] at hpositional
      omega
    rw [write_power (by simpa using hpositional)]
    exact .power hout

end Layout

theorem powerText_figures {exponent : Int} (h : exponent ≠ 0) : PowerText exponent
    ('e' :: ((if exponent < 0 then ['-'] else ['+']) ++ figures exponent.natAbs)) := by
  have hpos : 0 < exponent.natAbs := Int.natAbs_pos.mpr h
  have hfigures := areFigures_figures hpos
  have hvalue := figuresValue_figures hpos
  split
  · next hneg =>
    have hpower := PowerText.minus hfigures
    rwa [hvalue, show -(exponent.natAbs : Int) = exponent by omega] at hpower
  · next hneg =>
    have hpower := PowerText.plus hfigures
    rwa [hvalue, show (exponent.natAbs : Int) = exponent by omega] at hpower

variable {ds cs : List Char} {exponent : Int}

theorem value_ofParts (whole fraction : List Char) (power : Int) :
    (Numeral.ofParts whole fraction power).value =
      figuresValue (whole ++ fraction) * 10 ^ (power - fraction.length) := rfl

/-- Each layout has parts with the value of the figures at their places. The part before the point
is a zero or starts as the figures do. -/
theorem LaidOut.exists_parted (h : LaidOut ds exponent cs) (hds : AreFigures ds) :
    ∃ whole fraction e power, Parted cs whole fraction e power ∧
      (Numeral.ofParts whole fraction e).value =
        figuresValue ds * 10 ^ (exponent + 1 - ds.length) ∧
      (whole = ['0'] ∨ whole.head? = ds.head?) := by
  cases h with
  | whole zeros hlength =>
    refine ⟨ds ++ List.replicate zeros '0', [], 0, [],
      ⟨?_, hds.append isDigit_of_mem_zeros, nofun, .none⟩, ?_,
      .inr (List.head?_append_of_ne_nil _ hds.1)⟩
    · rw [pointText, List.append_nil, List.append_nil]
    · rw [value_ofParts, List.append_nil, figuresValue_append_zeros, hlength]
      simp
  | @point whole fraction hsplit hfraction hwhole hleast =>
    subst hsplit
    have hsome : whole ≠ [] := by
      rintro rfl
      rw [List.length_nil] at hwhole
      omega
    refine ⟨whole, fraction, 0, [], ⟨?_, ⟨hsome, fun c hc => ?_⟩, fun c hc => ?_, .none⟩, ?_,
      .inr (List.head?_append_of_ne_nil _ hsome).symm⟩
    · rw [pointText_of_ne_nil hfraction, List.append_nil]
    · exact hds.2 c (List.mem_append_left _ hc)
    · exact hds.2 c (List.mem_append_right _ hc)
    · rw [value_ofParts, List.length_append]
      congr 2
      omega
  | small zeros hzeros =>
    have hfraction : List.replicate zeros '0' ++ ds ≠ [] := by simp [hds.1]
    refine ⟨['0'], List.replicate zeros '0' ++ ds, 0, [],
      ⟨?_, ⟨List.cons_ne_nil _ _, isDigit_of_mem_zeros (k := 1)⟩, fun c hc => ?_, .none⟩, ?_, .inl rfl⟩
    · rw [pointText_of_ne_nil hfraction, List.append_nil]
      rfl
    · exact (List.mem_append.mp hc).elim (isDigit_of_mem_zeros c) (hds.2 c)
    · -- The zero before the point and those after it count nothing.
      rw [value_ofParts, List.length_append, List.length_replicate, ← List.append_assoc,
        show ['0'] ++ List.replicate zeros '0' = List.replicate (zeros + 1) '0' from rfl,
        figuresValue_zeros_append]
      congr 2
      omega
  | power hout =>
    obtain ⟨d, rest, rfl⟩ := List.exists_cons_of_ne_nil hds.1
    refine ⟨[d], rest, exponent, _, ⟨List.append_assoc .., ⟨List.cons_ne_nil _ _, fun c hc => ?_⟩,
      fun c hc => ?_, powerText_figures (by omega)⟩, ?_, .inr rfl⟩
    · exact hds.2 c (List.mem_singleton.mp hc ▸ .head _)
    · exact hds.2 c (.tail _ hc)
    · rw [value_ofParts, List.singleton_append, List.length_cons]
      congr 2
      omega

/-- Laid out figures stand for their value, moved to where the leading power says. -/
theorem LaidOut.standsFor (h : LaidOut ds exponent cs) (hds : AreFigures ds) :
    StandsFor cs (figuresValue ds * 10 ^ (exponent + 1 - ds.length)) := by
  obtain ⟨whole, fraction, e, power, hparted, hvalue, -⟩ := h.exists_parted hds
  exact hvalue ▸ hparted.standsFor

section Texts

variable {x : Float} {negative : Bool} {m : Nat} {e : Int}

/-- The figures of a numeral stand for its value at its leading power. -/
theorem value_figures {n : Numeral} (hn : 0 < n.coefficient) : n.value =
    figuresValue (figures n.coefficient) * 10 ^ (n.leading + 1 - (figures n.coefficient).length) := by
  rw [figuresValue_figures hn, Numeral.value, Numeral.leading]
  congr 2
  omega

theorem numberText_eq (hx : Binary.ofFloat x = .finite negative m e) (hm : m ≠ 0) :
    numberText x = String.ofList (if negative then '-' :: Layout.script.write (shortest m e)
      else Layout.script.write (shortest m e)) := by
  simp only [numberText, hx, if_neg hm]

theorem scientificText_eq (hx : Binary.ofFloat x = .finite negative m e) (hm : m ≠ 0) :
    scientificText x = String.ofList
      (if negative then
        '-' :: powerLayout [] (figures (shortest m e).coefficient) (shortest m e).leading
      else powerLayout [] (figures (shortest m e).coefficient) (shortest m e).leading) := by
  simp only [scientificText, signedText, hx, if_neg hm,
    Layout.write_power (Layout.scientific_isPositional _)]
  rfl

/-- The text of a double that is not zero has parts with the double as their numeral. -/
theorem numberText_parted (hx : Binary.ofFloat x = .finite negative m e) (hm : m ≠ 0) :
    ∃ whole fraction exponent power,
      Parted (Layout.script.write (shortest m e)) whole fraction exponent power ∧
      (Numeral.ofParts whole fraction exponent).toFloat negative = x := by
  have hpos := Nat.pos_of_ne_zero hm
  have hcoefficient := shortest_coefficient_pos hx hpos
  obtain ⟨whole, fraction, exponent, power, hparted, hvalue, -⟩ :=
    (Layout.script_laidOut (shortest m e)).exists_parted (areFigures_figures hcoefficient)
  refine ⟨whole, fraction, exponent, power, hparted, ?_⟩
  rw [Numeral.toFloat_congr (hvalue.trans (value_figures hcoefficient).symm),
    shortest_toFloat hx hpos]

end Texts

end Microtemplate.Decimal
