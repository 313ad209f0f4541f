import Microtemplate.Decimal.Fixed
import Microtemplate.Proofs.Decimal.Exact
import Microtemplate.Proofs.Decimal.Written

/-!
Rounding to a fixed count of places. Long division gives the digits of a fraction one after the other,
adding one carries through nines, and both together give the value rounded to the nearest decimal
with that many places, a half away from zero.
-/

namespace Microtemplate.Decimal

section LongDivision

variable {den : Nat}

theorem length_fractionDigits (den count rest : Nat) :
    (fractionDigits den count rest).length = count := by
  induction count generalizing rest with
  | zero => rfl
  | succ count ih => rw [fractionDigits, List.length_cons, ih]

/-- Long division goes on with what is left. -/
theorem fractionDigits_add {rest : Nat} (hrest : rest < den) (a b : Nat) :
    fractionDigits den (a + b) rest =
      fractionDigits den a rest ++ fractionDigits den b (rest * 10 ^ a % den) := by
  induction a generalizing rest with
  | zero => rw [Nat.zero_add, Nat.pow_zero, Nat.mul_one, Nat.mod_eq_of_lt hrest]; rfl
  | succ a ih =>
    have hleft : 10 * rest % den * 10 ^ a % den = rest * 10 ^ (a + 1) % den := by
      rw [Nat.mod_mul_mod, Nat.pow_succ']
      congr 1
      ring
    rw [Nat.add_right_comm, fractionDigits, ih (Nat.mod_lt _ (by omega)), hleft]
    rfl

theorem fractionDigits_lt {rest : Nat} (hrest : rest < den) (count : Nat) :
    ∀ d ∈ fractionDigits den count rest, d < 10 := by
  induction count generalizing rest with
  | zero => nofun
  | succ count ih =>
    have hden : 0 < den := by omega
    refine List.forall_mem_cons.mpr ⟨?_, ih (Nat.mod_lt _ hden)⟩
    exact (Nat.div_lt_iff_lt_mul hden).mpr (Nat.mul_lt_mul_of_pos_left hrest (by decide))

/-- The value of the digits that long division gives. -/
theorem ofDigits_fractionDigits {rest : Nat} (hrest : rest < den) (count : Nat) :
    Nat.ofDigits 10 (fractionDigits den count rest).reverse = rest * 10 ^ count / den := by
  induction count generalizing rest with
  | zero =>
    rw [Nat.pow_zero, Nat.mul_one, Nat.div_eq_of_lt hrest]
    rfl
  | succ count ih =>
    have hden : 0 < den := by omega
    have hsplit : rest * 10 ^ (count + 1) =
        10 * rest % den * 10 ^ count + den * (10 * rest / den * 10 ^ count) := by
      rw [← Nat.mul_assoc, ← Nat.add_mul, Nat.mod_add_div, Nat.pow_succ']
      ring
    rw [fractionDigits, List.reverse_cons, Nat.ofDigits_append, ih (Nat.mod_lt _ hden),
      List.length_reverse, length_fractionDigits, Nat.ofDigits_singleton, hsplit,
      Nat.add_mul_div_left _ _ hden, Nat.mul_comm (10 ^ count)]

end LongDivision

section Carrying

variable {ds : List Nat}

/-- Adding one in the last place adds one to the value. -/
theorem ofDigits_increment (ds : List Nat) :
    Nat.ofDigits 10 (increment ds) = Nat.ofDigits 10 ds + 1 := by
  induction ds with
  | nil => rfl
  | cons d ds ih =>
    rw [increment]
    split
    · next hnine =>
      rw [Nat.ofDigits_cons, ih, Nat.ofDigits_cons, hnine]
      omega
    · rw [Nat.ofDigits_cons, Nat.ofDigits_cons]
      omega

theorem increment_lt (hds : ∀ d ∈ ds, d < 10) : ∀ d ∈ increment ds, d < 10 := by
  induction ds with
  | nil => exact List.forall_mem_singleton.mpr (by decide)
  | cons d ds ih =>
    obtain ⟨hd, hmore⟩ := List.forall_mem_cons.mp hds
    rw [increment]
    split
    · exact List.forall_mem_cons.mpr ⟨by decide, ih hmore⟩
    · exact List.forall_mem_cons.mpr ⟨by omega, hmore⟩

theorem length_le_increment (ds : List Nat) : ds.length ≤ (increment ds).length := by
  induction ds with
  | nil => exact Nat.zero_le _
  | cons d ds ih =>
    rw [increment]
    split
    · exact Nat.succ_le_succ ih
    · exact Nat.le_refl _

/-- A carry ends at the latest at a digit that is no nine. -/
theorem length_increment_concat {d : Nat} (hd : d ≠ 9) :
    (increment (ds ++ [d])).length = ds.length + 1 := by
  induction ds with
  | nil => rw [List.nil_append, increment, if_neg hd]; rfl
  | cons c ds ih =>
    rw [List.cons_append, increment]
    split
    · rw [List.length_cons, ih]; rfl
    · simp

theorem increment_ne_nil (ds : List Nat) : increment ds ≠ [] := by
  cases ds with
  | nil => exact List.cons_ne_nil _ _
  | cons d ds =>
    rw [increment]
    split <;> exact List.cons_ne_nil _ _

/-- Where the first digit is no zero, it is none after a carry either. -/
theorem getLast?_increment (hds : ∀ d ∈ ds.getLast?, d ≠ 0) :
    ∀ d ∈ (increment ds).getLast?, d ≠ 0 := by
  induction ds with
  | nil => simp [increment]
  | cons c ds ih =>
    have hlast : ∀ (a : Nat) {l : List Nat}, l ≠ [] → (a :: l).getLast? = l.getLast? := by
      intro a l hl
      obtain ⟨b, l, rfl⟩ := List.exists_cons_of_ne_nil hl
      exact List.getLast?_cons_cons
    rw [increment]
    split
    · rw [hlast 0 (increment_ne_nil ds)]
      refine ih fun d hd => hds d ?_
      rwa [hlast c (by rintro rfl; cases hd)]
    · by_cases hnil : ds = []
      · subst hnil
        simp
      · rw [hlast _ hnil]
        rwa [hlast c hnil] at hds

end Carrying

/-- A decimal numeral with a count of places: a whole part without a superfluous zero, and if there
are places a point and as many figures. -/
structure FixedNumeral (places : Nat) (cs : List Char) (q : ℚ) : Prop where
  split : ∃ whole fraction, cs = whole ++ pointText fraction ∧ fraction.length = places ∧
    ∀ rest, whole = '0' :: rest → rest = []
  value : Positional cs q

/-- Digits of a whole number, the last ones of which are to stand after a point: one digit stands before
the point, or the first one is no zero. -/
structure Placed (places n : Nat) (ds : List Nat) : Prop where
  value : Nat.ofDigits 10 ds.reverse = n
  lt : ∀ d ∈ ds, d < 10
  length : places < ds.length
  first : ds.length = places + 1 ∨ ∀ d ∈ ds.head?, d ≠ 0

/-- Digits with a point before the last ones are a numeral. -/
theorem Placed.fixedNumeral {ds : List Nat} {places n : Nat} (h : Placed places n ds) :
    FixedNumeral places (pointed ds places) (n / 10 ^ places) := by
  obtain ⟨hn, hds, hlength, hfirst⟩ := h
  let whole := (ds.map digitChar).take (ds.length - places)
  let fraction := (ds.map digitChar).drop (ds.length - places)
  have hsplit : whole ++ fraction = ds.map digitChar := List.take_append_drop _ _
  have hwhole : whole.length = ds.length - places := by
    simp only [whole, List.length_take, List.length_map]
    omega
  have hfraction : fraction.length = places := by
    simp only [fraction, List.length_drop, List.length_map]
    omega
  have htext : pointed ds places = whole ++ pointText fraction := by
    change whole ++ (if places = 0 then [] else '.' :: fraction) = _
    congr 1
    cases hcs : fraction with
    | nil =>
      rw [hcs] at hfraction
      exact if_pos hfraction.symm
    | cons c cs =>
      rw [hcs, List.length_cons] at hfraction
      exact if_neg (by omega)
  have hdigits : ∀ c ∈ whole ++ fraction, c.isDigit = true := by
    rw [hsplit]
    intro c hc
    obtain ⟨d, hd, rfl⟩ := List.mem_map.mp hc
    exact (digitChar_of_lt (hds d hd)).1
  have hvalue : figuresValue (whole ++ fraction) = n := by
    have hreverse : ∀ d ∈ ds.reverse, d < 10 := fun d hd => hds d (List.mem_reverse.mp hd)
    rw [← hn, ← figuresValue_digits hreverse, List.reverse_reverse, hsplit]
  refine ⟨⟨whole, fraction, htext, hfraction, fun rest hrest => ?_⟩, ?_⟩
  · rcases hfirst with hone | hfirst
    · rw [hrest, List.length_cons] at hwhole
      exact List.eq_nil_of_length_eq_zero (by omega)
    · obtain ⟨d, more, rfl⟩ := List.exists_cons_of_length_pos (Nat.zero_lt_of_lt hlength)
      rw [hrest, List.map_cons, List.cons_append] at hsplit
      have hd : d < 10 := hds d List.mem_cons_self
      exact absurd ((digitChar_of_lt hd).2.2 (List.cons.inj hsplit).1.symm) (hfirst d rfl)
  · have hfigures : AreFigures whole :=
      ⟨List.ne_nil_of_length_pos (by omega), fun c hc => hdigits c (List.mem_append_left _ hc)⟩
    rw [htext, ← hvalue, ← hfraction]
    exact positional_of_parts hfigures fun c hc => hdigits c (List.mem_append_right _ hc)

section Rounding

/-- The digits of a whole number have its value, and the first one is a zero only if it is alone. -/
theorem digits_spec (n : Nat) : Nat.ofDigits 10 (digits 10 n).reverse = n ∧
    (∀ d ∈ digits 10 n, d < 10) ∧ digits 10 n ≠ [] ∧
    (digits 10 n = [0] ∨ ∀ d ∈ (digits 10 n).head?, d ≠ 0) := by
  rcases Nat.eq_zero_or_pos n with rfl | hn
  · decide
  · have hne : Nat.digits 10 n ≠ [] := Nat.digits_ne_nil_iff_ne_zero.mpr hn.ne'
    rw [digits_eq (by decide) hn, List.reverse_reverse]
    refine ⟨Nat.ofDigits_digits 10 n,
      fun d hd => Nat.digits_lt_base (by decide) (List.mem_reverse.mp hd), by simpa using hne,
      .inr fun d hd => ?_⟩
    rw [List.head?_reverse, List.getLast?_eq_some_getLast hne] at hd
    cases hd
    exact Nat.getLast_digit_ne_zero 10 hn.ne'

/-- What is kept of a value and whether one is added: both from the remainder at the last place. -/
theorem floor_add_half {num den : Nat} (hden : 0 < den) :
    ⌊(num / den : ℚ) + 1 / 2⌋₊ = num / den + if den ≤ 2 * (num % den) then 1 else 0 := by
  have hpos : (0 : ℚ) < den := by exact_mod_cast hden
  have hsplit : (num : ℚ) / den = (num / den : Nat) + (num % den : Nat) / den := by
    rw [div_eq_iff hpos.ne', add_mul, div_mul_cancel₀ _ hpos.ne']
    exact_mod_cast (Nat.div_add_mod' num den).symm
  have hless : (num % den : Nat) < (den : ℚ) := by exact_mod_cast Nat.mod_lt num hden
  rw [Nat.floor_eq_iff (by positivity), hsplit]
  split
  · next hup =>
    have hup' : (den : ℚ) ≤ 2 * (num % den : Nat) := by exact_mod_cast hup
    have hhalf : (1 / 2 : ℚ) ≤ (num % den : Nat) / den := by
      rw [le_div_iff₀ hpos]
      linarith
    have hone : ((num % den : Nat) / den : ℚ) < 1 := (div_lt_one hpos).mpr hless
    push_cast
    constructor <;> linarith
  · next hdown =>
    have hdown' : 2 * ((num % den : Nat) : ℚ) < den := by exact_mod_cast Nat.lt_of_not_le hdown
    have hhalf : ((num % den : Nat) : ℚ) / den < 1 / 2 := by
      rw [div_lt_iff₀ hpos]
      linarith
    have hnonneg : (0 : ℚ) ≤ (num % den : Nat) / den := by positivity
    push_cast
    constructor <;> linarith

variable {num den places : Nat}

/-- The digits of a value up to some place are the value without what comes after it. -/
theorem ofDigits_expansion (hden : 0 < den) (places : Nat) : Nat.ofDigits 10
    (digits 10 (num / den) ++ fractionDigits den places (num % den)).reverse =
      num * 10 ^ places / den := by
  have hsplit : num * 10 ^ places = num % den * 10 ^ places + den * (num / den * 10 ^ places) := by
    rw [← Nat.mul_assoc, ← Nat.add_mul, Nat.mod_add_div]
  rw [List.reverse_append, Nat.ofDigits_append, ofDigits_fractionDigits (Nat.mod_lt _ hden),
    (digits_spec _).1, List.length_reverse, length_fractionDigits, hsplit,
    Nat.add_mul_div_left _ _ hden, Nat.mul_comm (10 ^ places)]

/-- The digits up to `exactPlaces` are the whole value of a double, which never has more of them. -/
theorem expansion_exact {x : Float} {negative : Bool} {m : Nat} {e : Int}
    (hx : Binary.ofFloat x = .finite negative m e) :
    let num := numerator m e
    let den := denominator e
    ((Nat.ofDigits 10 (digits 10 (num / den) ++ fractionDigits den exactPlaces (num % den)).reverse :
      Nat) : ℚ) = m * 2 ^ e * 10 ^ exactPlaces := by
  intro num den
  have hden : 0 < den := Nat.pow_pos (by decide)
  have hdvd : den ∣ num * 10 ^ exactPlaces := by
    have hexponent : (-e).toNat ≤ exactPlaces := by
      have := (finite_of_ofFloat hx).2.1
      change (-e).toNat ≤ 1100
      omega
    refine Dvd.dvd.mul_left ((Nat.pow_dvd_pow 2 hexponent).trans ?_) num
    exact pow_dvd_pow_of_dvd (by decide) exactPlaces
  rw [ofDigits_expansion hden, Nat.cast_div hdvd (by exact_mod_cast hden.ne'), Nat.cast_mul,
    mul_div_right_comm, numerator_div_denominator, Nat.cast_pow, Nat.cast_ofNat]

/-- The digits that rounding keeps, and the one that decides. -/
theorem roundedDigits_eq (hden : 0 < den) (hplaces : places < exactPlaces) :
    let kept := digits 10 (num / den) ++ fractionDigits den places (num % den)
    roundedDigits (digits 10 (num / den)) (fractionDigits den exactPlaces (num % den)) places =
      if den ≤ 2 * (num * 10 ^ places % den) then (increment kept.reverse).reverse else kept := by
  obtain ⟨k, hk⟩ : ∃ k, exactPlaces = places + (k + 1) := ⟨exactPlaces - places - 1, by omega⟩
  have hlast : num % den * 10 ^ places % den = num * 10 ^ places % den := Nat.mod_mul_mod ..
  generalize num * 10 ^ places % den = rest at hlast ⊢
  have hfraction : fractionDigits den exactPlaces (num % den) =
      fractionDigits den places (num % den) ++
        (10 * rest / den :: fractionDigits den k (10 * rest % den)) := by
    rw [hk, fractionDigits_add (Nat.mod_lt _ hden), hlast, fractionDigits]
  have hlength := length_fractionDigits den places (num % den)
  have hdecides : 5 ≤ 10 * rest / den ↔ den ≤ 2 * rest := by
    rw [Nat.le_div_iff_mul_le hden]
    omega
  intro kept
  rw [hfraction, roundedDigits, List.append_assoc, List.take_left' hlength,
    List.getElem?_append_right (by omega), hlength, Nat.sub_self]
  simp only [List.getElem?_cons_zero, Option.any_some, decide_eq_true_eq, hdecides]
  rfl

/-- The digits up to some place are placed. -/
theorem placed_expansion (hden : 0 < den) (places : Nat) : Placed places (num * 10 ^ places / den)
    (digits 10 (num / den) ++ fractionDigits den places (num % den)) := by
  obtain ⟨-, hlt, hne, hfirst⟩ := digits_spec (num / den)
  have hlength := length_fractionDigits den places (num % den)
  refine ⟨ofDigits_expansion hden places, fun d hd => ?_, ?_, ?_⟩
  · exact (List.mem_append.mp hd).elim (hlt d) (fractionDigits_lt (Nat.mod_lt _ hden) places d)
  · have := List.length_pos_of_ne_nil hne
    rw [List.length_append, hlength]
    omega
  · refine hfirst.imp (fun hzero => ?_) fun hfirst => ?_
    · rw [hzero, List.singleton_append, List.length_cons, hlength]
    · rwa [List.head?_append_of_ne_nil _ hne]

/-- Digits stay placed when one is added. A zero that stands alone before the point ends the carry. -/
theorem Placed.increment {n : Nat} {ds : List Nat} (h : Placed places n ds) :
    Placed places (n + 1) (increment ds.reverse).reverse := by
  refine ⟨?_, fun d hd => ?_, ?_, ?_⟩
  · rw [List.reverse_reverse, ofDigits_increment, h.value]
  · exact increment_lt (fun d hd => h.lt d (List.mem_reverse.mp hd)) d (List.mem_reverse.mp hd)
  · have := length_le_increment ds.reverse
    have := h.length
    rw [List.length_reverse] at *
    omega
  · by_cases hzero : ∃ more, ds = 0 :: more
    · obtain ⟨more, rfl⟩ := hzero
      have hone : (0 :: more).length = places + 1 := h.first.resolve_right fun hfirst => hfirst 0 rfl rfl
      left
      rw [List.length_reverse, List.reverse_cons, length_increment_concat (by decide),
        List.length_reverse, ← hone, List.length_cons]
    · right
      rw [List.head?_reverse]
      refine getLast?_increment fun d hd => ?_
      rintro rfl
      rw [List.getLast?_reverse] at hd
      exact hzero ((List.head?_eq_some_iff.mp hd))

/-- Rounding gives the digits of the nearest decimal. -/
theorem placed_roundedDigits (hden : 0 < den) (hplaces : places < exactPlaces) :
    Placed places ⌊(num / den : ℚ) * 10 ^ places + 1 / 2⌋₊
      (roundedDigits (digits 10 (num / den)) (fractionDigits den exactPlaces (num % den)) places) := by
  have hround : ⌊(num / den : ℚ) * 10 ^ places + 1 / 2⌋₊ = num * 10 ^ places / den +
      if den ≤ 2 * (num * 10 ^ places % den) then 1 else 0 := by
    rw [← floor_add_half hden]
    push_cast
    rw [div_mul_eq_mul_div]
  have hkept := @placed_expansion num den hden places
  rw [hround, roundedDigits_eq hden hplaces]
  split
  · exact hkept.increment
  · exact hkept

end Rounding

end Microtemplate.Decimal
