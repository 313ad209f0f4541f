import Microtemplate.Proofs.Decimal.Order
import Microtemplate.Proofs.Script.ArrayText
import Microtemplate.Proofs.Script.NumberTokens
import Microtemplate.Proofs.Text.UnitOrder
import Microtemplate.Script.Comparison

/-!
The relational operators. Two values have one order, from which all four operators answer; it is the
opposite one from the other side. Two texts, or values that become texts, are ordered by their UTF-16 code
units, which is a linear order of texts. Other values are ordered as numbers, and not at all if one of them
is no number.
-/

namespace Microtemplate.Script

open Decimal (nan)

namespace Store

/-- Two values are compared as texts: no number takes part. -/
def ComparesTexts (s : Store) (a b : Value) : Prop :=
  ∃ x y, s.primitive a = .string x ∧ s.primitive b = .string y

/-- Two values have no order: they are compared as numbers, and one of them is no number. -/
def Incomparable (s : Store) (a b : Value) : Prop :=
  ¬ s.ComparesTexts a b ∧ (s.number a = nan ∨ s.number b = nan)

/-- An operator holds of two values. -/
def Relates (s : Store) (op : BinaryOp) (a b : Value) : Prop := s.binary op a b = .boolean true

instance (s : Store) (op : BinaryOp) (a b : Value) : Decidable (s.Relates op a b) :=
  inferInstanceAs (Decidable (_ = _))

/-- How two values stand to each other: one is before the other, or neither is beyond the other. -/
def OrderedAs (s : Store) (a b : Value) : Ordering → Prop
  | .lt => s.Relates .less a b
  | .gt => s.Relates .greater a b
  | .eq => s.Relates .lessEqual a b ∧ s.Relates .greaterEqual a b

/-- The relational operators. -/
def relational : List BinaryOp := [.less, .lessEqual, .greater, .greaterEqual]

variable {s : Store} {a b : Value}

/-- The text of a function is no number, as the function itself is none. -/
theorem numberOfText_functionText (name code : String) :
    numberOfText (functionText name code) = nan := by
  obtain ⟨cs, hcs⟩ : ∃ cs, (functionText name code).toList = 'f' :: cs := by
    simp [functionText]
  have hlast : (functionText name code).toList.getLast? = some '\x7d' := by
    rw [functionText, String.toList_append, List.getLast?_append]
    rfl
  have htrim : Unicode.trim (functionText name code).toList = 'f' :: cs := by
    rw [← hcs]
    apply trim_eq_self
    · rw [hcs]
      rintro _ ⟨⟩
      decide
    · rw [hlast]
      rintro _ ⟨⟩
      decide
  have hread : Decimal.Numeral.ofText? ('f' :: cs) = none := by
    rw [Decimal.Numeral.ofText?, signOf_eq (by simp)]
    rfl
  rw [numberOfText_decimal htrim (List.cons_ne_nil _ _) (by simp) (by simp), hread]
  rfl

/-- A value and the primitive value that it becomes are the same number. -/
theorem number_primitive (s : Store) (v : Value) : s.number (s.primitive v) = s.number v := by
  have hfunction : v.isCallable = true → numberOfText (s.text v) = nan := by
    intro hv
    rw [text, textWithin_plain (by rintro a rfl; cases hv)]
    cases v with
    | function p => exact numberOfText_functionText _ _
    | builtin b => exact numberOfText_functionText _ _
    | method p => exact numberOfText_functionText _ _
    | _ => cases hv
  cases v with
  | function p => exact hfunction rfl
  | builtin b => exact hfunction rfl
  | method p => exact hfunction rfl
  | _ => rfl

theorem order?_of_texts {x y : String} (ha : s.primitive a = .string x)
    (hb : s.primitive b = .string y) :
    s.order? a b = some (Text.compareUnits (Text.units x.toList) (Text.units y.toList)) := by
  rw [order?, ha, hb]

/-- Values that are not compared as texts are ordered as their numbers are. -/
theorem order?_of_numbers (h : ¬ s.ComparesTexts a b) :
    s.order? a b = Decimal.compare? (s.number a) (s.number b) := by
  have hnumbers : ∀ x y : Float, (if x < y then some Ordering.lt else if x == y then some .eq
      else if y < x then some .gt else none) = Decimal.compare? x y := by
    intro x y
    simp only [Decimal.lt_iff_compare?, Decimal.beq_iff_compare?, ← Decimal.compare?_swap x y]
    cases Decimal.compare? x y with
    | none => rfl
    | some o => cases o <;> rfl
  rw [← s.number_primitive a, ← s.number_primitive b, ← hnumbers, order?]
  split
  · next x y ha hb => exact absurd ⟨x, y, ha, hb⟩ h
  · rfl

theorem ComparesTexts.symm (h : s.ComparesTexts a b) : s.ComparesTexts b a := by
  obtain ⟨x, y, hx, hy⟩ := h
  exact ⟨y, x, hy, hx⟩

/-- From the other side two values have the opposite order. -/
theorem order?_swap (s : Store) (a b : Value) : (s.order? a b).map Ordering.swap = s.order? b a := by
  by_cases h : s.ComparesTexts a b
  · obtain ⟨x, y, hx, hy⟩ := h
    rw [order?_of_texts hx hy, order?_of_texts hy hx, Option.map_some, Text.compareUnits_swap]
  · have h' : ¬ s.ComparesTexts b a := fun hba => h hba.symm
    rw [order?_of_numbers h, order?_of_numbers h', Decimal.compare?_swap]

theorem order?_eq_none_iff : s.order? a b = none ↔ s.Incomparable a b := by
  by_cases h : s.ComparesTexts a b
  · have hincomparable : ¬ s.Incomparable a b := fun hab => hab.1 h
    obtain ⟨x, y, hx, hy⟩ := h
    rw [order?_of_texts hx hy]
    exact iff_of_false (Option.some_ne_none _) hincomparable
  · rw [order?_of_numbers h, Decimal.compare?_eq_none_iff]
    exact (and_iff_right h).symm

section Answers

variable {o : Ordering}

theorem binary_of_order? (h : s.order? a b = some o) :
    s.binary .less a b = .boolean (o == .lt) ∧
      s.binary .lessEqual a b = .boolean (o != .gt) ∧
      s.binary .greater a b = .boolean (o == .gt) ∧
      s.binary .greaterEqual a b = .boolean (o != .lt) := by
  simp only [binary, h]
  cases o <;> decide

theorem binary_of_incomparable (h : s.Incomparable a b) {op : BinaryOp} (hop : op ∈ relational) :
    s.binary op a b = .boolean false := by
  have hnone := order?_eq_none_iff.mpr h
  simp only [relational, List.mem_cons, List.not_mem_nil, or_false] at hop
  rcases hop with rfl | rfl | rfl | rfl <;> simp [binary, hnone]

/-- Values with an order stand to each other in this way and in no other. -/
theorem orderedAs_iff_of_order? (h : s.order? a b = some o) (o' : Ordering) :
    s.OrderedAs a b o' ↔ o' = o := by
  obtain ⟨hless, hlessEqual, hgreater, hgreaterEqual⟩ := binary_of_order? h
  cases o' <;> simp only [OrderedAs, Relates, hless, hlessEqual, hgreater, hgreaterEqual] <;>
    cases o <;> decide

end Answers

/-- Each operator answers as its mirror image does from the other side. -/
theorem binary_swap (s : Store) (a b : Value) :
    s.binary .less a b = s.binary .greater b a ∧
      s.binary .lessEqual a b = s.binary .greaterEqual b a := by
  simp only [binary, ← order?_swap s a b]
  cases s.order? a b with
  | none => exact ⟨rfl, rfl⟩
  | some o => cases o <;> exact ⟨rfl, rfl⟩

section Texts

variable {x y : String}

theorem order?_strings (s : Store) (x y : String) : s.order? (.string x) (.string y) =
    some (Text.compareUnits (Text.units x.toList) (Text.units y.toList)) := order?_of_texts rfl rfl

theorem relates_less_iff : s.Relates .less (.string x) (.string y) ↔
    Text.units x.toList < Text.units y.toList := by
  rw [Relates, (binary_of_order? (order?_strings s x y)).1, ← Text.compareUnits_eq_lt_iff,
    Value.boolean.injEq, beq_iff_eq]

/-- A text is not beyond another one just if the other one is not before it. -/
theorem relates_lessEqual_iff : s.Relates .lessEqual (.string x) (.string y) ↔
    ¬ Text.units y.toList < Text.units x.toList := by
  rw [Relates, (binary_of_order? (order?_strings s x y)).2.1, ← Text.compareUnits_eq_lt_iff,
    ← Text.compareUnits_swap (Text.units x.toList), Value.boolean.injEq]
  cases Text.compareUnits (Text.units x.toList) (Text.units y.toList) <;> decide

theorem relates_strictEqual_iff : s.Relates .strictEqual (.string x) (.string y) ↔
    Text.units x.toList = Text.units y.toList := by
  rw [Text.units_inj, String.toList_inj, Relates, binary, Value.strictEquals, Value.boolean.injEq,
    beq_iff_eq]

end Texts

/-- The four relational operators answer from one order of the two values, and the mirror image of an
operator answers the same from the other side. If the values are compared as numbers and one of them is no
number, all four are false. Otherwise one value is before the other or neither is beyond the other, just
one of the three, and one is not beyond the other just if the other is not before it. Texts are in the
linear order of their UTF-16 code units. -/
theorem relations_ordered (s : Store) :
    (∀ a b, s.binary .less a b = s.binary .greater b a ∧
      s.binary .lessEqual a b = s.binary .greaterEqual b a) ∧
    (∀ a b, s.Incomparable a b → ∀ op ∈ relational, s.binary op a b = .boolean false) ∧
    (∀ a b, ¬ s.Incomparable a b → (∃! o, s.OrderedAs a b o) ∧
      ∃ before, s.binary .less b a = .boolean before ∧
        s.binary .lessEqual a b = .boolean (!before)) ∧
    (∀ x y z : String, s.Relates .less (.string x) (.string y) →
      s.Relates .less (.string y) (.string z) → s.Relates .less (.string x) (.string z)) ∧
    (∀ x y : String, s.Relates .less (.string x) (.string y) ∨
      s.Relates .strictEqual (.string x) (.string y) ∨ s.Relates .less (.string y) (.string x)) ∧
    (∀ x y : String, s.Relates .lessEqual (.string x) (.string y) ∧
      s.Relates .lessEqual (.string y) (.string x) ↔ s.Relates .strictEqual (.string x) (.string y)) ∧
    ∀ x y : String, ∃ us vs, Text.InUnits x.toList us ∧ Text.InUnits y.toList vs ∧
      (s.Relates .less (.string x) (.string y) ↔ us < vs) := by
  refine ⟨s.binary_swap, fun a b h op => binary_of_incomparable h, ?_, ?_, ?_, ?_, ?_⟩
  · intro a b h
    obtain ⟨o, ho⟩ := Option.ne_none_iff_exists'.mp (mt order?_eq_none_iff.mp h)
    refine ⟨⟨o, (orderedAs_iff_of_order? ho o).mpr rfl, fun o' => (orderedAs_iff_of_order? ho o').mp⟩, ?_⟩
    obtain ⟨-, hlessEqual, hgreater, -⟩ := binary_of_order? ho
    exact ⟨o == .gt, (s.binary_swap b a).1.trans hgreater, hlessEqual⟩
  · intro x y z
    simp only [relates_less_iff]
    exact lt_trans
  · intro x y
    simp only [relates_less_iff, relates_strictEqual_iff]
    exact lt_trichotomy _ _
  · intro x y
    simp only [relates_lessEqual_iff, relates_strictEqual_iff, not_lt]
    exact le_antisymm_iff.symm
  · intro x y
    exact ⟨_, _, Text.inUnits_units _, Text.inUnits_units _, relates_less_iff⟩

/-- An array is compared with a number as the number that its text spells, what is undefined with none, and
a character beyond U+FFFF is before the last ones below it. -/
theorem relations_ordered_halfwidth :
    let s : Store := ⟨#[#[.number 10.0]], #[], #[], #[], #[]⟩
    s.binary .less (.array 0) (.number 9.0) = .boolean false ∧
      s.binary .lessEqual (.number 9.0) (.array 0) = .boolean true ∧
      s.binary .greaterEqual .undefined (.number 9.0) = .boolean false ∧
      s.Relates .less (.string "10") (.string "😀") ∧
      s.Relates .less (.string "😀") (.string "｡") ∧ s.Relates .less (.string "10") (.string "｡") := by
  intro s
  obtain ⟨-, hnone, hsome, htrans, -, -, -⟩ := relations_ordered s
  have hfirst : s.binary .less (.array 0) (.number 9.0) = .boolean false := by decide +kernel
  have hordered : ¬ s.Incomparable (.number 9.0) (.array 0) := by
    rintro ⟨-, h | h⟩
    · exact absurd h (by decide +kernel)
    · exact absurd h (by decide +kernel)
  have hundefined : s.Incomparable .undefined (.number 9.0) := by
    refine ⟨?_, Or.inl rfl⟩
    rintro ⟨x, y, h, -⟩
    cases h
  have hten : s.Relates .less (.string "10") (.string "😀") := by decide +kernel
  have hface : s.Relates .less (.string "😀") (.string "｡") := by decide +kernel
  refine ⟨hfirst, ?_, hnone _ _ hundefined _ (by simp [relational]), hten, hface,
    htrans _ _ _ hten hface⟩
  obtain ⟨before, hless, hlessEqual⟩ := (hsome _ _ hordered).2
  cases hfirst.symm.trans hless
  exact hlessEqual

end Store

end Microtemplate.Script
