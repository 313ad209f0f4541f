import Microtemplate.Proofs.Decimal.Shortest
import Microtemplate.Proofs.Script.Equality
import Microtemplate.Proofs.Script.Running
import Microtemplate.Proofs.Text.Search

/-!
Searching in texts and arrays. `indexOf` gives the first place at or after the start where a value occurs,
and minus one if there is none. In a text `includes` says whether there is such a place; in an array it
looks at all elements, wherever the search is to start.
-/

namespace Microtemplate.Script

namespace Store

/-- Where a search in a text or an array starts. A negative start is counted from the end of an array;
in a text it is the beginning. -/
def searchStart (s : Store) (receiver start : Value) : Nat :=
  match receiver with
  | .string t => s.clampedPosition t.toList.length 0 start
  | .array a => s.relativePosition (s.elements a).size 0 start
  | _ => 0

/-- The text of a value stands at a position of a text, or an element there is strictly equal to it. -/
def OccursAt (s : Store) (receiver v : Value) (i : Nat) : Prop :=
  match receiver with
  | .string t => Text.OccursAt (s.text v).toList t.toList i
  | .array a => ∃ element, (s.elements a)[i]? = some element ∧ element.strictEquals v = true
  | _ => False

end Store

/-- The position that a search gives: the least place, and minus one if there is none. -/
inductive FirstPlace (places : Set Nat) : Value → Prop
  | found {i : Nat} (h : IsLeast places i) : FirstPlace places (.number (Decimal.ofNat i))
  | missing (h : ¬ places.Nonempty) : FirstPlace places (.number (-1.0))

/-- No count is minus one. -/
theorem ofNat_beq_minusOne (n : Nat) : (Decimal.ofNat n == -1.0) = false := by
  have hle : (Decimal.ofNat n).toBits.toNat ≤ 0x7FF0000000000000 := Decimal.toBits_nearest_le n 1
  rw [← Bool.not_eq_true, Float.beq_iff_ne_nan_and_eq]
  rintro ⟨-, -, heq | ⟨-, heq⟩ | ⟨-, heq⟩⟩
  · rw [heq] at hle
    exact absurd hle (by decide +kernel)
  · exact absurd heq (by decide +kernel)
  · exact absurd heq (by decide +kernel)

theorem FirstPlace.of_isLeast {places : Set Nat} {found : Option Nat}
    (h : ∀ i, found = some i ↔ IsLeast places i) :
    FirstPlace places (.number ((found.map Decimal.ofNat).getD (-1.0))) := by
  cases hfound : found with
  | none =>
    refine .missing fun hplaces => ?_
    rw [← Text.isSome_iff_of_isLeast h, hfound] at hplaces
    cases hplaces
  | some i => exact .found ((h i).mp hfound)

theorem FirstPlace.strictEquals_minusOne {places : Set Nat} {position : Value}
    (h : FirstPlace places position) :
    position.strictEquals (.number (-1.0)) = false ↔ places.Nonempty := by
  cases h with
  | found h => exact iff_of_true (ofNat_beq_minusOne _) ⟨_, h.1⟩
  | missing h => exact iff_of_false (by decide +kernel) h

section Searches

variable {s : Store} {args : List Value}

theorem TextMethod.search_eq_some_iff {t : String} {i : Nat} :
    TextMethod.search s t.toList args = some i ↔
      IsLeast {j | s.searchStart (.string t) (argument args 1) ≤ j ∧
        s.OccursAt (.string t) (argument args 0) j} i :=
  Text.occurrenceFrom?_eq_some_iff_isLeast (Store.clampedPosition_le (Nat.zero_le _))

/-- The first element with a property stands at the least index of such elements. -/
theorem findIdx?_eq_some_iff_isLeast {α : Type} {p : α → Bool} {xs : List α} {i : Nat} :
    xs.findIdx? p = some i ↔ IsLeast {j | ∃ x, xs[j]? = some x ∧ p x = true} i := by
  rw [List.findIdx?_eq_some_iff_getElem]
  constructor
  · rintro ⟨hlt, hat, hfirst⟩
    refine ⟨⟨xs[i], List.getElem?_eq_getElem hlt, hat⟩, fun k ⟨x, hx, hp⟩ => ?_⟩
    refine Nat.le_of_not_lt fun hless => hfirst k hless ?_
    obtain ⟨_, rfl⟩ := List.getElem?_eq_some_iff.mp hx
    exact hp
  · rintro ⟨⟨x, hx, hp⟩, hfirst⟩
    obtain ⟨hlt, rfl⟩ := List.getElem?_eq_some_iff.mp hx
    refine ⟨hlt, hp, fun k hless hk => ?_⟩
    exact Nat.not_le_of_lt hless (hfirst ⟨_, List.getElem?_eq_getElem (Nat.lt_trans hless hlt), hk⟩)

theorem ArrayMethod.indexOf_eq_some_iff {a : Address} {i : Nat} :
    ArrayMethod.indexOf s (s.elements a) args = some i ↔
      IsLeast {j | s.searchStart (.array a) (argument args 1) ≤ j ∧
        s.OccursAt (.array a) (argument args 0) j} i := by
  refine Text.map_add_eq_some_iff_isLeast fun i => ?_
  rw [findIdx?_eq_some_iff_isLeast]
  simp only [List.getElem?_drop, Array.getElem?_toList]
  rfl

/-- Strict equality in which what is no number equals itself differs from strict equality there only. -/
theorem Value.sameValue_eq_strictEquals {v : Value} (hv : v ≠ .number Decimal.nan) (w : Value) :
    w.sameValue v = w.strictEquals v := by
  unfold sameValue
  split
  · next x y =>
    have hy : (y == y) = true := strictEquals_self_iff.mpr hv
    simp [strictEquals, hy]
  · rfl

theorem any_sameValue_iff {a : Address} {v : Value} (hv : v ≠ .number Decimal.nan) :
    ((s.elements a).any fun w => w.sameValue v) = true ↔ ∃ i, s.OccursAt (.array a) v i := by
  simp only [Value.sameValue_eq_strictEquals hv, Array.any_eq_true, Store.OccursAt,
    Array.getElem?_eq_some_iff]
  constructor
  · rintro ⟨i, hlt, hat⟩
    exact ⟨i, _, ⟨hlt, rfl⟩, hat⟩
  · rintro ⟨i, _, ⟨hlt, rfl⟩, hat⟩
    exact ⟨i, hlt, hat⟩

end Searches

namespace Evaluator

variable {self : Evaluator} {c : Context} {s : Store} {m k : Address} {args : List Value}

/-- What a method of a text or an array reads from the store is what the call gives. -/
theorem callStep_read {bound : BoundMethod} {f : Store → Value} (hm : s.methods[m]? = some bound)
    (hrun : bound.run (self.call c) args = Run.read f) :
    (self.callStep c (.method m) args).Gives s (f s) s := by
  refine callStep_method hm ?_
  rw [hrun]
  exact .read f

/-- Searching with `indexOf` and with `includes`, for the same value and the same start. In a text they
agree. In an array `includes` finds what occurs anywhere, so they agree unless all places where the value
occurs are before the start. -/
theorem includes_agrees_unless_before_start {receiver : Value}
    (hreceiver : (∃ t, receiver = .string t) ∨ ∃ a, receiver = .array a)
    (hm : s.methods[m]? = some ⟨receiver, .indexOf⟩)
    (hk : s.methods[k]? = some ⟨receiver, .includes⟩)
    (hnumber : (∃ a, receiver = .array a) → argument args 0 ≠ .number Decimal.nan) :
    ∃ position included,
      (self.callStep c (.method m) args).Gives s position s ∧
      (self.callStep c (.method k) args).Gives s (.boolean included) s ∧
      FirstPlace {i | s.searchStart receiver (argument args 1) ≤ i ∧
        s.OccursAt receiver (argument args 0) i} position ∧
      ((∃ t, receiver = .string t) →
        (included = true ↔ position.strictEquals (.number (-1.0)) = false)) ∧
      ((∃ a, receiver = .array a) →
        (included = true ↔ ∃ i, s.OccursAt receiver (argument args 0) i) ∧
        ((included = true ↔ position.strictEquals (.number (-1.0)) = false) ↔
          ((∃ i, s.OccursAt receiver (argument args 0) i) →
            ∃ i, s.searchStart receiver (argument args 1) ≤ i ∧
              s.OccursAt receiver (argument args 0) i))) := by
  obtain ⟨t, rfl⟩ | ⟨a, rfl⟩ := hreceiver
  · have hplace := FirstPlace.of_isLeast fun i => @TextMethod.search_eq_some_iff s args t i
    refine ⟨_, _, callStep_read hm rfl, callStep_read hk rfl, hplace, fun _ => ?_, nofun⟩
    rw [hplace.strictEquals_minusOne]
    exact Text.isSome_iff_of_isLeast fun i => TextMethod.search_eq_some_iff
  · have hplace := FirstPlace.of_isLeast fun i => @ArrayMethod.indexOf_eq_some_iff s args a i
    have hanywhere := @any_sameValue_iff s a _ (hnumber ⟨a, rfl⟩)
    refine ⟨_, _, callStep_read hm rfl, callStep_read hk rfl, hplace, nofun,
      fun _ => ⟨hanywhere, ?_⟩⟩
    rw [hanywhere, hplace.strictEquals_minusOne]
    constructor
    · exact fun h => h.mp
    · exact fun h => ⟨h, fun ⟨i, _, hi⟩ => ⟨i, hi⟩⟩

/-- A value that occurs before the start only. -/
theorem includes_before_start :
    let a : Value := .array 0
    let s : Store := ⟨#[#[.number 1.0, .number 2.0]], #[], #[], #[⟨a, .indexOf⟩, ⟨a, .includes⟩], #[]⟩
    let args : List Value := [.number 1.0, .number 1.0]
    argument args 0 ≠ .number Decimal.nan ∧ s.searchStart a (argument args 1) = 1 ∧
      ((within 0).callStep ⟨[], 0, 0⟩ (.method 0) args).Gives s (.number (-1.0)) s ∧
      ((within 0).callStep ⟨[], 0, 0⟩ (.method 1) args).Gives s (.boolean true) s := by
  intro a s args
  have hnumber : argument args 0 ≠ .number Decimal.nan :=
    Value.strictEquals_self_iff.mp (by decide +kernel)
  have hstart : s.searchStart a (argument args 1) = 1 := by decide +kernel
  have hnone : ∀ i, 1 ≤ i → ¬ s.OccursAt a (argument args 0) i := by
    rintro i hi ⟨element, helement, heq⟩
    obtain ⟨hlt, rfl⟩ := Array.getElem?_eq_some_iff.mp helement
    obtain rfl : i = 1 := Nat.le_antisymm (Nat.le_of_lt_succ hlt) hi
    have hne : (Value.number 2.0).strictEquals (.number 1.0) = false := by decide +kernel
    exact Bool.false_ne_true (hne.symm.trans heq)
  obtain ⟨position, included, hindexOf, hincludes, hplace, -, harray⟩ :=
    @includes_agrees_unless_before_start (within 0) ⟨[], 0, 0⟩ s 0 1 args a
      (.inr ⟨0, rfl⟩) rfl rfl fun _ => hnumber
  refine ⟨hnumber, hstart, ?_, ?_⟩
  · cases hplace with
    | missing => exact hindexOf
    | found h => exact absurd h.1.2 (hnone _ (hstart ▸ h.1.1))
  · rw [((harray ⟨0, rfl⟩).1).mpr ⟨0, .number 1.0, rfl, by decide +kernel⟩] at hincludes
    exact hincludes

end Evaluator

end Microtemplate.Script
