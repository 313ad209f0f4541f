import Microtemplate.Proofs.Script.ArrayText
import Microtemplate.Proofs.Script.Growth

/-!
Texts that stay the same. What is added to a store changes no text of a value that was there before,
and a text does not depend on how many levels of arrays may still be written if fewer are inside each
other.
-/

namespace Microtemplate.Script

namespace Store

/-- There is in a store what a value stands for. -/
def Knows (s : Store) : Value → Prop
  | .array a => a < s.arrays.size
  | .object a => a < s.objects.size
  | .function a => a < s.functions.size
  | .method a => a < s.methods.size
  | _ => True

/-- All that arrays hold is in the store. -/
def HoldsKnown (s : Store) : Prop := ∀ a, ∀ v ∈ s.elements a, s.Knows v

/-- Everything that has an address in a store has it in another one, and is the same there. -/
structure StaysIn (s t : Store) : Prop where
  arrays : ∀ (a : Address) (x : Array Value), s.arrays[a]? = some x → t.arrays[a]? = some x
  objects : ∀ (a : Address) (x : Fields Value), s.objects[a]? = some x → t.objects[a]? = some x
  functions : ∀ (a : Address) (x : Closure), s.functions[a]? = some x → t.functions[a]? = some x
  methods : ∀ (a : Address) (x : BoundMethod), s.methods[a]? = some x → t.methods[a]? = some x
  frames : ∀ (a : Address) (x : Frame), s.frames[a]? = some x → t.frames[a]? = some x

/-- No more than so many different arrays are inside each other in a value. -/
def NestsUpTo (s : Store) (levels : Nat) (v : Value) : Prop :=
  ∀ a, v = .array a → ∀ chain, s.Nest a chain → chain.Nodup → chain.length ≤ levels

variable {s t u : Store} {v : Value} {a : Address} {n : String} {levels : Nat} {writing : List Address}

namespace StaysIn

theorem refl (s : Store) : s.StaysIn s :=
  ⟨fun _ _ => id, fun _ _ => id, fun _ _ => id, fun _ _ => id, fun _ _ => id⟩

theorem trans (h : s.StaysIn t) (h' : t.StaysIn u) : s.StaysIn u where
  arrays a x hx := h'.arrays a x (h.arrays a x hx)
  objects a x hx := h'.objects a x (h.objects a x hx)
  functions a x hx := h'.functions a x (h.functions a x hx)
  methods a x hx := h'.methods a x (h.methods a x hx)
  frames a x hx := h'.frames a x (h.frames a x hx)

/-- What is put after everything else takes no place that was taken. -/
theorem getElem?_push {α : Type} {xs : Array α} {x : α} (y : α) (h : xs[a]? = some x) :
    (xs.push y)[a]? = some x := by
  have hlt : a < xs.size := (Array.getElem?_eq_some_iff.mp h).1
  rw [Array.getElem?_push, if_neg (Nat.ne_of_lt hlt), h]

theorem addArray (s : Store) (items : Array Value) : s.StaysIn (s.addArray items).2 :=
  { refl s with arrays := fun _ _ => getElem?_push items }

theorem addMethod (s : Store) (m : BoundMethod) : s.StaysIn (s.addMethod m).2 :=
  { refl s with methods := fun _ _ => getElem?_push m }

theorem addFrame (s : Store) (kind : FrameKind) : s.StaysIn (s.addFrame kind).2 :=
  { refl s with frames := fun _ _ => getElem?_push _ }

/-- A declaration in a new frame leaves the old ones. -/
theorem declare_new (h : s.StaysIn t) (ha : s.frames.size ≤ a) (b : Binding) :
    s.StaysIn (t.declare a n b) :=
  { h with
    frames := fun c f hf => by
      have hlt : c < s.frames.size := (Array.getElem?_eq_some_iff.mp hf).1
      have hne : ¬ a = c := fun heq => Nat.lt_irrefl c (Nat.lt_of_lt_of_le hlt (heq ▸ ha))
      rw [show (t.declare a n b).frames[c]? = _ from getElem?_modifyFrame _ (h.frames c f hf), if_neg hne] }

/-- The same declaration in both stores. -/
theorem declare (h : s.StaysIn t) (a : Address) (n : String) (b : Binding) :
    (s.declare a n b).StaysIn (t.declare a n b) :=
  { h with
    frames := fun c f hf => by
      have hlt : c < s.frames.size := by
        have hlt' := (Array.getElem?_eq_some_iff.mp hf).1
        simpa [Store.declare, Store.modifyFrame] using hlt'
      have hold := Array.getElem?_eq_getElem hlt
      have hsame := getElem?_modifyFrame (a := a) (·.set n b) hold
      rw [show (s.declare a n b).frames[c]? = _ from hsame] at hf
      rw [← hf]
      exact getElem?_modifyFrame _ (h.frames c _ hold) }

variable (h : s.StaysIn t)

include h

theorem elements (ha : a < s.arrays.size) : t.elements a = s.elements a := by
  have hold := Array.getElem?_eq_getElem ha
  rw [Store.elements, Store.elements, h.arrays a _ hold, hold]

theorem plainText (hv : s.Knows v) : t.plainText v = s.plainText v := by
  cases v with
  | function a =>
    have hold := Array.getElem?_eq_getElem (show a < s.functions.size from hv)
    rw [Store.plainText, Store.plainText, h.functions a _ hold, hold]
  | method a =>
    have hold := Array.getElem?_eq_getElem (show a < s.methods.size from hv)
    rw [Store.plainText, Store.plainText, h.methods a _ hold, hold]
  | _ => rfl

/-- Writing a value that was there before comes to nothing that is new, so it makes no difference
whether new arrays are being written. -/
theorem textWithin (hs : s.HoldsKnown) (hv : s.Knows v) {outer : List Address}
    (houter : ∀ b ∈ outer, s.arrays.size ≤ b) :
    t.textWithin levels (writing ++ outer) v = s.textWithin levels writing v := by
  induction levels generalizing writing v with
  | zero =>
    cases v with
    | array a => rfl
    | _ => exact h.plainText hv
  | succ levels ih =>
    cases v with
    | array a =>
      have hmem : a ∈ writing ++ outer ↔ a ∈ writing := by
        refine List.mem_append.trans (or_iff_left fun hb => ?_)
        exact Nat.lt_irrefl a (Nat.lt_of_lt_of_le hv (houter a hb))
      by_cases ha : a ∈ writing
      · rw [textWithin_inside ha, textWithin_inside (hmem.mpr ha)]
      · rw [textWithin_array ha, textWithin_array (mt hmem.mp ha), h.elements hv,
          ← List.cons_append]
        exact joinWith_congr "," fun w hw _ => ih (hs a w (Array.mem_toList_iff.mp hw))
    | _ => exact h.plainText hv

theorem text (hs : s.HoldsKnown) (hv : s.Knows v) : t.text v = s.text v := by
  have hsame := @textWithin s t v textDepth [] h hs hv [] nofun
  exact hsame

end StaysIn

/-- If no more arrays are inside each other than may still be written, one more level makes no
difference. -/
theorem textWithin_succ {root : Address} (hnodup : writing.Nodup)
    (hdepth : ∀ chain, s.Nest root chain → chain.Nodup → chain.length ≤ levels + writing.length)
    (hv : ∀ a, v = .array a → a ∉ writing → s.Nest root (a :: writing)) :
    s.textWithin (levels + 1) writing v = s.textWithin levels writing v := by
  induction levels generalizing writing v with
  | zero =>
    cases v with
    | array a =>
      by_cases ha : a ∈ writing
      · rw [textWithin_inside ha, textWithin_inside ha]
      · have hlength := hdepth _ (hv a rfl ha) (List.nodup_cons.mpr ⟨ha, hnodup⟩)
        rw [List.length_cons] at hlength
        omega
    | _ => rfl
  | succ levels ih =>
    cases v with
    | array a =>
      by_cases ha : a ∈ writing
      · rw [textWithin_inside ha, textWithin_inside ha]
      · rw [textWithin_array ha, textWithin_array ha]
        refine joinWith_congr "," fun w hw _ => ih (List.nodup_cons.mpr ⟨ha, hnodup⟩) ?_ ?_
        · intro chain hchain hchainNodup
          have hlength := hdepth chain hchain hchainNodup
          rw [List.length_cons]
          omega
        · rintro b rfl -
          exact (hv a rfl ha).cons (Array.mem_toList_iff.mp hw)
    | _ => rfl

/-- The text of a value in which at least one level of arrays is left over. -/
theorem NestsUpTo.text (h : s.NestsUpTo levels v) (hlevels : levels + 1 = textDepth) :
    s.text v = s.textWithin levels [] v := by
  cases v with
  | array a =>
    rw [Store.text, ← hlevels]
    refine textWithin_succ List.nodup_nil (h a rfl) ?_
    rintro b ⟨⟩ -
    exact .single s a
  | _ =>
    rw [Store.text, textWithin_plain fun _ => Value.noConfusion, textWithin_plain fun _ => Value.noConfusion]

end Store

end Microtemplate.Script
