import Mathlib.Data.List.Chain
import Mathlib.Logic.Relation
import Microtemplate.Proofs.Script.Running

/-!
The text of an array depends on what it holds and on nothing else. An array inside itself is written as
nothing, and so is one below a thousand others, so that writing ends in every store. Where no array is
inside itself and not more than a thousand are inside each other, the text is that of the tree which the
array unfolds to: an array that is held in several places is written in full in each of them.
-/

namespace Microtemplate.Script

namespace Store

/-- An array has another one among its elements. -/
def Nests (s : Store) (outer inner : Address) : Prop := Value.array inner ∈ s.elements outer

/-- Arrays of which each is an element of the next one, out to the array `root`. -/
structure Nest (s : Store) (root : Address) (chain : List Address) : Prop where
  nests : chain.IsChain fun inner outer => s.Nests outer inner
  last : chain.getLast? = some root

/-- No array inside an array is inside itself, and not too many are inside each other. -/
structure Shallow (s : Store) (root : Address) : Prop where
  acyclic : ∀ a, Relation.ReflTransGen s.Nests root a → ¬ Relation.TransGen s.Nests a a
  depth : ∀ chain, s.Nest root chain → chain.Nodup → chain.length ≤ textDepth

/-- Writing a value inside the arrays that are being written ends with a text. An array that is being
written contributes nothing, and neither does one that is too deep. -/
inductive Converts (s : Store) : List Address → Value → String → Prop
  | plain {writing : List Address} {v : Value} : (∀ a, v ≠ .array a) →
      Converts s writing v (s.plainText v)
  | inside {writing : List Address} {a : Address} : a ∈ writing → Converts s writing (.array a) ""
  | deep {writing : List Address} {a : Address} : textDepth ≤ writing.length →
      Converts s writing (.array a) ""
  | array {writing : List Address} {a : Address} {text : Value → String} : a ∉ writing →
      writing.length < textDepth →
      (∀ v ∈ s.elements a, v.isNullish = false → Converts s (a :: writing) v (text v)) →
      Converts s writing (.array a) (joinWith text "," (s.elements a).toList)

/-- The text of the tree that a value unfolds to: an array is written wherever it is held. -/
inductive JoinsPlainly (s : Store) : Value → String → Prop
  | plain {v : Value} : (∀ a, v ≠ .array a) → JoinsPlainly s v (s.plainText v)
  | array {a : Address} {text : Value → String} :
      (∀ v ∈ s.elements a, v.isNullish = false → JoinsPlainly s v (text v)) →
      JoinsPlainly s (.array a) (joinWith text "," (s.elements a).toList)

variable {s : Store} {root a b : Address} {writing : List Address} {levels : Nat} {v : Value}

theorem joinWith_congr {text other : Value → String} {items : List Value} (separator : String)
    (h : ∀ v ∈ items, v.isNullish = false → text v = other v) :
    joinWith text separator items = joinWith other separator items := by
  refine congrArg separator.intercalate (List.map_congr_left fun v hv => ?_)
  cases hnull : v.isNullish with
  | true => rfl
  | false => exact h v hv hnull

theorem joinWith_empty (text : Value → String) (items : List Value) :
    joinWith text "" items =
      String.join (items.map fun v => if v.isNullish then "" else text v) := by
  rw [joinWith]
  generalize items.map (fun v => if v.isNullish then "" else text v) = texts
  refine String.toList_injective ?_
  rw [String.toList_intercalate, String.toList_join]
  induction texts with
  | nil => rfl
  | cons first texts ih =>
    cases texts with
    | nil => simp
    | cons second texts => simp_all

theorem textWithin_inside (h : a ∈ writing) : s.textWithin levels writing (.array a) = "" := by
  cases levels with
  | zero => rfl
  | succ levels => rw [textWithin, if_pos h]

theorem textWithin_array (h : a ∉ writing) : s.textWithin (levels + 1) writing (.array a) =
    joinWith (s.textWithin levels (a :: writing)) "," (s.elements a).toList := by
  rw [textWithin, if_neg h]

theorem textWithin_plain (h : ∀ a, v ≠ .array a) : s.textWithin levels writing v = s.plainText v := by
  cases v with
  | array a => exact absurd rfl (h a)
  | _ => cases levels <;> rfl

theorem text_array (s : Store) (a : Address) : s.text (.array a) = s.joinArray a "," :=
  textWithin_array List.not_mem_nil

/-- Writing ends with the text that is computed if all levels that are left may still be used. -/
theorem converts_textWithin (h : levels + writing.length = textDepth) :
    s.Converts writing v (s.textWithin levels writing v) := by
  induction levels generalizing writing v with
  | zero =>
    cases v with
    | array a => exact .deep (by omega)
    | _ => exact .plain nofun
  | succ levels ih =>
    cases v with
    | array a =>
      by_cases ha : a ∈ writing
      · rw [textWithin_inside ha]
        exact .inside ha
      · rw [textWithin_array ha]
        exact .array ha (by omega) fun v _ _ => ih (by rw [List.length_cons]; omega)
    | _ => exact .plain nofun

namespace Nest

theorem single (s : Store) (root : Address) : s.Nest root [root] := ⟨.singleton root, rfl⟩

theorem cons (h : s.Nest root (a :: writing)) (hb : s.Nests a b) : s.Nest root (b :: a :: writing) :=
  ⟨.cons_cons hb h.nests, h.last⟩

/-- Every array of a nest is inside the outermost one, and the innermost one is inside it. -/
theorem reaches (h : s.Nest root (a :: writing)) (hb : b ∈ a :: writing) :
    Relation.ReflTransGen s.Nests root b ∧ Relation.ReflTransGen s.Nests b a := by
  induction writing generalizing a b with
  | nil =>
    obtain rfl := List.mem_singleton.mp hb
    cases h.last
    exact ⟨.refl, .refl⟩
  | cons c writing ih =>
    obtain ⟨hnests, hrest⟩ := List.isChain_cons_cons.mp h.nests
    have hinner : s.Nest root (c :: writing) := ⟨hrest, h.last⟩
    rcases List.mem_cons.mp hb with rfl | hb
    · exact ⟨(ih hinner List.mem_cons_self).1.tail hnests, .refl⟩
    · obtain ⟨hroot, hc⟩ := ih hinner hb
      exact ⟨hroot, hc.tail hnests⟩

end Nest

namespace Shallow

variable (hs : s.Shallow root)

include hs

/-- An element of the innermost array of a nest is none of its arrays. -/
theorem not_mem (h : s.Nest root (a :: writing)) (hb : s.Nests a b) : b ∉ a :: writing := by
  intro hmem
  obtain ⟨hroot, hback⟩ := h.reaches hmem
  exact hs.acyclic b hroot (.tail' hback hb)

/-- The elements of an array are written plainly inside all nests. -/
theorem joinsPlainly_textWithin (h : s.Nest root (a :: writing)) (hnodup : (a :: writing).Nodup)
    (hdepth : levels + (a :: writing).length = textDepth) (hv : v ∈ s.elements a) :
    s.JoinsPlainly v (s.textWithin levels (a :: writing) v) := by
  induction levels generalizing a writing v with
  | zero =>
    cases v with
    | array b =>
      have hlength := hs.depth _ (h.cons hv) (List.nodup_cons.mpr ⟨hs.not_mem h hv, hnodup⟩)
      rw [List.length_cons] at hlength
      omega
    | _ => exact .plain nofun
  | succ levels ih =>
    cases v with
    | array b =>
      have hnew := hs.not_mem h hv
      have hnodup' := List.nodup_cons.mpr ⟨hnew, hnodup⟩
      rw [textWithin_array hnew]
      exact .array fun w hw _ => ih (h.cons hv) hnodup' (by rw [List.length_cons]; omega) hw
    | _ => exact .plain nofun

end Shallow

/-- Writing an array ends in every store, and an array that is being written contributes nothing to its own
text. In a shallow array the text is that of the tree which the array unfolds to, with the separator
between the elements of the array itself and commas further inside. -/
theorem array_text_from_contents (s : Store) (a : Address) (separator : String) :
    (s.Converts [] (.array a) (s.text (.array a)) ∧
      (∃ text : Value → String,
        (∀ v ∈ s.elements a, v.isNullish = false → s.Converts [a] v (text v)) ∧
        s.joinArray a separator = joinWith text separator (s.elements a).toList) ∧
      ∀ (call : Caller) (args : List Value),
        (ArrayMethod.run call a .toString args).Gives s (.string (s.text (.array a))) s) ∧
    (s.Shallow a → s.JoinsPlainly (.array a) (s.text (.array a)) ∧
      ∃ text : Value → String,
        (∀ v ∈ s.elements a, v.isNullish = false → s.JoinsPlainly v (text v)) ∧
        s.joinArray a separator = joinWith text separator (s.elements a).toList) := by
  have hdepth : textDepth - 1 + [a].length = textDepth := rfl
  refine ⟨⟨converts_textWithin rfl, ⟨_, fun v _ _ => converts_textWithin hdepth, rfl⟩,
    fun call args => ?_⟩, fun hs => ?_⟩
  · rw [text_array]
    exact .read _
  · have hplain : ∀ v ∈ s.elements a, v.isNullish = false →
        s.JoinsPlainly v (s.textWithin (textDepth - 1) [a] v) := fun v hv _ =>
      hs.joinsPlainly_textWithin (.single s a) (List.pairwise_singleton _ a) hdepth hv
    exact ⟨text_array s a ▸ .array hplain, _, hplain, rfl⟩

/-- An array that is held twice is written twice. -/
theorem array_text_from_contents_shared :
    let s : Store := ⟨#[#[.array 1, .null, .array 1], #[.string "x", .string "y"]], #[], #[], #[], #[]⟩
    s.Shallow 0 ∧ s.JoinsPlainly (.array 0) (s.text (.array 0)) ∧
      s.text (.array 0) = "x,y,,x,y" ∧ s.joinArray 0 ";" = "x,y;;x,y" := by
  intro s
  have hnests : ∀ {a b}, s.Nests a b → a = 0 ∧ b = 1 := by
    intro a b h
    match a with
    | 0 => simpa [Nests, elements, s] using h
    | 1 => simp [Nests, elements, s] at h
    | a + 2 => simp [Nests, elements, s] at h
  have hshallow : s.Shallow 0 := by
    refine ⟨fun a _ hcycle => ?_, fun chain hchain _ => ?_⟩
    · obtain ⟨b, hb, -⟩ := Relation.TransGen.head'_iff.mp hcycle
      obtain ⟨c, -, hc⟩ := Relation.TransGen.tail'_iff.mp hcycle
      exact absurd ((hnests hb).1.symm.trans (hnests hc).2) (by decide)
    · match chain with
      | [] => exact Nat.zero_le _
      | [_] => exact Nat.le_of_ble_eq_true rfl
      | [_, _] => exact Nat.le_of_ble_eq_true rfl
      | a :: b :: c :: rest =>
        obtain ⟨hab, hrest⟩ := List.isChain_cons_cons.mp hchain.nests
        have hbc := (List.isChain_cons_cons.mp hrest).1
        exact absurd ((hnests hab).1.symm.trans (hnests hbc).2) (by decide)
  exact ⟨hshallow, ((array_text_from_contents s 0 ";").2 hshallow).1, by decide +kernel,
    by decide +kernel⟩

end Store

end Microtemplate.Script
