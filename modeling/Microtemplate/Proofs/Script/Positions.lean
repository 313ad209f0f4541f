import Microtemplate.Proofs.Script.JsonText
import Microtemplate.Proofs.Script.LastingText
import Microtemplate.Proofs.Script.Searching

/-!
Positions in texts and arrays. Whatever value is given as a position, it is resolved to one that is not
outside: what the methods look at is there, and cutting at a position loses nothing and doubles nothing.
-/

namespace Microtemplate.Script

/-- The values that have positions: texts and arrays. -/
def Value.HasPositions : Value → Prop
  | .string _ | .array _ => True
  | _ => False

/-- The methods that take a position or give one and leave the store alone. -/
def Value.lookups : Value → List Method
  | .string _ => [.startsWith, .endsWith, .charAt, .indexOf, .includes]
  | .array _ => [.indexOf, .includes]
  | _ => []

namespace Store

/-- What stands at the positions: the characters of a text, each as a text, or the elements of an array. -/
def items (s : Store) : Value → List Value
  | .string t => t.toList.map fun c => .string c.toString
  | .array a => (s.elements a).toList
  | _ => []

/-- The position at which a slice begins. -/
def sliceStart (s : Store) (receiver : Value) (args : List Value) : Nat :=
  s.relativePosition (s.items receiver).length 0 (argument args 0)

/-- The position before which a slice ends. -/
def sliceStop (s : Store) (receiver : Value) (args : List Value) : Nat :=
  s.relativePosition (s.items receiver).length (s.items receiver).length (argument args 1)

/-- What a method answers that looks something up. A text is cut at a position of its own, and what is
sought is compared with one of the parts; a character is given if it is there; a search gives a place
that is there, and not before the start. -/
inductive Answers (s : Store) (args : List Value) : Value → Method → Value → Prop
  | startsWith {text : String} {before after : List Char} {b : Bool} : text.toList = before ++ after →
      before.length = s.clampedPosition text.toList.length 0 (argument args 1) →
      (b = true ↔ (s.text (argument args 0)).toList <+: after) →
      Answers s args (.string text) .startsWith (.boolean b)
  | endsWith {text : String} {before after : List Char} {b : Bool} : text.toList = before ++ after →
      before.length = s.clampedPosition text.toList.length text.toList.length (argument args 1) →
      (b = true ↔ (s.text (argument args 0)).toList <:+ before) →
      Answers s args (.string text) .endsWith (.boolean b)
  | charAt {text : String} {i : Nat} {c : Char} : s.whole (argument args 0) = .int i →
      text.toList[i]? = some c → Answers s args (.string text) .charAt (.string c.toString)
  | charAtOutside {text : String} :
      (∀ i : Nat, i < text.toList.length → s.whole (argument args 0) ≠ .int i) →
      Answers s args (.string text) .charAt (.string "")
  | indexOf {receiver place : Value} :
      FirstPlace {i | s.searchStart receiver (argument args 1) ≤ i ∧
        s.OccursAt receiver (argument args 0) i} place →
      Answers s args receiver .indexOf place
  | includes {text : String} {b : Bool} :
      (b = true ↔ ∃ i, s.searchStart (.string text) (argument args 1) ≤ i ∧
        s.OccursAt (.string text) (argument args 0) i) →
      Answers s args (.string text) .includes (.boolean b)
  | includesElement {a : Address} {b : Bool} :
      (b = true ↔ ∃ (i : Nat) (v : Value), (s.elements a)[i]? = some v ∧
        v.sameValue (argument args 0) = true) →
      Answers s args (.array a) .includes (.boolean b)

variable {s t : Store} {receiver v : Value} {args : List Value} {m : Method}

theorem sliceStop_le (s : Store) (receiver : Value) (args : List Value) :
    s.sliceStop receiver args ≤ (s.items receiver).length := relativePosition_le (Nat.le_refl _)

namespace StaysIn

variable (h : s.StaysIn t)

include h

theorem items (hv : s.Knows v) : t.items v = s.items v := by
  cases v with
  | array a => rw [Store.items, Store.items, h.elements hv]
  | _ => rfl

theorem relativePosition (hs : s.HoldsKnown) (hv : s.Knows v) (length default : Nat) :
    t.relativePosition length default v = s.relativePosition length default v := by
  have hnumber : t.number v = s.number v := by
    have htext := h.text hs hv
    cases v with
    | array | object => exact congrArg numberOfText htext
    | _ => rfl
  rw [Store.relativePosition, Store.relativePosition, Store.whole, Store.whole, hnumber]

end StaysIn

/-- The items from one position up to another, all of which are there. -/
theorem map_some_drop_take {α : Type} {xs : List α} {stop : Nat} (h : stop ≤ xs.length) (start : Nat) :
    ((xs.take stop).drop start).map some = (List.range' start (stop - start)).map (xs[·]?) := by
  refine List.ext_getElem? fun i => ?_
  rw [List.getElem?_map, List.getElem?_map, List.getElem?_drop, List.getElem?_take]
  by_cases hi : i < stop - start
  · have hlt : start + i < xs.length := by omega
    rw [if_pos (by omega), List.getElem?_range' hi, List.getElem?_eq_getElem hlt]
    simp [hlt]
  · rw [if_neg (by omega), List.getElem?_eq_none (by rw [List.length_range']; omega)]
    rfl

/-- A slice has the items from its start on up to its stop. -/
theorem slice_gives (hreceiver : receiver.HasPositions) (s : Store) (call : Caller)
    (args : List Value) : ∃ r t, (BoundMethod.run call ⟨receiver, .slice⟩ args).Gives s r t ∧
      s.StaysIn t ∧ t.Knows r ∧ r.typeName = receiver.typeName ∧
      t.items r = ((s.items receiver).take (s.sliceStop receiver args)).drop
        (s.sliceStart receiver args) := by
  cases receiver with
  | string text =>
    refine ⟨_, s, .read _, .refl s, trivial, rfl, ?_⟩
    simp only [items, sliceStart, sliceStop, TextMethod.slice, String.toList_ofList, List.map_drop,
      List.map_take, List.length_map]
  | array a =>
    refine ⟨_, _, .bind (.read _) (.add _), .addArray s _, ?_, rfl, ?_⟩
    · simp [Knows, addArray]
    · rw [show items _ (s.addArray _).1 = _ from congrArg Array.toList (elements_addArray s _),
        ArrayMethod.slice, Array.toList_extract, List.extract_eq_take_drop, List.drop_take]
      rfl
  | _ => exact hreceiver.elim

/-- A character is given if the first argument is the number of its position. -/
theorem answers_charAt (s : Store) (text : String) (args : List Value) :
    s.Answers args (.string text) .charAt
      (.string (String.ofList (TextMethod.charAt s text.toList args))) := by
  have houtside : (∀ i : Nat, i < text.toList.length → s.whole (argument args 0) ≠ .int i) →
      TextMethod.charAt s text.toList args = [] → s.Answers args (.string text) .charAt
        (.string (String.ofList (TextMethod.charAt s text.toList args))) := by
    intro hnone hempty
    rw [hempty]
    exact .charAtOutside hnone
  cases hwhole : s.whole (argument args 0) with
  | below | above =>
    refine houtside (fun _ _ => by rw [hwhole]; exact Decimal.Whole.noConfusion) ?_
    rw [TextMethod.charAt, hwhole]
  | int i =>
    rcases Int.lt_or_le i 0 with hneg | hpos
    · refine houtside (fun j _ heq => ?_) (by rw [TextMethod.charAt, hwhole]; exact if_pos hneg)
      cases hwhole.symm.trans heq
      omega
    · obtain ⟨j, rfl⟩ := Int.eq_ofNat_of_zero_le hpos
      have hcharAt : TextMethod.charAt s text.toList args = text.toList[j]?.toList := by
        rw [TextMethod.charAt, hwhole]
        exact if_neg (Int.not_lt.mpr hpos)
      cases hc : text.toList[j]? with
      | none =>
        refine houtside (fun k hk heq => ?_) (by rw [hcharAt, hc]; rfl)
        cases hwhole.symm.trans heq
        exact absurd hk (Nat.not_lt.mpr (List.getElem?_eq_none_iff.mp hc))
      | some c =>
        rw [hcharAt, hc]
        exact .charAt hwhole hc

/-- Every method that looks something up gives an answer and leaves the store as it is. -/
theorem exists_answer (hm : m ∈ receiver.lookups) (s : Store) (call : Caller) (args : List Value) :
    ∃ answer, (BoundMethod.run call ⟨receiver, m⟩ args).Gives s answer s ∧
      s.Answers args receiver m answer := by
  cases receiver with
  | string text =>
    have hcut : ∀ default, default ≤ text.toList.length →
        (text.toList.take (TextMethod.position s args text.toList.length default)).length =
          s.clampedPosition text.toList.length default (argument args 1) := fun default hdefault =>
      (List.length_take ..).trans (Nat.min_eq_left (clampedPosition_le hdefault))
    simp only [Value.lookups, List.mem_cons, List.not_mem_nil, or_false] at hm
    obtain rfl | rfl | rfl | rfl | rfl := hm
    · exact ⟨_, .read _, .startsWith (List.take_append_drop ..).symm (hcut 0 (Nat.zero_le _))
        List.isPrefixOf_iff_prefix⟩
    · exact ⟨_, .read _, .endsWith (List.take_append_drop ..).symm (hcut _ (Nat.le_refl _))
        List.isSuffixOf_iff_suffix⟩
    · exact ⟨_, .read _, answers_charAt s text args⟩
    · exact ⟨_, .read _, .indexOf (.of_isLeast fun _ => TextMethod.search_eq_some_iff)⟩
    · exact ⟨_, .read _, .includes (Text.isSome_iff_of_isLeast fun _ => TextMethod.search_eq_some_iff)⟩
  | array a =>
    simp only [Value.lookups, List.mem_cons, List.not_mem_nil, or_false] at hm
    obtain rfl | rfl := hm
    · exact ⟨_, .read _, .indexOf (.of_isLeast fun _ => ArrayMethod.indexOf_eq_some_iff)⟩
    · refine ⟨_, .read _, .includesElement ?_⟩
      rw [Array.any_eq_true]
      constructor
      · rintro ⟨i, hi, hsame⟩
        exact ⟨i, _, Array.getElem?_eq_getElem hi, hsame⟩
      · rintro ⟨i, v, hv, hsame⟩
        obtain ⟨hi, rfl⟩ := Array.getElem?_eq_some_iff.mp hv
        exact ⟨i, hi, hsame⟩
  | _ => exact absurd hm List.not_mem_nil

/-- What is before a position and what is from it on are the whole, also in two stores in which the
receiver and the position are the same. -/
theorem append_slices (hdefined : v ≠ .undefined) (hitems : t.items receiver = s.items receiver)
    (hposition : ∀ length default, t.relativePosition length default v =
      s.relativePosition length default v) :
    ((s.items receiver).take (s.sliceStop receiver [.number 0.0, v])).drop
        (s.sliceStart receiver [.number 0.0, v]) ++
      ((t.items receiver).take (t.sliceStop receiver [v])).drop (t.sliceStart receiver [v]) =
      s.items receiver := by
  let n := (s.items receiver).length
  have hzero : s.sliceStart receiver [.number 0.0, v] = 0 := by
    have hwhole : s.whole (.number 0.0) = .int 0 :=
      show Decimal.Whole.ofFloat 0.0 = .int 0 by decide +kernel
    change s.relativePosition n 0 (.number 0.0) = 0
    rw [relativePosition, if_neg Value.noConfusion, hwhole]
    exact Nat.zero_min n
  have hstop : s.sliceStop receiver [.number 0.0, v] = s.relativePosition n n v := rfl
  have hstart : t.sliceStart receiver [v] = s.relativePosition n n v := by
    change t.relativePosition (t.items receiver).length 0 v = _
    rw [hitems, hposition, relativePosition, if_neg hdefined, relativePosition, if_neg hdefined]
  have hend : t.sliceStop receiver [v] = n := by
    change t.relativePosition (t.items receiver).length (t.items receiver).length .undefined = n
    rw [hitems]
    exact if_pos rfl
  rw [hitems, hzero, hstop, hstart, hend, List.drop_zero, List.take_length, List.take_append_drop]

/-- The second slice may be taken after the first one, from a store that has grown in between. -/
theorem slices_gives (hreceiver : receiver.HasPositions) (hs : s.HoldsKnown) (hknown : s.Knows receiver)
    (hv : s.Knows v) (hdefined : v ≠ .undefined) (call : Caller) : ∃ first t,
      (BoundMethod.run call ⟨receiver, .slice⟩ [.number 0.0, v]).Gives s first t ∧
      ∀ t', t.StaysIn t' → ∃ second u,
        (BoundMethod.run call ⟨receiver, .slice⟩ [v]).Gives t' second u ∧
        u.items first ++ u.items second = s.items receiver := by
  obtain ⟨first, t, hfirst, hst, hknownFirst, -, hitems⟩ := slice_gives hreceiver s call [.number 0.0, v]
  refine ⟨first, t, hfirst, fun t' ht' => ?_⟩
  obtain ⟨second, u, hsecond, htu, -, -, hmore⟩ := slice_gives hreceiver t' call [v]
  refine ⟨second, u, hsecond, ?_⟩
  have hst' := hst.trans ht'
  rw [(ht'.trans htu).items hknownFirst, hitems, hmore]
  exact append_slices hdefined (hst'.items hknown) (hst'.relativePosition hs hv)

/-- A position that a value is resolved to is not outside, if the default is not. A slice of a text or an
array is one of the same kind with the items at all positions from its start on up to its stop, each of
which is there, and is empty if there are none. The other methods always answer, and they look at
positions that are there only. The slice up to a position that is not left open and the slice from it on
are the whole together, whether both are taken from one store or the second one after the first. -/
theorem positions_inside (s : Store) (call : Caller) :
    (∀ (length default : Nat) (v : Value), default ≤ length →
      s.relativePosition length default v ≤ length ∧ s.clampedPosition length default v ≤ length) ∧
    (∀ (receiver : Value) (args : List Value), receiver.HasPositions → ∃ slice t,
      (BoundMethod.run call ⟨receiver, .slice⟩ args).Gives s slice t ∧ s.StaysIn t ∧
      slice.typeName = receiver.typeName ∧
      (t.items slice).map some = (List.range' (s.sliceStart receiver args)
        (s.sliceStop receiver args - s.sliceStart receiver args)).map ((s.items receiver)[·]?)) ∧
    (∀ (receiver : Value) (args : List Value), ∀ m ∈ receiver.lookups, ∃ answer,
      (BoundMethod.run call ⟨receiver, m⟩ args).Gives s answer s ∧ s.Answers args receiver m answer) ∧
    (∀ receiver v : Value, receiver.HasPositions → v ≠ .undefined → ∃ first t second u,
      (BoundMethod.run call ⟨receiver, .slice⟩ [.number 0.0, v]).Gives s first t ∧
      (BoundMethod.run call ⟨receiver, .slice⟩ [v]).Gives s second u ∧
      t.items first ++ u.items second = s.items receiver) ∧
    (∀ receiver v : Value, receiver.HasPositions → v ≠ .undefined → s.HoldsKnown →
      s.Knows receiver → s.Knows v → ∃ first t,
        (BoundMethod.run call ⟨receiver, .slice⟩ [.number 0.0, v]).Gives s first t ∧
        ∀ t', t.StaysIn t' → ∃ second u,
          (BoundMethod.run call ⟨receiver, .slice⟩ [v]).Gives t' second u ∧
          u.items first ++ u.items second = s.items receiver) := by
  refine ⟨fun length default v h => ⟨relativePosition_le h, clampedPosition_le h⟩,
    fun receiver args hreceiver => ?_, fun receiver args m hm => exists_answer hm s call args,
    fun receiver v hreceiver hdefined => ?_, fun receiver v hreceiver hdefined hs hknown hv =>
      slices_gives hreceiver hs hknown hv hdefined call⟩
  · obtain ⟨slice, t, hgives, hst, -, htype, hitems⟩ := slice_gives hreceiver s call args
    exact ⟨slice, t, hgives, hst, htype, hitems ▸ map_some_drop_take (sliceStop_le s receiver args) _⟩
  · obtain ⟨first, t, hfirst, -, -, -, hitems⟩ := slice_gives hreceiver s call [.number 0.0, v]
    obtain ⟨second, u, hsecond, -, -, -, hmore⟩ := slice_gives hreceiver s call [v]
    refine ⟨first, t, second, u, hfirst, hsecond, ?_⟩
    rw [hitems, hmore]
    exact append_slices hdefined rfl fun _ _ => rfl

/-- An array that holds itself, cut at the position that the text of another array spells: two from
its end. -/
theorem positions_inside_nested :
    let s : Store := ⟨#[#[.number 1.0, .array 0, .null], #[.string "-2"]], #[], #[], #[], #[]⟩
    let call : Caller := fun _ _ => pure .undefined
    (s.relativePosition 3 3 (.array 1) ≤ 3 ∧ s.clampedPosition 3 3 (.array 1) ≤ 3) ∧
    (∃ slice t, (BoundMethod.run call ⟨.array 0, .slice⟩ [.array 1]).Gives s slice t ∧ s.StaysIn t ∧
      slice.typeName = "object" ∧ (t.items slice).map some = [some (.array 0), some .null]) ∧
    (∃ answer, (BoundMethod.run call ⟨.array 0, .indexOf⟩ [.null, .array 1]).Gives s answer s ∧
      s.Answers [.null, .array 1] (.array 0) .indexOf answer) ∧
    (∃ first t second u,
      (BoundMethod.run call ⟨.array 0, .slice⟩ [.number 0.0, .array 1]).Gives s first t ∧
      (BoundMethod.run call ⟨.array 0, .slice⟩ [.array 1]).Gives s second u ∧
      t.items first ++ u.items second = [.number 1.0, .array 0, .null]) ∧
    ∃ first t, (BoundMethod.run call ⟨.array 0, .slice⟩ [.number 0.0, .array 1]).Gives s first t ∧
      ∀ t', t.StaysIn t' → ∃ second u,
        (BoundMethod.run call ⟨.array 0, .slice⟩ [.array 1]).Gives t' second u ∧
        u.items first ++ u.items second = [.number 1.0, .array 0, .null] := by
  intro s call
  obtain ⟨hpositions, hslice, hanswer, hwhole, hlater⟩ := positions_inside s call
  have hknown : s.HoldsKnown := by
    intro a v hv
    match a with
    | 0 =>
      have hv' : v = .number 1.0 ∨ v = .array 0 ∨ v = .null := by simpa [elements, s] using hv
      obtain rfl | rfl | rfl := hv'
      · trivial
      · exact Nat.zero_lt_two
      · trivial
    | 1 =>
      obtain rfl : v = .string "-2" := by simpa [elements, s] using hv
      trivial
    | a + 2 => simp [elements, s] at hv
  refine ⟨hpositions 3 3 (.array 1) (Nat.le_refl 3), ?_, hanswer (.array 0) _ .indexOf (.head _),
    hwhole (.array 0) (.array 1) trivial Value.noConfusion,
    hlater (.array 0) (.array 1) trivial Value.noConfusion hknown Nat.zero_lt_two Nat.one_lt_two⟩
  have hstart : s.sliceStart (.array 0) [.array 1] = 1 := by decide +kernel
  have hstop : s.sliceStop (.array 0) [.array 1] = 3 := rfl
  have hitems := hslice (.array 0) [.array 1] trivial
  rw [hstart, hstop] at hitems
  exact hitems

end Store

end Microtemplate.Script
