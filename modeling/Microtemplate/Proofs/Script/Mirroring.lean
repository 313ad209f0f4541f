import Microtemplate.Proofs.Script.Growth
import Microtemplate.Proofs.Script.JsonText
import Microtemplate.Proofs.Script.Renaming

/-!
Changes that two stores go through together. If a store holds the same as another one at renamed
addresses, it does so after the same addition or change in both. So JSON data can be put into both,
also where one of them has had more containers put into it before.
-/

namespace Microtemplate.Script

namespace Renaming

variable (r : Renaming)

/-- A name of a frame of the other store. -/
def binding (b : Binding) : Binding := ⟨r.value b.value, b.assignable⟩

/-- The names of a frame of the other store. -/
def bindings (names : Fields Binding) : Fields Binding := names.map fun p => (p.1, r.binding p.2)

/-- A frame of the other store. -/
def frame (f : Frame) : Frame := ⟨r.kind f.kind, r.bindings f.bindings⟩

theorem get?_bindings (names : Fields Binding) (name : String) :
    (r.bindings names).get? name = (names.get? name).map r.binding :=
  Fields.get?_mapped r.binding names name

theorem set_bindings (names : Fields Binding) (name : String) (b : Binding) :
    (r.bindings names).set name (r.binding b) = r.bindings (names.set name b) :=
  Fields.set_mapped r.binding names name b

namespace Mirrors

variable {r} {s u t w : Store} (h : r.Mirrors s u)

include h

/-- Nothing but frames and names has changed. -/
theorem aside (harrays : t.arrays = s.arrays) (hobjects : t.objects = s.objects)
    (hfunctions : t.functions = s.functions) (hmethods : t.methods = s.methods)
    (harrays' : w.arrays = u.arrays) (hobjects' : w.objects = u.objects)
    (hfunctions' : w.functions = u.functions) (hmethods' : w.methods = u.methods) : r.Mirrors t w := by
  obtain ⟨arrays, objects, functions, methods, frames⟩ := t
  obtain ⟨arrays', objects', functions', methods', frames'⟩ := w
  obtain rfl : arrays = s.arrays := harrays
  obtain rfl : objects = s.objects := hobjects
  obtain rfl : functions = s.functions := hfunctions
  obtain rfl : methods = s.methods := hmethods
  obtain rfl : arrays' = u.arrays := harrays'
  obtain rfl : objects' = u.objects := hobjects'
  obtain rfl : functions' = u.functions := hfunctions'
  obtain rfl : methods' = u.methods := hmethods'
  exact ⟨h.elements, h.fields, h.visibleElements, h.visibleFields, h.arraysSize, h.objectsSize,
    h.functions, h.methods, h.visibleMethods⟩

theorem addFunction (k : Closure) : r.Mirrors (s.addFunction k).2 (u.addFunction k).2 :=
  { h with functions := congrArg (·.push k) h.functions }

theorem addMethod {m : BoundMethod} (hm : r.Visible m.receiver) :
    r.Mirrors (s.addMethod m).2 (u.addMethod (r.method m)).2 :=
  { h with
    methods := by
      change u.methods.push (r.method m) = (s.methods.push m).map r.method
      rw [h.methods, Array.map_push]
    visibleMethods := fun m' hm' => by
      rcases Array.mem_push.mp hm' with hm' | rfl
      · exact h.visibleMethods m' hm'
      · exact hm }

omit h in
theorem elements_push (s : Store) (items : Array Value) (a : Address) :
    (s.addArray items).2.elements a = if a = s.arrays.size then items else s.elements a := by
  simp only [Store.elements, Store.addArray, Array.getElem?_push]
  split <;> rfl

omit h in
theorem fields_push (s : Store) (fields : Fields Value) (a : Address) :
    (s.addObject fields).2.fields a = if a = s.objects.size then fields else s.fields a := by
  simp only [Store.fields, Store.addObject, Array.getElem?_push]
  split <;> rfl

/-- An array is added to both stores where it is expected. -/
theorem addArray {items : Array Value} (hnext : r.arrays s.arrays.size = u.arrays.size)
    (hitems : ∀ v ∈ items, r.Visible v) :
    r.Mirrors (s.addArray items).2 (u.addArray (items.map r.value)).2 := by
  have hnew : ∀ a, r.arrays a = u.arrays.size ↔ a = s.arrays.size := by
    intro a
    rw [← hnext, r.arrays_injective.eq_iff]
  refine { h with elements := fun a => ?_, visibleElements := fun a v hv => ?_, arraysSize := fun a => ?_ }
  · simp only [elements_push, hnew]
    split
    · rfl
    · exact h.elements a
  · rw [elements_push] at hv
    split at hv
    · exact hitems v hv
    · exact h.visibleElements a v hv
  · change r.arrays a < (u.arrays.push _).size ↔ a < (s.arrays.push _).size
    rw [Array.size_push, Array.size_push, Nat.lt_succ_iff_lt_or_eq, Nat.lt_succ_iff_lt_or_eq, hnew,
      h.arraysSize]

/-- An object is added to both stores where it is expected. If it is hidden, its fields need not be the
same. -/
theorem addObject {fields fields' : Fields Value} (hnext : r.objects s.objects.size = u.objects.size)
    (hfields : ¬ r.hidden s.objects.size → fields' = r.fields fields ∧ ∀ p ∈ fields, r.Visible p.2) :
    r.Mirrors (s.addObject fields).2 (u.addObject fields').2 := by
  have hnew : ∀ a, r.objects a = u.objects.size ↔ a = s.objects.size := by
    intro a
    rw [← hnext, r.objects_injective.eq_iff]
  refine { h with fields := fun a ha => ?_, visibleFields := fun a ha p hp => ?_, objectsSize := fun a => ?_ }
  · simp only [fields_push, hnew]
    split
    · rename_i heq
      exact (hfields (heq ▸ ha)).1
    · exact h.fields a ha
  · rw [fields_push] at hp
    split at hp
    · rename_i heq
      exact (hfields (heq ▸ ha)).2 p hp
    · exact h.visibleFields a ha p hp
  · change r.objects a < (u.objects.push _).size ↔ a < (s.objects.push _).size
    rw [Array.size_push, Array.size_push, Nat.lt_succ_iff_lt_or_eq, Nat.lt_succ_iff_lt_or_eq, hnew,
      h.objectsSize]

theorem modifyArray (a : Address) {f f' : Array Value → Array Value}
    (hvisible : ∀ items, (∀ v ∈ items, r.Visible v) → ∀ v ∈ f items, r.Visible v)
    (hf : ∀ items, f' (items.map r.value) = (f items).map r.value) :
    r.Mirrors (s.modifyArray a f) (u.modifyArray (r.arrays a) f') := by
  refine { h with elements := fun b => ?_, visibleElements := fun b v hv => ?_, arraysSize := fun b => ?_ }
  · simp only [Store.elements_modifyArray, r.arrays_injective.eq_iff, h.arraysSize, h.elements]
    split
    · exact hf _
    · rfl
  · rw [Store.elements_modifyArray] at hv
    split at hv
    · exact hvisible _ (h.visibleElements b) v hv
    · exact h.visibleElements b v hv
  · change r.arrays b < (u.arrays.modify _ _).size ↔ b < (s.arrays.modify _ _).size
    rw [Array.size_modify, Array.size_modify, h.arraysSize]

theorem setField (a : Address) (name : String) {v : Value} (hv : r.Visible v) :
    r.Mirrors (s.modifyObject a (·.set name v))
      (u.modifyObject (r.objects a) (·.set name (r.value v))) := by
  refine { h with fields := fun b hb => ?_, visibleFields := fun b hb p hp => ?_, objectsSize := fun b => ?_ }
  · simp only [Store.fields_modifyObject, r.objects_injective.eq_iff, h.objectsSize, h.fields b hb]
    split
    · exact r.set_fields _ name v
    · rfl
  · rw [Store.fields_modifyObject] at hp
    split at hp
    · exact Fields.forall_set (h.visibleFields b hb) hv p hp
    · exact h.visibleFields b hb p hp
  · change r.objects b < (u.objects.modify _ _).size ↔ b < (s.objects.modify _ _).size
    rw [Array.size_modify, Array.size_modify, h.objectsSize]

/-- Additions to the second store alone leave what it has in common with the first one, if they stand
where nothing of the first one is found. -/
theorem grown (hgrown : u.Grown w) (harrays : ∀ a, u.arrays.size ≤ r.arrays a → w.arrays.size ≤ r.arrays a)
    (hobjects : ∀ a, u.objects.size ≤ r.objects a → w.objects.size ≤ r.objects a) : r.Mirrors s w where
  elements a := by
    rw [← h.elements a]
    rcases Nat.lt_or_ge (r.arrays a) u.arrays.size with hlt | hle
    · exact hgrown.elements _ hlt
    · rw [Store.elements, Store.elements, Array.getElem?_eq_none hle,
        Array.getElem?_eq_none (harrays a hle)]
  fields a ha := by
    rw [← h.fields a ha]
    rcases Nat.lt_or_ge (r.objects a) u.objects.size with hlt | hle
    · exact hgrown.fields _ hlt
    · rw [Store.fields, Store.fields, Array.getElem?_eq_none hle,
        Array.getElem?_eq_none (hobjects a hle)]
  visibleElements := h.visibleElements
  visibleFields := h.visibleFields
  arraysSize a := by
    rw [← h.arraysSize a]
    refine ⟨fun hlt => Nat.lt_of_not_le fun hle => ?_, fun hlt => Nat.lt_of_lt_of_le hlt hgrown.arrays⟩
    exact Nat.not_lt.mpr (harrays a hle) hlt
  objectsSize a := by
    rw [← h.objectsSize a]
    refine ⟨fun hlt => Nat.lt_of_not_le fun hle => ?_, fun hlt => Nat.lt_of_lt_of_le hlt hgrown.objects⟩
    exact Nat.not_lt.mpr (hobjects a hle) hlt
  functions := hgrown.functions.trans h.functions
  methods := hgrown.methods.trans h.methods
  visibleMethods := h.visibleMethods

omit h in
/-- What a store starts with is the same in both stores if it stands in the same places. -/
theorem initialStore (hfirst : r.objects 0 = 0) (hsecond : r.objects 1 = 1) :
    r.Mirrors initialStore initialStore := by
  have hempty : r.Mirrors .empty .empty :=
    { elements := fun _ => Array.map_empty.symm
      fields := fun _ _ => rfl
      visibleElements := fun _ _ hv => absurd hv (Array.not_mem_empty _)
      visibleFields := fun _ _ _ hp => absurd hp List.not_mem_nil
      arraysSize := fun a => iff_of_false (Nat.not_lt_zero _) (Nat.not_lt_zero a)
      objectsSize := fun a => iff_of_false (Nat.not_lt_zero _) (Nat.not_lt_zero a)
      functions := rfl
      methods := Array.map_empty.symm
      visibleMethods := fun _ hm => absurd hm (Array.not_mem_empty _) }
  let helpers : Store := (Store.empty.addObject [("escape", .builtin .escape), ("each", .builtin .each)]).2
  have hhelpers : r.Mirrors helpers helpers := hempty.addObject hfirst fun _ =>
    ⟨rfl, List.forall_mem_cons.mpr ⟨trivial, List.forall_mem_singleton.mpr trivial⟩⟩
  let json : Store := (helpers.addObject [("stringify", .builtin .stringify)]).2
  have hjson : r.Mirrors json json := hhelpers.addObject hsecond fun _ =>
    ⟨rfl, List.forall_mem_singleton.mpr trivial⟩
  exact hjson.aside rfl rfl rfl rfl rfl rfl rfl rfl

end Mirrors

variable (n m : Nat)

/-- A store holds the same as another one, which has so many more arrays and objects. -/
structure Ahead (s u : Store) : Prop where
  mirrors : r.Mirrors s u
  arrays : u.arrays.size = s.arrays.size + n
  objects : u.objects.size = s.objects.size + m

/-- The containers that one store has more than another one are found so far on, and none of them is
hidden. -/
structure Spans (s t : Store) : Prop where
  arrays : ∀ a, s.arrays.size ≤ a → a < t.arrays.size → r.arrays a = a + n
  objects : ∀ a, s.objects.size ≤ a → a < t.objects.size → r.objects a = a + m ∧ ¬ r.hidden a

section Data

variable {r n m} {s t u : Store}

theorem Spans.before (h : r.Spans n m s u) (hgrown : t.Grown u) : r.Spans n m s t where
  arrays a hle hlt := h.arrays a hle (Nat.lt_of_lt_of_le hlt hgrown.arrays)
  objects a hle hlt := h.objects a hle (Nat.lt_of_lt_of_le hlt hgrown.objects)

theorem Spans.after (h : r.Spans n m s u) (hgrown : s.Grown t) : r.Spans n m t u where
  arrays a hle := h.arrays a (Nat.le_trans hgrown.arrays hle)
  objects a hle := h.objects a (Nat.le_trans hgrown.objects hle)

theorem Ahead.addArray {items : Array Value} (h : r.Ahead n m s u)
    (hnext : r.arrays s.arrays.size = s.arrays.size + n) (hitems : ∀ v ∈ items, r.Visible v) :
    r.Ahead n m (s.addArray items).2 (u.addArray (items.map r.value)).2 where
  mirrors := h.mirrors.addArray (hnext.trans h.arrays.symm) hitems
  arrays := by
    change (u.arrays.push _).size = (s.arrays.push _).size + n
    rw [Array.size_push, Array.size_push, h.arrays, Nat.add_right_comm]
  objects := h.objects

theorem Ahead.addObject {fields fields' : Fields Value} (h : r.Ahead n m s u)
    (hnext : r.objects s.objects.size = s.objects.size + m)
    (hfields : ¬ r.hidden s.objects.size → fields' = r.fields fields ∧ ∀ p ∈ fields, r.Visible p.2) :
    r.Ahead n m (s.addObject fields).2 (u.addObject fields').2 where
  mirrors := h.mirrors.addObject (hnext.trans h.objects.symm) hfields
  arrays := h.arrays
  objects := by
    change (u.objects.push _).size = (s.objects.push _).size + m
    rw [Array.size_push, Array.size_push, h.objects, Nat.add_right_comm]

mutual

/-- JSON data that is put into both stores becomes the same value in both. -/
theorem Ahead.addJson : ∀ (j : Json) {s u : Store}, r.Ahead n m s u → r.Spans n m s (s.addJson j).2 →
    (u.addJson j).1 = r.value (s.addJson j).1 ∧ r.Visible (s.addJson j).1 ∧
      r.Ahead n m (s.addJson j).2 (u.addJson j).2
  | .null, _, _, h, _ | .boolean _, _, _, h, _ | .number _, _, _, h, _ | .string _, _, _, h, _ =>
    ⟨rfl, trivial, h⟩
  | .array items, s, u, h, hspans => by
    let values := (Store.addJsonItems items s).1
    let t := (Store.addJsonItems items s).2
    have hgrown : t.Grown (t.addArray values.toArray).2 := .addArray _ _
    have hnew : t.arrays.size < (t.addArray values.toArray).2.arrays.size := by simp [Store.addArray]
    obtain ⟨heq, hvisible, hahead⟩ := Ahead.addJsonItems items h (hspans.before hgrown)
    have hnext := hspans.arrays t.arrays.size (addJsonItems_shows items s).1.arrays hnew
    have hitems : ∀ v ∈ values.toArray, r.Visible v := fun v hv => hvisible v (List.mem_toArray.mp hv)
    have hadded := hahead.addArray hnext hitems
    rw [List.map_toArray, ← heq] at hadded
    exact ⟨congrArg Value.array (hahead.arrays.trans hnext.symm), trivial, hadded⟩
  | .object fields, s, u, h, hspans => by
    let values := (Store.addJsonFields fields s).1
    let t := (Store.addJsonFields fields s).2
    have hgrown : t.Grown (t.addObject values).2 := .addObject _ _
    have hnew : t.objects.size < (t.addObject values).2.objects.size := by simp [Store.addObject]
    obtain ⟨heq, hvisible, hahead⟩ := Ahead.addJsonFields fields h (hspans.before hgrown)
    obtain ⟨hnext, hshown⟩ := hspans.objects t.objects.size (addJsonFields_shows fields s).1.objects hnew
    exact ⟨congrArg Value.object (hahead.objects.trans hnext.symm), hshown,
      hahead.addObject hnext fun _ => ⟨heq, hvisible⟩⟩

theorem Ahead.addJsonItems : ∀ (items : List Json) {s u : Store}, r.Ahead n m s u →
    r.Spans n m s (Store.addJsonItems items s).2 →
    (Store.addJsonItems items u).1 = (Store.addJsonItems items s).1.map r.value ∧
      (∀ v ∈ (Store.addJsonItems items s).1, r.Visible v) ∧
      r.Ahead n m (Store.addJsonItems items s).2 (Store.addJsonItems items u).2
  | [], _, _, h, _ => ⟨rfl, nofun, h⟩
  | j :: rest, s, u, h, hspans => by
    have hmore := (addJsonItems_shows rest (s.addJson j).2).1
    obtain ⟨hfirst, hvisible, hahead⟩ := Ahead.addJson j h (hspans.before hmore)
    obtain ⟨hrest, hvisible', hahead'⟩ :=
      Ahead.addJsonItems rest hahead (hspans.after (addJson_shows j s).1)
    exact ⟨congrArg₂ List.cons hfirst hrest, List.forall_mem_cons.mpr ⟨hvisible, hvisible'⟩, hahead'⟩

theorem Ahead.addJsonFields : ∀ (fields : List (String × Json)) {s u : Store}, r.Ahead n m s u →
    r.Spans n m s (Store.addJsonFields fields s).2 →
    (Store.addJsonFields fields u).1 = r.fields (Store.addJsonFields fields s).1 ∧
      (∀ p ∈ (Store.addJsonFields fields s).1, r.Visible p.2) ∧
      r.Ahead n m (Store.addJsonFields fields s).2 (Store.addJsonFields fields u).2
  | [], _, _, h, _ => ⟨rfl, nofun, h⟩
  | (name, j) :: rest, s, u, h, hspans => by
    have hmore := (addJsonFields_shows rest (s.addJson j).2).1
    obtain ⟨hfirst, hvisible, hahead⟩ := Ahead.addJson j h (hspans.before hmore)
    obtain ⟨hrest, hvisible', hahead'⟩ :=
      Ahead.addJsonFields rest hahead (hspans.after (addJson_shows j s).1)
    exact ⟨congrArg₂ List.cons (congrArg (Prod.mk name) hfirst) hrest,
      List.forall_mem_cons.mpr ⟨hvisible, hvisible'⟩, hahead'⟩

end

end Data

end Renaming

end Microtemplate.Script
