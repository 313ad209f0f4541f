import Microtemplate.Proofs.Script.Mirroring
import Microtemplate.Proofs.Script.PairedEvaluation
import Microtemplate.Proofs.Script.Resolution
import Microtemplate.Proofs.Script.SparingCode

/-!
Data with one more field. Of two runs with the same data one has a field more in them, under a name that
no code in the scope of the data has. The arrays and objects in its value stand between those of the
other data, so the two runs have their values at different addresses. The data themselves are no value
that code comes by: it comes by their fields through names alone. So the two runs do the same.
-/

namespace Microtemplate.Script

open Renamable (rename)

/-- Addresses from a first one on are so many further on. -/
def shift (first more a : Nat) : Nat := if a < first then a else a + more

theorem shift_of_lt {first a : Nat} (h : a < first) (more : Nat) : shift first more a = a := if_pos h

theorem shift_of_le {first a : Nat} (h : first ≤ a) (more : Nat) : shift first more a = a + more :=
  if_neg (Nat.not_lt.mpr h)

theorem le_shift {first more a : Nat} (h : first ≤ shift first more a) :
    first + more ≤ shift first more a := by
  unfold shift at h ⊢
  split at h <;> split <;> omega

theorem shift_injective (first more : Nat) : (shift first more).Injective := by
  intro a b h
  unfold shift at h
  split at h <;> split at h <;> omega

/-- A field that one of two runs has more in its data. -/
structure Extra where
  field : String
  /-- The name under which the program has its data. -/
  parameter : String
  /-- Where the data stand in the run without the field. -/
  data : Address
  /-- Where the arrays of the field stand. -/
  arrays : Address
  moreArrays : Nat
  /-- Where the objects of the field stand. -/
  objects : Address
  moreObjects : Nat

namespace Extra

variable (e : Extra)

/-- What comes after the arrays and objects of the field is further on, and the data are hidden. -/
def places : Renaming where
  arrays := shift e.arrays e.moreArrays
  objects := shift e.objects e.moreObjects
  hidden := (· = e.data)
  arrays_injective := shift_injective _ _
  objects_injective := shift_injective _ _

/-- What two stores have come to have in common stays so when the arrays and objects of the field are
added to one of them. -/
theorem ahead_grown {s u : Store} (h : e.places.Mirrors s s) (hgrown : s.Grown u)
    (harrays : s.arrays.size = e.arrays) (hobjects : s.objects.size = e.objects)
    (hmoreArrays : u.arrays.size = e.arrays + e.moreArrays)
    (hmoreObjects : u.objects.size = e.objects + e.moreObjects) :
    e.places.Ahead e.moreArrays e.moreObjects s u where
  mirrors := by
    refine h.grown hgrown (fun a ha => ?_) fun a ha => ?_
    · rw [harrays] at ha
      rw [hmoreArrays]
      exact le_shift ha
    · rw [hobjects] at ha
      rw [hmoreObjects]
      exact le_shift ha
  arrays := by rw [hmoreArrays, harrays]
  objects := by rw [hmoreObjects, hobjects]

/-- What is added before the field is in one place in both stores. -/
theorem spans_before {s t : Store} (harrays : t.arrays.size ≤ e.arrays)
    (hobjects : t.objects.size ≤ e.objects) (hdata : t.objects.size ≤ e.data) :
    e.places.Spans 0 0 s t where
  arrays _ _ hlt := shift_of_lt (Nat.lt_of_lt_of_le hlt harrays) _
  objects _ _ hlt := ⟨shift_of_lt (Nat.lt_of_lt_of_le hlt hobjects) _,
    Nat.ne_of_lt (Nat.lt_of_lt_of_le hlt hdata)⟩

/-- What is added after the field is so many places further on. -/
theorem spans_after {s t : Store} (harrays : e.arrays ≤ s.arrays.size)
    (hobjects : e.objects ≤ s.objects.size) (hdata : t.objects.size ≤ e.data) :
    e.places.Spans e.moreArrays e.moreObjects s t where
  arrays _ hle _ := shift_of_le (Nat.le_trans harrays hle) _
  objects _ hle hlt := ⟨shift_of_le (Nat.le_trans hobjects hle) _,
    Nat.ne_of_lt (Nat.lt_of_lt_of_le hlt hdata)⟩

/-- No frame of a scope makes the fields of the data names. -/
def Outside (s : Store) (scope : Scope) : Prop :=
  ∀ a ∈ scope, ∃ f : Frame, s.frames[a]? = some f ∧ f.kind ≠ .within (.object e.data)

/-- A function may be made with a scope: it does not have the name of the data, and in the scope of the
data not that of the field either. -/
def Closes (s : Store) (scope : Scope) (f : Function) : Prop :=
  f.Spares (· = e.parameter) False ∧ (f.Spares (· = e.field) False ∨ e.Outside s scope)

/-- Code may be run in a scope. -/
def Admits (s : Store) (scope : Scope) (x : Code) : Prop :=
  x.Spares (· = e.parameter) False ∧ (x.Spares (· = e.field) False ∨ e.Outside s scope)

/-- What two stores have in common of the data and of all values besides the field. -/
structure HoldsData (s u : Store) : Prop where
  ahead : e.places.Ahead e.moreArrays e.moreObjects s u
  arrays : e.arrays ≤ s.arrays.size
  objects : e.objects ≤ s.objects.size
  data : e.data < s.objects.size
  fields : ∀ n, n ≠ e.field →
    (u.fields (e.places.objects e.data)).get? n = ((s.fields e.data).get? n).map e.places.value
  visibleFields : ∀ n v, n ≠ e.field → (s.fields e.data).get? n = some v → e.places.Visible v

/-- What the two runs have in common at every moment. -/
structure Holds (s u : Store) : Prop extends e.HoldsData s u where
  frames : u.frames = s.frames.map e.places.frame
  parameter : s.binding? programFrame e.parameter = some ⟨.object e.data, true⟩
  bindings : ∀ a n b, n ≠ e.parameter → s.binding? a n = some b → e.places.Visible b.value
  code : ∀ k ∈ s.functions, e.Closes s k.scope k.code

/-- The two runs: code is run in both that does not look up the field in the data. -/
def pairing : Pairing where
  places := e.places
  Holds := e.Holds
  Goes := Store.Grows
  Admits s c x := e.Admits s c.scope x
  Passes s c x := e.Admits s c.scope x
  AdmitsCall _ := True
  PassesCall _ _ _ := True
  Closes := e.Closes
  Owns _ _ := True
  Free n := n ≠ e.parameter
  Special _ := False
  Fails _ := True

variable {e} {s t u w : Store} {scope : Scope} {n : String} {x : Code}

theorem Outside.later (h : e.Outside s scope) (hgrows : s.Grows t) : e.Outside t scope := by
  intro a ha
  obtain ⟨f, hf, hkind⟩ := h a ha
  obtain ⟨g, hg, hsame, -⟩ := hgrows.frames a f hf
  exact ⟨g, hg, hsame ▸ hkind⟩

theorem Outside.push (h : e.Outside s scope) {kind : FrameKind} (hkind : kind ≠ .within (.object e.data)) :
    e.Outside (s.addFrame kind).2 (s.frames.size :: scope) :=
  List.forall_mem_cons.mpr
    ⟨⟨_, s.getElem?_frame_addFrame kind, hkind⟩, h.later (.addFrame s kind)⟩

theorem Closes.later {f : Function} (h : e.Closes s scope f) (hgrows : s.Grows t) :
    e.Closes t scope f := ⟨h.1, h.2.imp_right (·.later hgrows)⟩

theorem Admits.later (h : e.Admits s scope x) (hgrows : s.Grows t) : e.Admits t scope x :=
  ⟨h.1, h.2.imp_right (·.later hgrows)⟩

theorem Admits.part (h : e.Admits s scope x) {y : Code} (hy : y ∈ x.parts) : e.Admits s scope y :=
  ⟨h.1.part hy, h.2.imp_left (·.part hy)⟩

theorem Admits.closes (h : e.Admits s scope x) {f : Function} (hf : f ∈ x.functions) :
    e.Closes s scope f := ⟨h.1.function hf, h.2.imp_left (·.function hf)⟩

theorem Admits.push (h : e.Admits s scope x) {kind : FrameKind}
    (hkind : kind ≠ .within (.object e.data)) :
    e.Admits (s.addFrame kind).2 (s.frames.size :: scope) x :=
  ⟨h.1, h.2.imp_right (·.push hkind)⟩

/-- Where code looks up a name, it does not come by the data or by the field. -/
theorem Admits.looksUp (h : e.Admits s scope x) (hn : n ∈ x.reads ∨ n ∈ x.probes ∨ n ∈ x.writes) :
    n ≠ e.parameter ∧ (n ≠ e.field ∨ e.Outside s scope) :=
  ⟨h.1.not_of_looksUp hn, h.2.imp_left (·.not_of_looksUp hn)⟩

namespace Holds

variable (h : e.Holds s u)

include h

theorem mirrors : e.places.Mirrors s u := h.ahead.mirrors

theorem ownProperty? {v : Value} (hv : n ≠ e.field ∨ v ≠ .object e.data) :
    u.ownProperty? (e.places.value v) n = (s.ownProperty? v n).map e.places.value := by
  cases v with
  | object a =>
    by_cases ha : a = e.data
    · subst ha
      exact h.fields n (hv.resolve_right fun hne => hne rfl)
    · change (u.fields (e.places.objects a)).get? n = _
      rw [h.mirrors.fields a ha, e.places.get?_fields]
      rfl
  | array a =>
    change (if n = "length" then _ else _) = Option.map _ (if n = "length" then _ else _)
    rw [h.mirrors.elements]
    split
    · rw [Array.size_map]
      rfl
    · cases arrayIndex? n with
      | none => rfl
      | some i => exact Array.getElem?_map
  | _ => rfl

theorem visible_ownProperty? {v x : Value} (hv : n ≠ e.field ∨ v ≠ .object e.data)
    (hx : s.ownProperty? v n = some x) : e.places.Visible x := by
  cases v with
  | object a =>
    by_cases ha : a = e.data
    · subst ha
      exact h.visibleFields n x (hv.resolve_right fun hne => hne rfl) hx
    · exact h.mirrors.visibleFields a ha (n, x) (Fields.mem_of_get? hx)
  | array a =>
    change (if n = "length" then _ else _) = _ at hx
    split at hx
    · cases hx
      exact trivial
    · obtain ⟨i, -, hi⟩ := Option.bind_eq_some_iff.mp hx
      exact h.mirrors.visibleElements a x (Array.mem_of_getElem? hi)
  | _ => cases hx

theorem getElem?_frames (a : Address) : u.frames[a]? = (s.frames[a]?).map e.places.frame := by
  rw [h.frames, Array.getElem?_map]

theorem resolveIn? {a : Address}
    (hn : n ≠ e.field ∨ ∀ f : Frame, s.frames[a]? = some f → f.kind ≠ .within (.object e.data)) :
    u.resolveIn? a n = (s.resolveIn? a n).map e.places.resolved := by
  unfold Store.resolveIn?
  rw [h.getElem?_frames]
  cases hf : s.frames[a]? with
  | none => rfl
  | some f =>
    have hvisible : u.visibleProperty? (e.places.frame f) n =
        (s.visibleProperty? f n).map e.places.resolved := by
      obtain ⟨kind, names⟩ := f
      cases kind with
      | within v =>
        have hv : n ≠ e.field ∨ v ≠ .object e.data :=
          hn.imp_right fun hkind heq => hkind _ hf (heq ▸ rfl)
        change (u.ownProperty? (e.places.value v) n).map _ = ((s.ownProperty? v n).map _).map _
        rw [h.ownProperty? hv, Option.map_map, Option.map_map]
        rfl
      | _ => rfl
    simp only [Option.map_some, hvisible]
    cases s.visibleProperty? f n with
    | some r => rfl
    | none =>
      change ((e.places.bindings f.bindings).get? n).map _ = _
      rw [e.places.get?_bindings, Option.map_map, Option.map_map]
      rfl

theorem resolve? (hn : n ≠ e.field ∨ e.Outside s scope) :
    u.resolve? scope n = (s.resolve? scope n).map e.places.resolved := by
  unfold Store.resolve?
  induction scope with
  | nil => rfl
  | cons a scope ih =>
    have hin := h.resolveIn? (n := n) (a := a) (hn.imp_right fun houtside f hf => by
      obtain ⟨g, hg, hkind⟩ := houtside a List.mem_cons_self
      cases hf.symm.trans hg
      exact hkind)
    rw [List.findSome?_cons, List.findSome?_cons, hin]
    cases s.resolveIn? a n with
    | some r => rfl
    | none => exact ih (hn.imp_right fun houtside b hb => houtside b (List.mem_cons_of_mem _ hb))

theorem visible_resolve? (hparameter : n ≠ e.parameter) (hn : n ≠ e.field ∨ e.Outside s scope)
    {r : Resolved} (hr : s.resolve? scope n = some r) : e.places.Visible r.value := by
  obtain ⟨before, a, after, hscope, hin, -⟩ := Store.resolve?_eq_some_iff.mp hr
  cases r with
  | binding frame b =>
    obtain ⟨rfl, f, hf, -, hb⟩ := Store.resolveIn?_eq_binding_iff.mp hin
    refine h.bindings a n b hparameter ?_
    rw [Store.binding?, hf]
    exact hb
  | property owner x =>
    obtain ⟨f, hf, hkind, hown⟩ := Store.resolveIn?_eq_property_iff.mp hin
    refine h.visible_ownProperty? (hn.imp_right fun houtside heq => ?_) hown
    obtain ⟨g, hg, hne⟩ := houtside a (hscope ▸ List.mem_append_right _ List.mem_cons_self)
    cases hf.symm.trans hg
    exact hne (hkind.trans (congrArg FrameKind.within heq))

/-- In both runs a name of a frame that is not that of the data is set, or nothing is done. -/
theorem modifyFrame (a : Address) {change change' : Fields Binding → Fields Binding}
    (hn : n ≠ e.parameter)
    (hchange : ∀ names, change names = names ∨
      ∃ b : Binding, change names = names.set n b ∧ e.places.Visible b.value)
    (hsame : ∀ names, change' (e.places.bindings names) = e.places.bindings (change names)) :
    e.pairing.Moves s (s.modifyFrame a change) (u.modifyFrame a change') := by
  have hgrows : s.Grows (s.modifyFrame a change) := by
    refine .modifyFrame fun names m hm => ?_
    rcases hchange names with heq | ⟨b, heq, -⟩ <;> rw [heq]
    · exact hm
    · exact Fields.has_set b hm
  have hframes : (u.modifyFrame a change').frames =
      (s.modifyFrame a change).frames.map e.places.frame := by
    refine Array.ext_getElem? fun b => ?_
    rw [Array.getElem?_map, Store.modifyFrame, Store.modifyFrame, Array.getElem?_modify,
      Array.getElem?_modify, h.getElem?_frames]
    split
    · cases s.frames[b]? with
      | none => rfl
      | some f => exact congrArg (fun names => some (Frame.mk _ names)) (hsame f.bindings)
    · rfl
  have hheld : ∀ b m, (s.modifyFrame a change).binding? b m = s.binding? b m ∨
      (m = n ∧ ∃ x : Binding, (s.modifyFrame a change).binding? b m = some x ∧
        e.places.Visible x.value) := by
    intro b m
    by_cases ha : a = b
    · cases hf : s.frames[b]? with
      | none =>
        refine .inl ?_
        rw [Store.binding?, Store.binding?, Store.modifyFrame, Array.getElem?_modify, hf, Option.map_none,
          ite_self]
      | some f =>
        rw [Store.binding?, Store.binding?, Store.getElem?_modifyFrame change hf, if_pos ha, hf,
          Option.bind_some, Option.bind_some]
        rcases hchange f.bindings with heq | ⟨x, heq, hx⟩ <;> rw [heq]
        · exact .inl rfl
        · rw [Fields.get?_set]
          split
          · rename_i hm
            exact .inr ⟨hm, x, rfl, hx⟩
          · exact .inl rfl
    · exact .inl (Store.binding?_modifyFrame_of_ne ha)
  refine ⟨{ h with
    ahead := { h.ahead with mirrors := h.mirrors.aside rfl rfl rfl rfl rfl rfl rfl rfl }
    frames := hframes
    parameter := ?_
    bindings := fun b m x hm hx => ?_
    code := fun k hk => (h.code k hk).later hgrows }, hgrows⟩
  · rcases hheld programFrame e.parameter with heq | ⟨heq, -⟩
    · exact heq.trans h.parameter
    · exact absurd heq hn.symm
  · rcases hheld b m with heq | ⟨-, y, hy, hvisible⟩
    · exact h.bindings b m x hm (heq ▸ hx)
    · cases hy.symm.trans hx
      exact hvisible

theorem declare {b : Binding} (frame : Address) (hn : n ≠ e.parameter)
    (hb : e.places.Visible b.value) :
    e.pairing.Moves s (s.declare frame n b) (u.declare frame n (e.places.binding b)) :=
  h.modifyFrame frame hn (fun _ => .inr ⟨b, rfl, hb⟩) fun names => e.places.set_bindings names n b

theorem declareMissing (frame : Address) (hn : n ≠ e.parameter) :
    e.pairing.Moves s (s.declareMissing frame n ⟨.undefined, true⟩)
      (u.declareMissing frame n ⟨.undefined, true⟩) := by
  refine h.modifyFrame frame hn (fun names => ?_) fun names => ?_
  · split
    · exact .inl rfl
    · exact .inr ⟨_, rfl, trivial⟩
  · have hhas : (e.places.bindings names).has n = names.has n := by
      rw [Fields.has, e.places.get?_bindings, Option.isSome_map, Fields.has]
    rw [hhas]
    split
    · rfl
    · exact e.places.set_bindings names n ⟨.undefined, true⟩

theorem append (frame : Address) (text : String) (hn : n ≠ e.parameter) :
    e.pairing.Moves s (s.append frame n text) (u.append frame n text) := by
  refine h.modifyFrame frame hn (fun names => ?_) fun names => ?_
  · split
    · exact .inr ⟨_, rfl, trivial⟩
    · exact .inr ⟨_, rfl, trivial⟩
  · simp only [e.places.get?_bindings]
    cases names.get? n with
    | none => exact e.places.set_bindings names n ⟨.string text, true⟩
    | some b =>
      have htext : u.text (e.places.value b.value) = s.text b.value := h.mirrors.text b.value
      have hset := e.places.set_bindings names n
        { b with value := .string (s.text b.value ++ text) }
      simp only [Option.map_some, Renaming.binding, htext]
      exact hset

/-- A change of other things than frames and functions in both runs. -/
theorem aside (hgrows : s.Grows t) (hahead : e.places.Ahead e.moreArrays e.moreObjects t w)
    (harrays : s.arrays.size ≤ t.arrays.size) (hobjects : s.objects.size ≤ t.objects.size)
    (hframes : t.frames = s.frames) (hframes' : w.frames = u.frames)
    (hfunctions : t.functions = s.functions)
    (hfields : ∀ n, n ≠ e.field → (w.fields (e.places.objects e.data)).get? n =
      ((t.fields e.data).get? n).map e.places.value)
    (hvisible : ∀ n v, n ≠ e.field → (t.fields e.data).get? n = some v → e.places.Visible v) :
    e.pairing.Moves s t w where
  goes := hgrows
  holds :=
    have hheld : ∀ a n, t.binding? a n = s.binding? a n := fun a n => by
      rw [Store.binding?, Store.binding?, hframes]
    { ahead := hahead
      arrays := Nat.le_trans h.arrays harrays
      objects := Nat.le_trans h.objects hobjects
      data := Nat.lt_of_lt_of_le h.data hobjects
      fields := hfields
      visibleFields := hvisible
      frames := by rw [hframes', hframes, h.frames]
      parameter := (hheld _ _).trans h.parameter
      bindings := fun a n b hn hb => h.bindings a n b hn ((hheld a n).symm.trans hb)
      code := fun k hk => (h.code k (hfunctions ▸ hk)).later hgrows }

theorem addArray {items : Array Value} (hitems : ∀ v ∈ items, e.places.Visible v) :
    e.places.arrays s.arrays.size = u.arrays.size ∧
      e.pairing.Moves s (s.addArray items).2 (u.addArray (items.map e.places.value)).2 := by
  have hnext : e.places.arrays s.arrays.size = s.arrays.size + e.moreArrays := shift_of_le h.arrays _
  refine ⟨hnext.trans h.ahead.arrays.symm, ?_⟩
  exact h.aside (.addArray s items) (h.ahead.addArray hnext hitems) (Store.Grown.addArray s items).arrays
    (Nat.le_refl _) rfl rfl rfl h.fields h.visibleFields

theorem addObject {fields : Fields Value} (hfields : ∀ p ∈ fields, e.places.Visible p.2) :
    ¬ e.places.hidden s.objects.size ∧ e.places.objects s.objects.size = u.objects.size ∧
      e.pairing.Moves s (s.addObject fields).2 (u.addObject (e.places.fields fields)).2 := by
  have hnext : e.places.objects s.objects.size = s.objects.size + e.moreObjects := shift_of_le h.objects _
  have hold : (s.addObject fields).2.fields e.data = s.fields e.data :=
    (Store.Grown.addObject s fields).fields _ h.data
  have hold' : (u.addObject (e.places.fields fields)).2.fields (e.places.objects e.data) =
      u.fields (e.places.objects e.data) :=
    (Store.Grown.addObject u _).fields _ ((h.mirrors.objectsSize e.data).mpr h.data)
  refine ⟨(Nat.ne_of_lt h.data).symm, hnext.trans h.ahead.objects.symm, ?_⟩
  refine h.aside (.addObject s fields) (h.ahead.addObject hnext fun _ => ⟨rfl, hfields⟩) (Nat.le_refl _)
    (Store.Grown.addObject s fields).objects rfl rfl rfl ?_ ?_
  · rw [hold, hold']
    exact h.fields
  · rw [hold]
    exact h.visibleFields

theorem modifyArray (a : Address) {f f' : Array Value → Array Value}
    (hvisible : ∀ items, (∀ v ∈ items, e.places.Visible v) → ∀ v ∈ f items, e.places.Visible v)
    (hf : ∀ items, f' (items.map e.places.value) = (f items).map e.places.value) :
    e.pairing.Moves s (s.modifyArray a f) (u.modifyArray (e.places.arrays a) f') := by
  refine h.aside (.modifyArray s a f) ⟨h.mirrors.modifyArray a hvisible hf, ?_, h.ahead.objects⟩
    (Nat.le_of_eq Array.size_modify.symm) (Nat.le_refl _) rfl rfl rfl h.fields h.visibleFields
  change (u.arrays.modify _ _).size = (s.arrays.modify _ _).size + _
  rw [Array.size_modify, Array.size_modify, h.ahead.arrays]

/-- A field of an object is set in both runs; the object may be the data. -/
theorem setField (a : Address) (name : String) {v : Value} (hv : e.places.Visible v) :
    e.pairing.Moves s (s.modifyObject a (·.set name v))
      (u.modifyObject (e.places.objects a) (·.set name (e.places.value v))) := by
  have hahead : e.places.Ahead e.moreArrays e.moreObjects (s.modifyObject a (·.set name v))
      (u.modifyObject (e.places.objects a) (·.set name (e.places.value v))) := by
    refine ⟨h.mirrors.setField a name hv, h.ahead.arrays, ?_⟩
    change (u.objects.modify _ _).size = (s.objects.modify _ _).size + _
    rw [Array.size_modify, Array.size_modify, h.ahead.objects]
  refine h.aside (.setField s a name v) hahead (Nat.le_refl _) (Nat.le_of_eq Array.size_modify.symm)
    rfl rfl rfl (fun m hm => ?_) fun m x hm hx => ?_
  · simp only [Store.fields_modifyObject, e.places.objects_injective.eq_iff, h.mirrors.objectsSize]
    split
    · rw [Fields.get?_set, Fields.get?_set]
      split
      · rfl
      · exact h.fields m hm
    · exact h.fields m hm
  · rw [Store.fields_modifyObject] at hx
    split at hx
    · rw [Fields.get?_set] at hx
      split at hx
      · cases hx
        exact hv
      · exact h.visibleFields m x hm hx
    · exact h.visibleFields m x hm hx

theorem addMethod {m : BoundMethod} (hm : e.places.Visible m.receiver) :
    e.pairing.Moves s (s.addMethod m).2 (u.addMethod (e.places.method m)).2 :=
  h.aside (.addMethod s m) { h.ahead with mirrors := h.mirrors.addMethod hm } (Nat.le_refl _)
    (Nat.le_refl _) rfl rfl rfl h.fields h.visibleFields

theorem addFunction {f : Function} (hf : e.Closes s scope f) :
    e.pairing.Moves s (s.addFunction ⟨f, scope⟩).2 (u.addFunction ⟨f, scope⟩).2 where
  goes := .addFunction s _
  holds :=
    { h with
      ahead := { h.ahead with mirrors := h.mirrors.addFunction _ }
      code := fun k hk => by
        rcases Array.mem_push.mp hk with hk | rfl
        · exact (h.code k hk).later (.addFunction s _)
        · exact hf.later (.addFunction s _) }

/-- A frame is added in both runs; it may make the data visible. -/
theorem addFrame (kind : FrameKind) :
    u.frames.size = s.frames.size ∧
      e.pairing.Moves s (s.addFrame kind).2 (u.addFrame (e.places.kind kind)).2 := by
  refine ⟨by rw [h.frames, Array.size_map], ?_, .addFrame s kind⟩
  exact { h with
    ahead := { h.ahead with mirrors := h.mirrors.aside rfl rfl rfl rfl rfl rfl rfl rfl }
    frames := by
      change u.frames.push _ = (s.frames.push _).map _
      rw [h.frames, Array.map_push]
      rfl
    parameter := Store.binding?_addFrame kind h.parameter
    bindings := fun a n b hn hb => by
      refine h.bindings a n b hn ?_
      obtain ⟨f, hf, hheld⟩ := Option.bind_eq_some_iff.mp hb
      rw [Store.addFrame, Array.getElem?_push] at hf
      split at hf
      · cases hf
        cases hheld
      · rw [Store.binding?, hf]
        exact hheld
    code := fun k hk => (h.code k hk).later (.addFrame s kind) }

end Holds

theorem pairing_lawful (e : Extra) (houtput : outputName ≠ e.parameter) : e.pairing.Lawful where
  mirrors h := h.mirrors
  refl := .refl
  trans := .trans
  grows := id
  exhausted := trivial
  failed _ := trivial
  admitsLater hgrows h := h.later hgrows
  passesLater hgrows h := h.later hgrows
  ownsLater _ _ := trivial
  admits := id
  part h hy := h.part hy
  call _ := trivial
  closes h hf := h.closes hf
  free h n hn := h.1.not_of_mem_names hn
  freeRound h := by
    rcases h with h | h
    · cases h.1 with
      | loopOf hname _ _ => exact hname
    · cases h.1 with
      | loopIn hname _ _ => exact hname
  targets _ _ _ := .inr trivial
  resolve h hx hn := h.resolve? (hx.looksUp hn).2
  visible h hx hn r hr :=
    h.visible_resolve? (hx.looksUp (.inl hn)).1 (hx.looksUp (.inl hn)).2 (Option.mem_def.mp hr)
  found _ _ _ := trivial
  assign h hx hn _ hv _ _ := h.declare _ (hx.looksUp (.inr (.inr hn))).1 hv
  assignField h _ _ hv _ := h.setField _ _ hv
  special _ _ h _ := h.elim
  declaration _ h hx _ hd hv := by
    refine h.declare _ ?_ hv
    cases hx.1 with
    | declaration _ hnames _ => exact hnames _ hd
  declare _ h _ hn hv := h.declare _ hn hv
  declareMissing h _ hn := h.declareMissing _ hn
  addArray h hitems := h.addArray hitems
  addObject h hfields := h.addObject hfields
  addMethod h hm := h.addMethod hm
  addFunction h hf := h.addFunction hf
  addFrame {s u kind} h hkind := by
    have hne : kind ≠ .within (.object e.data) := by
      rintro rfl
      exact hkind rfl
    obtain ⟨hsize, hmoves⟩ := h.addFrame kind
    exact ⟨hsize, trivial, fun _ _ hx => hx.push hne, hmoves⟩
  modifyArray a h hvisible hf := h.modifyArray a hvisible hf
  setField h hv _ := h.setField _ _ hv
  print text h _ := h.append _ text houtput
  closure h hk := h.code _ (Array.mem_of_getElem? hk)
  enter {s u c a k} h _ hk := by
    obtain ⟨hsize, hmoves⟩ := h.addFrame .function
    refine ⟨hsize, trivial, hmoves, fun t hgrows _ x hx => ?_⟩
    have hcode := h.code k (Array.mem_of_getElem? hk)
    refine Admits.later ?_ hgrows
    refine Admits.push ?_ nofun
    refine ⟨?_, hcode.2.imp_left fun hspares => ?_⟩
    · cases hcode.1 with
      | mk _ _ _ hbody => exact hbody x hx
    · cases hspares with
      | mk _ _ _ hbody => exact hbody x hx

/-- The object of the data is added to both stores, with the field in one of them. -/
theorem holdsData_addObject {fields fields' : Fields Value}
    (h : e.places.Ahead e.moreArrays e.moreObjects s u) (harrays : e.arrays ≤ s.arrays.size)
    (hobjects : e.objects ≤ s.objects.size) (hdata : e.data = s.objects.size)
    (hfields : ∀ n, n ≠ e.field → fields'.get? n = (e.places.fields fields).get? n)
    (hvisible : ∀ p ∈ fields, e.places.Visible p.2) :
    e.places.objects e.data = u.objects.size ∧
      e.HoldsData (s.addObject fields).2 (u.addObject fields').2 := by
  have hnext : e.places.objects s.objects.size = s.objects.size + e.moreObjects :=
    shift_of_le hobjects _
  have hplace : e.places.objects e.data = u.objects.size := by rw [hdata, hnext, h.objects]
  have hheld : (s.addObject fields).2.fields e.data = fields := by
    rw [hdata]
    exact fields_addObject s fields
  have hheld' : (u.addObject fields').2.fields (e.places.objects e.data) = fields' := by
    rw [hplace]
    exact fields_addObject u fields'
  refine ⟨hplace, h.addObject hnext fun hshown => absurd hdata.symm hshown, harrays, ?_, ?_, ?_, ?_⟩
  · exact Nat.le_trans hobjects (Store.Grown.addObject s fields).objects
  · simp [Store.addObject, hdata]
  · intro n hn
    rw [hheld, hheld', hfields n hn, e.places.get?_fields]
  · intro n x _ hx
    rw [hheld] at hx
    exact hvisible (n, x) (Fields.mem_of_get? hx)

/-- JSON data are put into the store of a program with and without a field. -/
theorem exists_holdsData (parameter : String) (before after : List (String × Json)) (name : String)
    (v : Json) : ∃ (e : Extra) (s u : Store), e.field = name ∧ e.parameter = parameter ∧
      initialStore.addJson (.object (before ++ after)) = (.object e.data, s) ∧
      initialStore.addJson (.object (before ++ (name, v) :: after)) =
        (.object (e.places.objects e.data), u) ∧
      initialStore.Grown s ∧ initialStore.Grown u ∧ initialStore.objects.size ≤ e.objects ∧
      e.objects ≤ e.data ∧ e.HoldsData s u := by
  let first := (Store.addJsonFields before initialStore).2
  let more := (first.addJson v).2
  let last := (Store.addJsonFields after first).2
  have hfirst : initialStore.Grown first := (addJsonFields_shows before initialStore).1
  have hmore : first.Grown more := (addJson_shows v first).1
  have hlast : first.Grown last := (addJsonFields_shows after first).1
  have hlast' : more.Grown (Store.addJsonFields after more).2 := (addJsonFields_shows after more).1
  let e : Extra :=
    { field := name
      parameter := parameter
      data := last.objects.size
      arrays := first.arrays.size
      moreArrays := more.arrays.size - first.arrays.size
      objects := first.objects.size
      moreObjects := more.objects.size - first.objects.size }
  have hfixed : ∀ a, a < initialStore.objects.size → e.places.objects a = a := fun a ha =>
    shift_of_lt (Nat.lt_of_lt_of_le ha hfirst.objects) _
  -- up to the field both runs have the same store, then one has more, and then both have the rest
  have hsame : e.places.Ahead 0 0 initialStore initialStore :=
    ⟨.initialStore (hfixed 0 (by decide)) (hfixed 1 (by decide)), rfl, rfl⟩
  obtain ⟨hbefore, hvisible, hreached⟩ := hsame.addJsonFields before
    (e.spans_before (Nat.le_refl _) (Nat.le_refl _) hlast.objects)
  have hahead : e.places.Ahead e.moreArrays e.moreObjects first more :=
    e.ahead_grown hreached.mirrors hmore rfl rfl (Nat.add_sub_of_le hmore.arrays).symm
      (Nat.add_sub_of_le hmore.objects).symm
  obtain ⟨hafter, hvisible', hrest⟩ := hahead.addJsonFields after
    (e.spans_after (Nat.le_refl _) (Nat.le_refl _) (Nat.le_refl _))
  have hmap := (congrArg₂ List.append hbefore hafter).trans List.map_append.symm
  obtain ⟨hplace, hholds⟩ := holdsData_addObject hrest hlast.arrays hlast.objects rfl
    (fun n hn => (Fields.get?_append_cons hn (first.addJson v).1).trans (congrArg (Fields.get? · n) hmap))
    (List.forall_mem_append.mpr ⟨hvisible, hvisible'⟩)
  refine ⟨e, _, _, rfl, rfl, ?_, ?_, (hfirst.trans hlast).trans (.addObject _ _),
    ((hfirst.trans hmore).trans hlast').trans (.addObject _ _), hfirst.objects, hlast.objects, hholds⟩
  · rw [Store.addJson, addJsonFields_append]
    rfl
  · rw [Store.addJson, addJsonFields_append, hplace]
    rfl

end Extra

end Microtemplate.Script
