import Microtemplate.Proofs.Script.Running

/-!
How a store grows along a run. Nothing that has an address goes away: frames keep their kinds and
their names, objects keep the names of their fields, and functions stay as they are. So what is
declared once is found from then on.
-/

namespace Microtemplate

theorem Fields.has_set {α : Type} {fields : Fields α} {name other : String} (value : α)
    (h : fields.has other = true) : (fields.set name value).has other = true := by
  rw [Fields.has, Fields.get?_set]
  split
  · rfl
  · exact h

/-- What holds of all fields and of a new value holds of all fields after it is set. -/
theorem Fields.forall_set {α : Type} {motive : α → Prop} {fields : Fields α} {name : String} {value : α}
    (h : ∀ p ∈ fields, motive p.2) (hvalue : motive value) :
    ∀ p ∈ fields.set name value, motive p.2 := by
  induction fields with
  | nil => exact List.forall_mem_singleton.mpr hvalue
  | cons p fields ih =>
    obtain ⟨hp, hfields⟩ := List.forall_mem_cons.mp h
    unfold Fields.set
    split
    · exact List.forall_mem_cons.mpr ⟨hvalue, hfields⟩
    · exact List.forall_mem_cons.mpr ⟨hp, ih hfields⟩

namespace Script

namespace Store

/-- A store that another one has come from: frames keep their kinds and names, objects keep their
names, and functions stay as they are. -/
structure Grows (s t : Store) : Prop where
  frames : ∀ (a : Address) (f : Frame), s.frames[a]? = some f →
    ∃ g : Frame, t.frames[a]? = some g ∧ g.kind = f.kind ∧
      ∀ n, f.bindings.has n = true → g.bindings.has n = true
  fields : ∀ (a : Address) (n : String), (s.fields a).has n = true → (t.fields a).has n = true
  functions : ∀ (a : Address) (f : Closure), s.functions[a]? = some f → t.functions[a]? = some f

/-- A frame has a name. -/
def Declares (s : Store) (a : Address) (name : String) : Prop :=
  ∃ f : Frame, s.frames[a]? = some f ∧ f.bindings.has name = true

theorem getElem?_modifyFrame {s : Store} {a b : Address} {f : Frame}
    (change : Fields Binding → Fields Binding) (hf : s.frames[b]? = some f) :
    (s.modifyFrame a change).frames[b]? =
      some (if a = b then { f with bindings := change f.bindings } else f) := by
  change (s.frames.modify a _)[b]? = _
  rw [Array.getElem?_modify, hf]
  split <;> rfl

theorem getElem?_addFrame {s : Store} {a : Address} {f : Frame} (kind : FrameKind)
    (hf : s.frames[a]? = some f) : (s.addFrame kind).2.frames[a]? = some f := by
  have hlt : a < s.frames.size := (Array.getElem?_eq_some_iff.mp hf).1
  simp only [addFrame, Array.getElem?_push, if_neg (Nat.ne_of_lt hlt), hf]

theorem getElem?_frame_addFrame (s : Store) (kind : FrameKind) :
    (s.addFrame kind).2.frames[s.frames.size]? = some ⟨kind, []⟩ := by
  simp only [addFrame, Array.getElem?_push, if_true]

theorem size_frames_addFrame (s : Store) (kind : FrameKind) :
    s.frames.size < (s.addFrame kind).2.frames.size := by
  simp only [addFrame, Array.size_push, Nat.lt_succ_self]

theorem elements_modifyArray (s : Store) (a b : Address) (f : Array Value → Array Value) :
    (s.modifyArray a f).elements b =
      if a = b ∧ b < s.arrays.size then f (s.elements b) else s.elements b := by
  simp only [elements, modifyArray, Array.getElem?_modify]
  by_cases hb : b < s.arrays.size
  · by_cases hab : a = b <;> simp [hab, hb]
  · simp [hb]

theorem fields_modifyObject (s : Store) (a b : Address) (f : Fields Value → Fields Value) :
    (s.modifyObject a f).fields b =
      if a = b ∧ b < s.objects.size then f (s.fields b) else s.fields b := by
  simp only [fields, modifyObject, Array.getElem?_modify]
  by_cases hb : b < s.objects.size
  · by_cases hab : a = b <;> simp [hab, hb]
  · simp [hb]

theorem has_fields_addObject {s : Store} {a : Address} {n : String} (fields : Fields Value)
    (h : (s.fields a).has n = true) : ((s.addObject fields).2.fields a).has n = true := by
  have hlt : a < s.objects.size := by
    refine Nat.lt_of_not_le fun hle => ?_
    rw [Store.fields, Array.getElem?_eq_none hle] at h
    cases h
  simpa only [Store.fields, addObject, Array.getElem?_push, if_neg (Nat.ne_of_lt hlt)] using h

theorem has_fields_set {s : Store} {a b : Address} {name n : String} {v : Value}
    (h : (s.fields b).has n = true) : ((s.modifyObject a (·.set name v)).fields b).has n = true := by
  rw [fields_modifyObject]
  split
  · exact Fields.has_set v h
  · exact h

namespace Grows

variable {s t u : Store} {a : Address} {name : String}

theorem refl (s : Store) : s.Grows s :=
  ⟨fun _ f hf => ⟨f, hf, rfl, fun _ => id⟩, fun _ _ => id, fun _ _ => id⟩

theorem trans (h : s.Grows t) (h' : t.Grows u) : s.Grows u where
  frames a f hf := by
    obtain ⟨g, hg, hkind, hnames⟩ := h.frames a f hf
    obtain ⟨g', hg', hkind', hnames'⟩ := h'.frames a g hg
    exact ⟨g', hg', hkind'.trans hkind, fun n hn => hnames' n (hnames n hn)⟩
  fields a n hn := h'.fields a n (h.fields a n hn)
  functions a f hf := h'.functions a f (h.functions a f hf)

theorem declares (h : s.Grows t) (hname : s.Declares a name) : t.Declares a name := by
  obtain ⟨f, hf, hhas⟩ := hname
  obtain ⟨g, hg, -, hnames⟩ := h.frames a f hf
  exact ⟨g, hg, hnames name hhas⟩

theorem lt_size (h : s.Grows t) (ha : a < s.frames.size) : a < t.frames.size := by
  obtain ⟨g, hg, -⟩ := h.frames a _ (Array.getElem?_eq_getElem ha)
  exact (Array.getElem?_eq_some_iff.mp hg).1

/-- A change that leaves the frames and the functions. -/
theorem aside (hframes : t.frames = s.frames) (hfunctions : t.functions = s.functions)
    (hfields : ∀ a n, (s.fields a).has n = true → (t.fields a).has n = true) : s.Grows t where
  frames _ f hf := ⟨f, hframes ▸ hf, rfl, fun _ => id⟩
  fields := hfields
  functions _ _ hf := hfunctions ▸ hf

theorem addArray (s : Store) (items : Array Value) : s.Grows (s.addArray items).2 :=
  aside rfl rfl fun _ _ => id

theorem addObject (s : Store) (fields : Fields Value) : s.Grows (s.addObject fields).2 :=
  aside rfl rfl fun _ _ => has_fields_addObject fields

theorem addMethod (s : Store) (m : BoundMethod) : s.Grows (s.addMethod m).2 :=
  aside rfl rfl fun _ _ => id

theorem modifyArray (s : Store) (a : Address) (f : Array Value → Array Value) :
    s.Grows (s.modifyArray a f) := aside rfl rfl fun _ _ => id

theorem setField (s : Store) (a : Address) (name : String) (v : Value) :
    s.Grows (s.modifyObject a (·.set name v)) := aside rfl rfl fun _ _ => has_fields_set

theorem addFunction (s : Store) (k : Closure) : s.Grows (s.addFunction k).2 where
  frames := (refl s).frames
  fields := (refl s).fields
  functions a f hf := by
    have hlt : a < s.functions.size := (Array.getElem?_eq_some_iff.mp hf).1
    simp only [Store.addFunction, Array.getElem?_push, if_neg (Nat.ne_of_lt hlt), hf]

theorem addFrame (s : Store) (kind : FrameKind) : s.Grows (s.addFrame kind).2 where
  frames _ f hf := ⟨f, getElem?_addFrame kind hf, rfl, fun _ => id⟩
  fields := (refl s).fields
  functions := (refl s).functions

/-- A change of the names of one frame, after which the names are still there. -/
theorem modifyFrame {change : Fields Binding → Fields Binding}
    (h : ∀ (names : Fields Binding) (n : String), names.has n = true → (change names).has n = true) :
    s.Grows (s.modifyFrame a change) where
  frames b f hf := by
    refine ⟨_, getElem?_modifyFrame change hf, ?_, fun n hn => ?_⟩
    · split <;> rfl
    · split
      · exact h _ n hn
      · exact hn
  fields := (refl s).fields
  functions := (refl s).functions

theorem declare (s : Store) (a : Address) (name : String) (b : Binding) :
    s.Grows (s.declare a name b) := modifyFrame fun _ _ => Fields.has_set b

theorem declareMissing (s : Store) (a : Address) (name : String) (b : Binding) :
    s.Grows (s.declareMissing a name b) := by
  refine modifyFrame fun names n hn => ?_
  split
  · exact hn
  · exact Fields.has_set b hn

theorem append (s : Store) (a : Address) (name text : String) : s.Grows (s.append a name text) := by
  refine modifyFrame fun names n hn => ?_
  split
  · exact Fields.has_set _ hn
  · exact Fields.has_set _ hn

end Grows

variable {s t : Store} {a : Address} {n : String}

theorem declares_modifyFrame (ha : a < s.frames.size) {change : Fields Binding → Fields Binding}
    (h : ∀ names : Fields Binding, (change names).has n = true) :
    (s.modifyFrame a change).Declares a n := by
  have hget := getElem?_modifyFrame (a := a) change (Array.getElem?_eq_getElem ha)
  rw [if_pos rfl] at hget
  exact ⟨_, hget, h _⟩

theorem declares_declare (ha : a < s.frames.size) (b : Binding) : (s.declare a n b).Declares a n := by
  refine declares_modifyFrame ha fun names => ?_
  rw [Fields.has, Fields.get?_set, if_pos rfl]
  rfl

theorem declares_declareMissing (ha : a < s.frames.size) (b : Binding) :
    (s.declareMissing a n b).Declares a n := by
  refine declares_modifyFrame ha fun names => ?_
  split
  · assumption
  · rw [Fields.has, Fields.get?_set, if_pos rfl]
    rfl

theorem modifyFrame_congr {change other : Fields Binding → Fields Binding}
    (h : ∀ f, s.frames[a]? = some f → change f.bindings = other f.bindings) :
    s.modifyFrame a change = s.modifyFrame a other := by
  have hframes : (s.frames.modify a fun f => { f with bindings := change f.bindings }) =
      s.frames.modify a fun f => { f with bindings := other f.bindings } := by
    refine Array.ext_getElem? fun b => ?_
    rw [Array.getElem?_modify, Array.getElem?_modify]
    split
    · rename_i hab
      cases hf : s.frames[b]? with
      | none => rfl
      | some f => rw [Option.map_some, Option.map_some, h f (hab ▸ hf)]
    · rfl
  rw [modifyFrame, hframes]
  rfl

theorem modifyFrame_id (s : Store) (a : Address) : s.modifyFrame a id = s := by
  have hframes : (s.frames.modify a fun f => { f with bindings := id f.bindings }) = s.frames := by
    refine Array.ext_getElem? fun b => ?_
    rw [Array.getElem?_modify]
    split
    · exact congrFun Option.map_id _
    · rfl
  rw [modifyFrame, hframes]

/-- A name that is missing is declared, and nothing is done if it is there. -/
theorem declareMissing_eq (s : Store) (a : Address) (n : String) (b : Binding) :
    s.declareMissing a n b = s ∨ s.declareMissing a n b = s.declare a n b := by
  by_cases h : ∃ f, s.frames[a]? = some f ∧ f.bindings.has n = true
  · obtain ⟨f, hf, hhas⟩ := h
    refine Or.inl (Eq.trans (modifyFrame_congr fun g hg => ?_) (s.modifyFrame_id a))
    cases hf.symm.trans hg
    exact if_pos hhas
  · refine Or.inr (modifyFrame_congr fun f hf => if_neg fun hhas => h ⟨f, hf, hhas⟩)

/-- What is printed is declared, with what stands there so far before it. -/
theorem append_eq (s : Store) (a : Address) (n text : String) :
    ∃ b, s.append a n text = s.declare a n b := by
  cases hf : s.frames[a]? with
  | none =>
    exact ⟨⟨.undefined, true⟩, modifyFrame_congr fun f h => by cases hf.symm.trans h⟩
  | some f =>
    cases hb : f.bindings.get? n with
    | none =>
      refine ⟨⟨.string text, true⟩, modifyFrame_congr fun g hg => ?_⟩
      cases hf.symm.trans hg
      rw [hb]
    | some b =>
      refine ⟨{ b with value := .string (s.text b.value ++ text) }, modifyFrame_congr fun g hg => ?_⟩
      cases hf.symm.trans hg
      rw [hb]

/-- What a frame holds under a name. -/
def binding? (s : Store) (a : Address) (n : String) : Option Binding :=
  s.frames[a]?.bind (·.bindings.get? n)

section Bindings

variable {b : Address} {m : String} {x : Binding}

theorem lt_of_binding? (h : s.binding? a n = some x) : a < s.frames.size := by
  obtain ⟨f, hf, -⟩ := Option.bind_eq_some_iff.mp h
  exact (Array.getElem?_eq_some_iff.mp hf).1

theorem binding?_modifyFrame_of_ne {change : Fields Binding → Fields Binding} (h : b ≠ a) :
    (s.modifyFrame b change).binding? a n = s.binding? a n := by
  simp only [binding?, modifyFrame, Array.getElem?_modify, if_neg h]

theorem binding?_declare_of_ne (y : Binding) (h : b ≠ a ∨ m ≠ n) :
    (s.declare b m y).binding? a n = s.binding? a n := by
  by_cases hb : b = a
  · have hm : n ≠ m := Ne.symm (h.resolve_left fun hne => hne hb)
    cases hf : s.frames[a]? with
    | none => simp only [binding?, declare, modifyFrame, Array.getElem?_modify, hf, Option.map_none, ite_self]
    | some f =>
      simp only [binding?, declare, getElem?_modifyFrame _ hf, if_pos hb, hf, Option.bind_some,
        Fields.get?_set, if_neg hm]
  · exact binding?_modifyFrame_of_ne hb

theorem binding?_declare (s : Store) (y : Binding) (n : String) (h : a < s.frames.size) :
    (s.declare a n y).binding? a n = some y := by
  simp only [binding?, declare, getElem?_modifyFrame _ (Array.getElem?_eq_getElem h), if_true,
    Option.bind_some, Fields.get?_set]

theorem binding?_addFrame (kind : FrameKind) (h : s.binding? a n = some x) :
    (s.addFrame kind).2.binding? a n = some x := by
  obtain ⟨f, hf, hx⟩ := Option.bind_eq_some_iff.mp h
  rw [binding?, getElem?_addFrame kind hf]
  exact hx

end Bindings

/-- A name of a frame is found in each scope with the frame. -/
theorem Declares.isSome_resolve? {scope : Scope} (h : s.Declares a n) (ha : a ∈ scope) :
    (s.resolve? scope n).isSome = true := by
  obtain ⟨f, hf, hhas⟩ := h
  have hin : (s.resolveIn? a n).isSome = true := by
    simp only [resolveIn?, hf]
    split
    · rfl
    · rw [Option.isSome_map]
      exact hhas
  rw [resolve?, List.findSome?_isSome_iff]
  exact ⟨a, ha, hin⟩

end Store

namespace Evaluator

variable {frame : Address} {s t : Store}

/-- Once the parameters are declared, they are names of the frame. -/
theorem declares_parameters {params : List String} {args : List Value}
    (h : (Run.declareParameters frame params args).run.run s = (.ok (), t))
    (hframe : frame < s.frames.size) : s.Grows t ∧ ∀ p ∈ params, t.Declares frame p := by
  induction params generalizing s args with
  | nil =>
    cases h
    exact ⟨.refl _, fun _ hp => absurd hp List.not_mem_nil⟩
  | cons p ps ih =>
    let b : Binding := ⟨args.head?.getD .undefined, true⟩
    have hgrows := Store.Grows.declare s frame p b
    obtain ⟨hmore, hps⟩ := ih (s := s.declare frame p b) h (hgrows.lt_size hframe)
    exact ⟨hgrows.trans hmore, List.forall_mem_cons.mpr
      ⟨hmore.declares (Store.declares_declare hframe b), hps⟩⟩

/-- Once the arguments of a function are declared, its parameters are names of the frame. -/
theorem declares_arguments {f : Function} {args : List Value}
    (h : (declareArguments frame f args).run.run s = (.ok (), t)) (hframe : frame < s.frames.size) :
    s.Grows t ∧ ∀ n ∈ f.params ++ f.rest.toList, t.Declares frame n := by
  rw [declareArguments, Run.run_bind] at h
  split at h
  · rename_i u hparams
    obtain ⟨hgrows, hdeclares⟩ := declares_parameters hparams hframe
    cases hrest : f.rest with
    | none =>
      rw [hrest] at h
      cases h
      rw [Option.toList_none, List.append_nil]
      exact ⟨hgrows, hdeclares⟩
    | some n =>
      rw [hrest] at h
      let items := (args.drop f.params.length).toArray
      have hadd := Store.Grows.addArray u items
      have hmore := Store.Grows.declare (u.addArray items).2 frame n ⟨(u.addArray items).1, true⟩
      cases h
      refine ⟨(hgrows.trans hadd).trans hmore, List.forall_mem_append.mpr
        ⟨fun p hp => (hadd.trans hmore).declares (hdeclares p hp), ?_⟩⟩
      exact List.forall_mem_singleton.mpr
        (Store.declares_declare ((hgrows.trans hadd).lt_size hframe) _)
  · cases h

/-- Once names are hoisted, they are names of the frame. -/
theorem declares_hoisted {names : List String}
    (h : (hoistNames frame names).run.run s = (.ok (), t)) (hframe : frame < s.frames.size) :
    s.Grows t ∧ ∀ n ∈ names, t.Declares frame n := by
  induction names generalizing s with
  | nil =>
    cases h
    exact ⟨.refl _, fun _ hn => absurd hn List.not_mem_nil⟩
  | cons n names ih =>
    have hgrows := Store.Grows.declareMissing s frame n ⟨.undefined, true⟩
    obtain ⟨hmore, hnames⟩ := ih (s := s.declareMissing frame n ⟨.undefined, true⟩) h
      (hgrows.lt_size hframe)
    exact ⟨hgrows.trans hmore, List.forall_mem_cons.mpr
      ⟨hmore.declares (Store.declares_declareMissing hframe _), hnames⟩⟩

end Evaluator

end Script

end Microtemplate
