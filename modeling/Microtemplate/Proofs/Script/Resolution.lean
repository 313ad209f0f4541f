import Microtemplate.Proofs.Script.Growth

/-!
A name is assigned to where it is looked up. Looking up and assigning go through the frames of a scope
in the same order, and a name that is found in an object is written there. So an assignment fails only
where the name is nowhere or is a constant, after which nothing has changed; otherwise the name has the
new value from then on, and no other name is seen to change from any scope.
-/

namespace Microtemplate.Script

namespace Store

variable {s : Store} {a frame p : Address} {n m : String} {v owner old : Value} {b : Binding}
  {scope : Scope}

/-- A frame has no such name: neither a name of its own nor a property that it makes visible. -/
def Lacks (s : Store) (n : String) (a : Address) : Prop :=
  ∀ f : Frame, s.frames[a]? = some f →
    f.bindings.get? n = none ∧ ∀ v, f.kind = .within v → s.ownProperty? v n = none

/-- The innermost frame of a scope that has a name has it as a constant of its own. -/
def IsConstant (s : Store) (scope : Scope) (n : String) : Prop :=
  ∃ before a after f value, scope = before ++ a :: after ∧ (∀ c ∈ before, s.Lacks n c) ∧
    s.frames[a]? = some f ∧ (∀ v, f.kind = .within v → s.ownProperty? v n = none) ∧
    f.bindings.get? n = some ⟨value, false⟩

/-- No frame of a scope makes an array's elements visible. -/
def WithoutArrays (s : Store) (scope : Scope) : Prop :=
  ∀ a ∈ scope, ∀ f : Frame, s.frames[a]? = some f → ∀ p, f.kind ≠ .within (.array p)

section Frames

theorem visibleProperty?_eq_none_iff {f : Frame} : s.visibleProperty? f n = none ↔
    ∀ v, f.kind = .within v → s.ownProperty? v n = none := by
  unfold visibleProperty?
  split
  · rename_i v hv
    rw [Option.map_eq_none_iff, hv]
    exact ⟨fun h w hw => by cases hw; exact h, fun h => h v rfl⟩
  · rename_i hv
    exact ⟨fun _ v h => absurd h (hv v), fun _ => rfl⟩

theorem visibleProperty?_eq_some_iff {f : Frame} {r : Resolved} :
    s.visibleProperty? f n = some r ↔
      ∃ owner old, f.kind = .within owner ∧ s.ownProperty? owner n = some old ∧
        r = .property owner old := by
  unfold visibleProperty?
  split
  · rename_i v hv
    rw [Option.map_eq_some_iff, hv]
    constructor
    · rintro ⟨x, hx, rfl⟩
      exact ⟨v, x, rfl, hx, rfl⟩
    · rintro ⟨owner, old, howner, hold, rfl⟩
      cases howner
      exact ⟨old, hold, rfl⟩
  · rename_i hv
    constructor
    · intro h
      cases h
    · rintro ⟨owner, old, howner, -⟩
      exact absurd howner (hv owner)

theorem resolveIn?_eq_none_iff : s.resolveIn? a n = none ↔ s.Lacks n a := by
  unfold resolveIn? Lacks
  cases s.frames[a]? with
  | none => simp
  | some f =>
    simp only [Option.some.injEq, forall_eq', ← visibleProperty?_eq_none_iff]
    cases hvisible : s.visibleProperty? f n <;> simp

theorem resolveIn?_eq_property_iff : s.resolveIn? a n = some (.property owner old) ↔
    ∃ f : Frame, s.frames[a]? = some f ∧ f.kind = .within owner ∧
      s.ownProperty? owner n = some old := by
  unfold resolveIn?
  cases s.frames[a]? with
  | none => simp
  | some f =>
    simp only [Option.some.injEq, exists_eq_left']
    cases hvisible : s.visibleProperty? f n with
    | none =>
      have hnone := visibleProperty?_eq_none_iff.mp hvisible
      constructor
      · intro h
        obtain ⟨b, -, hb⟩ := Option.map_eq_some_iff.mp h
        cases hb
      · rintro ⟨hkind, hown⟩
        rw [hnone owner hkind] at hown
        cases hown
    | some r =>
      obtain ⟨w, x, hkind, hown, rfl⟩ := visibleProperty?_eq_some_iff.mp hvisible
      rw [hkind]
      constructor
      · intro h
        cases h
        exact ⟨rfl, hown⟩
      · rintro ⟨hw, hold⟩
        cases hw
        rw [hown] at hold
        cases hold
        rfl

theorem resolveIn?_eq_binding_iff : s.resolveIn? a n = some (.binding frame b) ↔
    a = frame ∧ ∃ f : Frame, s.frames[a]? = some f ∧
      (∀ v, f.kind = .within v → s.ownProperty? v n = none) ∧ f.bindings.get? n = some b := by
  unfold resolveIn?
  cases s.frames[a]? with
  | none => simp
  | some f =>
    simp only [Option.some.injEq, exists_eq_left', ← visibleProperty?_eq_none_iff]
    cases hvisible : s.visibleProperty? f n with
    | none =>
      simp only [true_and, Option.map_eq_some_iff, Resolved.binding.injEq]
      constructor
      · rintro ⟨b', hname, rfl, rfl⟩
        exact ⟨rfl, hname⟩
      · rintro ⟨rfl, hname⟩
        exact ⟨b, hname, rfl, rfl⟩
    | some r =>
      obtain ⟨w, x, -, -, rfl⟩ := visibleProperty?_eq_some_iff.mp hvisible
      simp

/-- A name is found at the innermost frame that has it. -/
theorem resolve?_eq_some_iff {r : Resolved} : s.resolve? scope n = some r ↔
    ∃ before a after, scope = before ++ a :: after ∧ s.resolveIn? a n = some r ∧
      ∀ c ∈ before, s.Lacks n c := by
  rw [resolve?, List.findSome?_eq_some_iff]
  simp only [resolveIn?_eq_none_iff]

/-- A name that is found in a frame is what the frame holds. -/
theorem binding?_of_resolve? (h : s.resolve? scope n = some (.binding a b)) :
    s.binding? a n = some b := by
  obtain ⟨_, _, _, -, hin, -⟩ := resolve?_eq_some_iff.mp h
  obtain ⟨rfl, f, hf, -, hb⟩ := resolveIn?_eq_binding_iff.mp hin
  rw [binding?, hf]
  exact hb

theorem isConstant_iff : s.IsConstant scope n ↔
    ∃ a value, s.resolve? scope n = some (.binding a ⟨value, false⟩) := by
  constructor
  · rintro ⟨before, a, after, f, value, hscope, hbefore, hframe, hkind, hname⟩
    exact ⟨a, value, resolve?_eq_some_iff.mpr ⟨before, a, after, hscope,
      resolveIn?_eq_binding_iff.mpr ⟨rfl, f, hframe, hkind, hname⟩, hbefore⟩⟩
  · rintro ⟨a, value, h⟩
    obtain ⟨before, c, after, hscope, hin, hbefore⟩ := resolve?_eq_some_iff.mp h
    obtain ⟨-, f, hframe, hkind, hname⟩ := resolveIn?_eq_binding_iff.mp hin
    exact ⟨before, c, after, f, value, hscope, hbefore, hframe, hkind, hname⟩

/-- What makes a name visible in a scope without arrays is an object. -/
theorem WithoutArrays.exists_object (h : s.WithoutArrays scope)
    (hfound : s.resolve? scope n = some (.property owner old)) :
    ∃ p, owner = .object p ∧ (s.fields p).get? n = some old := by
  obtain ⟨before, a, after, rfl, hin, -⟩ := resolve?_eq_some_iff.mp hfound
  obtain ⟨f, hframe, hkind, hown⟩ := resolveIn?_eq_property_iff.mp hin
  cases owner with
  | object p => exact ⟨p, rfl, hown⟩
  | array p => exact absurd hkind (h a (List.mem_append_right _ List.mem_cons_self) f hframe p)
  | _ => cases hown

end Frames

section Writing

theorem getElem?_declare (s : Store) (frame a : Address) (n : String) (b : Binding) :
    (s.declare frame n b).frames[a]? = (s.frames[a]?).map fun f =>
      if frame = a then { f with bindings := f.bindings.set n b } else f := by
  change (s.frames.modify frame _)[a]? = _
  rw [Array.getElem?_modify]
  split
  · rfl
  · exact Option.map_id'.symm

theorem lt_size_of_field (h : (s.fields p).get? n = some v) : p < s.objects.size := by
  refine Nat.lt_of_not_le fun hle => ?_
  rw [fields, Array.getElem?_eq_none hle] at h
  cases h

theorem ownProperty?_set (hp : p < s.objects.size) (w : Value) (m : String) :
    (s.modifyObject p (·.set n v)).ownProperty? w m =
      if w = .object p ∧ m = n then some v else s.ownProperty? w m := by
  cases w with
  | object q =>
    simp only [ownProperty?, fields, modifyObject, Array.getElem?_modify, Value.object.injEq]
    by_cases hq : p = q
    · subst hq
      simp [Array.getElem?_eq_getElem hp, Fields.get?_set]
    · simp [hq, Ne.symm hq]
  | _ => simp [ownProperty?, elements, modifyObject]

/-- Declaring a name again changes no other name in any frame. -/
theorem resolveIn?_declare_of_ne (h : m ≠ n) :
    (s.declare frame n b).resolveIn? a m = s.resolveIn? a m := by
  unfold resolveIn?
  rw [getElem?_declare]
  cases s.frames[a]? with
  | none => rfl
  | some f =>
    by_cases ha : frame = a
    · simp only [Option.map_some, if_pos ha, Fields.get?_set, if_neg h]
      rfl
    · simp only [Option.map_some, if_neg ha]
      rfl

/-- A frame in which a name is not declared again lacks it as before. -/
theorem Lacks.declare (h : s.Lacks n a) (hne : frame ≠ a) : (s.declare frame n b).Lacks n a := by
  intro f hf
  simp only [getElem?_declare, if_neg hne, Option.map_id'] at hf
  exact h f hf

/-- Writing a field of an object changes no other name in any frame. -/
theorem resolveIn?_set_of_ne (hp : p < s.objects.size) (h : m ≠ n) :
    (s.modifyObject p (·.set n v)).resolveIn? a m = s.resolveIn? a m := by
  have hown : ∀ w, (s.modifyObject p (·.set n v)).ownProperty? w m = s.ownProperty? w m := by
    intro w
    rw [ownProperty?_set hp, if_neg fun hw => h hw.2]
  unfold resolveIn? visibleProperty?
  simp only [hown]
  rfl

/-- Writing a field that an object has makes it visible nowhere else. -/
theorem Lacks.set (h : s.Lacks n a) (hp : p < s.objects.size)
    (hfield : ((s.fields p).get? n).isSome = true) : (s.modifyObject p (·.set n v)).Lacks n a := by
  intro f hf
  obtain ⟨hname, hkind⟩ := h f hf
  refine ⟨hname, fun w hw => ?_⟩
  have hlacks := hkind w hw
  rw [ownProperty?_set hp, if_neg, hlacks]
  rintro ⟨rfl, -⟩
  change (s.fields p).get? n = none at hlacks
  rw [hlacks] at hfield
  cases hfield

theorem lookup?_congr {t : Store} (h : ∀ a, t.resolveIn? a m = s.resolveIn? a m) (scope : Scope) :
    t.lookup? scope m = s.lookup? scope m := by
  unfold lookup? resolve?
  rw [show (t.resolveIn? · m) = (s.resolveIn? · m) from funext h]

/-- A name that is declared again where it is found has its new value there. -/
theorem lookup?_declare {old : Binding} (h : s.resolve? scope n = some (.binding frame old)) :
    (s.declare frame n ⟨v, true⟩).lookup? scope n = some v := by
  obtain ⟨before, a, after, hscope, hin, hbefore⟩ := resolve?_eq_some_iff.mp h
  obtain ⟨rfl, f, hframe, hkind, hname⟩ := resolveIn?_eq_binding_iff.mp hin
  have hnot : ∀ c ∈ before, a ≠ c := by
    rintro c hc rfl
    have hnone := (hbefore a hc f hframe).1
    rw [hname] at hnone
    cases hnone
  have hfound : (s.declare a n ⟨v, true⟩).resolve? scope n = some (.binding a ⟨v, true⟩) := by
    refine resolve?_eq_some_iff.mpr ⟨before, a, after, hscope, ?_, fun c hc =>
      (hbefore c hc).declare (hnot c hc)⟩
    refine resolveIn?_eq_binding_iff.mpr ⟨rfl, { f with bindings := f.bindings.set n ⟨v, true⟩ }, ?_,
      hkind, ?_⟩
    · rw [getElem?_declare, hframe, Option.map_some, if_pos rfl]
    · rw [Fields.get?_set, if_pos rfl]
  rw [lookup?, hfound]
  rfl

/-- A name that is found as a field of an object has the new value once the field is written. -/
theorem lookup?_set (h : s.resolve? scope n = some (.property (.object p) old)) :
    (s.modifyObject p (·.set n v)).lookup? scope n = some v := by
  obtain ⟨before, a, after, hscope, hin, hbefore⟩ := resolve?_eq_some_iff.mp h
  obtain ⟨f, hframe, hkind, hown⟩ := resolveIn?_eq_property_iff.mp hin
  have hfield : (s.fields p).get? n = some old := hown
  have hp : p < s.objects.size := lt_size_of_field hfield
  have hfound : (s.modifyObject p (·.set n v)).resolve? scope n =
      some (.property (.object p) v) := by
    refine resolve?_eq_some_iff.mpr ⟨before, a, after, hscope, ?_, fun c hc =>
      (hbefore c hc).set hp (by rw [hfield]; rfl)⟩
    refine resolveIn?_eq_property_iff.mpr ⟨f, hframe, hkind, ?_⟩
    rw [ownProperty?_set hp, if_pos ⟨rfl, rfl⟩]
  rw [lookup?, hfound]
  rfl

end Writing

end Store

/-- Looking a name up and assigning to it agree, in scopes that make no array's elements visible. The
assignment fails with a reference error exactly where the name has no value and with a type error exactly
where it is a constant, and then leaves the store as it is. Otherwise the name has the new value
afterwards, and every other name is as before in every scope. -/
theorem Run.assign_agrees_with_lookup {s t : Store} {scope : Scope} {n : String} {v : Value}
    {result : Except Halt Unit} (harrays : s.WithoutArrays scope)
    (hrun : (Run.assign scope n v).run.run s = (result, t)) :
    ((∃ e, result = .error (.failed e) ∧ e.kind = .reference) ↔ s.lookup? scope n = none) ∧
    ((∃ e, result = .error (.failed e) ∧ e.kind = .type) ↔ s.IsConstant scope n) ∧
    (∀ halt, result = .error halt → t = s ∧
      (halt = .failed (.notDefined n) ∨ halt = .failed .constantAssigned)) ∧
    (result = .ok () → t.lookup? scope n = some v ∧
      ∀ (other : Scope) (m : String), m ≠ n → t.lookup? other m = s.lookup? other m) := by
  unfold Run.assign at hrun
  rw [Run.run_read] at hrun
  rw [Store.isConstant_iff, Store.lookup?]
  cases hfound : s.resolve? scope n with
  | none =>
    rw [hfound] at hrun
    cases hrun
    simp [RenderError.kind]
  | some r =>
    rw [hfound] at hrun
    cases r with
    | property owner old =>
      obtain ⟨p, rfl, hfield⟩ := harrays.exists_object hfound
      cases hrun
      have hp := Store.lt_size_of_field hfield
      refine ⟨by simp, by simp, by simp, fun _ => ⟨Store.lookup?_set hfound, fun other m hm => ?_⟩⟩
      exact Store.lookup?_congr (fun _ => Store.resolveIn?_set_of_ne hp hm) other
    | binding frame b =>
      obtain ⟨value, assignable⟩ := b
      cases assignable with
      | true =>
        cases hrun
        refine ⟨by simp, by simp, by simp, fun _ =>
          ⟨Store.lookup?_declare hfound, fun other m hm => ?_⟩⟩
        exact Store.lookup?_congr (fun _ => Store.resolveIn?_declare_of_ne hm) other
      | false =>
        cases hrun
        simp [RenderError.kind]

/-- A constant behind an object with a field of its name is not assigned to; the field is. -/
theorem Run.assign_agrees_with_lookup_behind_object :
    let s : Store := ⟨#[], #[[("x", .null)]], #[], #[],
      #[⟨.global, [("x", ⟨.undefined, false⟩)]⟩, ⟨.within (.object 0), []⟩,
        ⟨.block, [("y", ⟨.null, true⟩)]⟩]⟩
    let t := s.modifyObject 0 (·.set "x" (.boolean true))
    s.WithoutArrays [2, 1, 0] ∧
      (Run.assign [2, 1, 0] "x" (.boolean true)).run.run s = (.ok (), t) ∧
      ¬ s.IsConstant [2, 1, 0] "x" ∧ t.lookup? [2, 1, 0] "x" = some (.boolean true) ∧
      t.lookup? [2] "y" = s.lookup? [2] "y" := by
  intro s t
  have harrays : s.WithoutArrays [2, 1, 0] := by
    intro a ha f hf p
    simp only [List.mem_cons, List.not_mem_nil, or_false] at ha
    rcases ha with rfl | rfl | rfl <;> cases hf <;> nofun
  have hrun : (Run.assign [2, 1, 0] "x" (.boolean true)).run.run s = (.ok (), t) := rfl
  obtain ⟨-, hconstant, -, hdone⟩ := Run.assign_agrees_with_lookup harrays hrun
  obtain ⟨hvalue, hothers⟩ := hdone rfl
  have hnot : ¬ s.IsConstant [2, 1, 0] "x" := by
    intro h
    obtain ⟨e, he, -⟩ := hconstant.mpr h
    cases he
  exact ⟨harrays, hrun, hnot, hvalue, hothers [2] "y" (by decide)⟩

end Microtemplate.Script
