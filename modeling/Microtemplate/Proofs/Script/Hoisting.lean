import Mathlib.Data.List.Forall2
import Microtemplate.Proofs.Script.JsonText
import Microtemplate.Proofs.Script.Keeping

/-!
Hoisting. A function declares its parameters and all names that its own code declares function-wide,
wherever this stands in it, before any of its code is run. From then on they are found by all code in
the function and in the functions inside it: the frames of functions around code at a moment are those
of the functions around it in the tree of the program, and each of them has all its names.
-/

namespace Microtemplate.Script

/-- The names that code declares for the whole function around it. -/
def Code.variables : Code → List String
  | .statement (.declaration .functionWide ds) => ds.map (·.name)
  | .statement (.loopOf (.declare .functionWide n) _ _)
  | .statement (.loopIn (.declare .functionWide n) _ _) => [n]
  | _ => []

namespace FunctionOf

/-- The names that are there for the whole body of a function: its parameters and those that its own
code declares, wherever it does. -/
def Declares (f : Function) (n : String) : Prop :=
  n ∈ f.params ∨ n ∈ f.rest ∨ ∃ x, f.OwnCode x ∧ n ∈ x.variables

/-- Functions inside each other from the program on, the innermost first. -/
inductive Path (f : Function) : List Function → Prop
  | self : Path f [f]
  | inner {g h : Function} {gs : List Function} {x : Code} (hg : Path f (g :: gs)) (hx : g.OwnCode x)
      (hh : h ∈ x.functions) : Path f (h :: g :: gs)

end FunctionOf

section Hoisted

theorem hoisted_subset_hoistedList {s : Stmt} {ss : List Stmt} (h : s ∈ ss) :
    s.hoisted ⊆ hoistedList ss := by
  induction ss with
  | nil => cases h
  | cons other ss ih =>
    rcases List.mem_cons.mp h with rfl | h
    · exact List.subset_append_left ..
    · exact List.Subset.trans (ih h) (List.subset_append_right ..)

theorem Stmt.hoisted_subset {s part : Stmt} (h : part ∈ s.statements) : part.hoisted ⊆ s.hoisted := by
  have hoption : ∀ {o : Option Stmt}, part ∈ o.toList → part.hoisted ⊆ hoistedOption o := by
    intro o ho
    cases Option.mem_toList.mp ho
    exact List.Subset.refl _
  cases s with
  | branch _ consequent alternate =>
    rw [Stmt.hoisted]
    rcases List.mem_cons.mp h with rfl | h
    · exact List.subset_append_left ..
    · exact List.Subset.trans (hoption h) (List.subset_append_right ..)
  | loop initial _ _ body =>
    rw [Stmt.hoisted]
    rcases List.mem_append.mp h with h | h
    · exact List.Subset.trans (hoption h) (List.subset_append_left ..)
    · cases List.mem_singleton.mp h
      exact List.subset_append_right ..
  | loopOf binding _ body | loopIn binding _ body =>
    cases List.mem_singleton.mp h
    rcases binding with ⟨_ | _ | _, n⟩ | n <;> simp [Stmt.hoisted]
  | loopWhile _ body | within _ body =>
    cases List.mem_singleton.mp h
    rw [Stmt.hoisted]
    exact List.Subset.refl _
  | block body =>
    rw [Stmt.hoisted]
    exact hoisted_subset_hoistedList h
  | _ => cases h

theorem Code.variables_subset (s : Stmt) : (Code.statement s).variables ⊆ s.hoisted := by
  unfold Code.variables
  split
  · rename_i h
    cases h
    rw [Stmt.hoisted]
    exact List.Subset.refl _
  · rename_i h
    cases h
    rw [Stmt.hoisted]
    exact List.cons_subset_cons _ (List.nil_subset _)
  · rename_i h
    cases h
    rw [Stmt.hoisted]
    exact List.cons_subset_cons _ (List.nil_subset _)
  · exact List.nil_subset _

variable {f : Function}

theorem FunctionOf.OwnCode.hoisted_subset {x : Code} (h : f.OwnCode x) :
    ∀ s, x = .statement s → s.hoisted ⊆ hoistedList f.body := by
  induction h with
  | @body s hs =>
    rintro t ⟨rfl⟩
    exact hoisted_subset_hoistedList hs
  | @part x y _ hy ih =>
    rintro t rfl
    cases x with
    | expression e =>
      obtain ⟨_, _, heq⟩ := List.mem_map.mp hy
      cases heq
    | statement s =>
      rcases List.mem_append.mp hy with hy | hy
      · obtain ⟨_, _, heq⟩ := List.mem_map.mp hy
        cases heq
      · obtain ⟨part, hpart, heq⟩ := List.mem_map.mp hy
        cases heq
        exact List.Subset.trans (Stmt.hoisted_subset hpart) (ih s rfl)

/-- Hoisting finds all names that a function declares. -/
theorem FunctionOf.Declares.mem_declared {n : String} (h : f.Declares n) : n ∈ f.declared := by
  rcases h with h | h | ⟨x, hx, hn⟩
  · exact List.mem_append_left _ (List.mem_append_left _ h)
  · exact List.mem_append_left _ (List.mem_append_right _ (Option.mem_toList.mpr h))
  · refine List.mem_append_right _ ?_
    cases x with
    | expression e => cases hn
    | statement s => exact hx.hoisted_subset s rfl (Code.variables_subset s hn)

end Hoisted

namespace Store

variable {s t : Store} {scope : Scope}

/-- The frames of functions in a scope. -/
def functionFrames (s : Store) (scope : Scope) : Scope :=
  scope.filter fun a => s.frames[a]?.map (·.kind) = some .function

theorem mem_functionFrames {a : Address} (h : a ∈ s.functionFrames scope) : a ∈ scope :=
  List.mem_of_mem_filter h

theorem Grows.functionFrames (h : s.Grows t) (hscope : ∀ a ∈ scope, a < s.frames.size) :
    t.functionFrames scope = s.functionFrames scope := by
  refine List.filter_congr fun a ha => ?_
  obtain ⟨g, hg, hkind, -⟩ := h.frames a _ (Array.getElem?_eq_getElem (hscope a ha))
  rw [hg, Array.getElem?_eq_getElem (hscope a ha), Option.map_some, Option.map_some, hkind]

theorem functionFrames_addFrame (kind : FrameKind) (hscope : ∀ a ∈ scope, a < s.frames.size) :
    (s.addFrame kind).2.functionFrames (s.frames.size :: scope) =
      if kind = .function then s.frames.size :: s.functionFrames scope
      else s.functionFrames scope := by
  have hrest := (Grows.addFrame s kind).functionFrames hscope
  unfold Store.functionFrames at hrest ⊢
  rw [List.filter_cons, getElem?_frame_addFrame, hrest]
  by_cases hkind : kind = .function <;> simp [hkind]

/-- The frames of functions in a scope have been made for some functions, as far as `made` allows, and
have all their names. -/
structure Stands (s : Store) (made : Address → Function → Prop) (scope : Scope)
    (gs : List Function) : Prop where
  inRange : ∀ a ∈ scope, a < s.frames.size
  frames : List.Forall₂ (fun a g => made a g ∧ ∀ n ∈ g.declared, s.Declares a n)
    (s.functionFrames scope) gs

variable {made : Address → Function → Prop} {gs : List Function}

theorem Stands.later (h : s.Stands made scope gs) (hgrows : s.Grows t) : t.Stands made scope gs where
  inRange a ha := hgrows.lt_size (h.inRange a ha)
  frames := by
    rw [hgrows.functionFrames h.inRange]
    exact h.frames.imp fun _ _ hframe =>
      ⟨hframe.1, fun n hn => hgrows.declares (hframe.2 n hn)⟩

theorem Stands.addFrame {kind : FrameKind} (h : s.Stands made scope gs) (hkind : kind ≠ .function) :
    (s.addFrame kind).2.Stands made (s.frames.size :: scope) gs where
  inRange := List.forall_mem_cons.mpr
    ⟨s.size_frames_addFrame kind, (h.later (.addFrame s kind)).inRange⟩
  frames := by
    rw [functionFrames_addFrame kind h.inRange, if_neg hkind,
      ← (Grows.addFrame s kind).functionFrames h.inRange]
    exact (h.later (.addFrame s kind)).frames

/-- A function is entered once its frame has all its names. -/
theorem Stands.enter {g : Function} (h : s.Stands made scope gs)
    (hgrows : (s.addFrame .function).2.Grows t) (hg : made s.frames.size g)
    (hnames : ∀ n ∈ g.declared, t.Declares s.frames.size n) :
    t.Stands made (s.frames.size :: scope) (g :: gs) := by
  have hlater := h.later ((Grows.addFrame s .function).trans hgrows)
  have hold := ((Grows.addFrame s .function).trans hgrows).functionFrames h.inRange
  have hinRange : ∀ a ∈ s.frames.size :: scope, a < (s.addFrame .function).2.frames.size :=
    List.forall_mem_cons.mpr ⟨s.size_frames_addFrame .function, (h.later (.addFrame s _)).inRange⟩
  refine ⟨fun a ha => hgrows.lt_size (hinRange a ha), ?_⟩
  rw [hgrows.functionFrames hinRange, functionFrames_addFrame _ h.inRange, if_pos rfl, ← hold]
  exact .cons ⟨hg, hnames⟩ hlater.frames

/-- A name of one of the functions is there. -/
theorem Stands.declares {g : Function} {n : String} (h : s.Stands made scope gs) (hg : g ∈ gs)
    (hn : n ∈ g.declared) : ∃ a ∈ scope, s.Declares a n := by
  have hframe : ∀ {frames : Scope} {gs : List Function},
      List.Forall₂ (fun a g => made a g ∧ ∀ n ∈ g.declared, s.Declares a n) frames gs → g ∈ gs →
        ∃ a ∈ frames, s.Declares a n := by
    intro frames gs hframes hg
    induction hframes with
    | nil => cases hg
    | cons hhead _ ih =>
      rcases List.mem_cons.mp hg with rfl | hg
      · exact ⟨_, .head _, hhead.2 n hn⟩
      · obtain ⟨a, ha, hdeclares⟩ := ih hg
        exact ⟨a, .tail _ ha, hdeclares⟩
  obtain ⟨a, ha, hdeclares⟩ := hframe h.frames hg
  exact ⟨a, mem_functionFrames ha, hdeclares⟩

end Store

/-- The code that a run comes to stands in the program as its frames say. Errors about `names` do not
come up. -/
def placing (f : Function) (made : Address → Function → Prop) (names : String → Prop) : Keeping where
  Inv s := ∀ (a : Address) (k : Closure), s.functions[a]? = some k →
    ∃ gs, f.Path (k.code :: gs) ∧ s.Stands made k.scope gs
  Admits s c x := ∃ g gs, f.Path (g :: gs) ∧ s.Stands made c.scope (g :: gs) ∧ g.OwnCode x
  PassesCall s _ v := ∀ (a : Address) (k : Closure), v = .function a → s.functions[a]? = some k →
    made s.frames.size k.code
  Closes s scope g := ∃ gs, f.Path (g :: gs) ∧ s.Stands made scope gs
  Fails halt := ∀ n, names n → halt ≠ .failed (.notDefined n)

variable {f : Function} {made : Address → Function → Prop} {names : String → Prop}

theorem placing_lawful
    (hnames : ∀ n, names n → ∀ g gs, f.Path (g :: gs) → ∀ x, g.OwnCode x → n ∈ x.reads ∨ n ∈ x.writes →
      ∃ h ∈ g :: gs, h.Declares n) : (placing f made names).Lawful := by
  have hlater : ∀ {s t : Store}, s.Grows t → t.functions = s.functions →
      (placing f made names).Inv s → (placing f made names).Inv t := by
    intro s t hgrows hfunctions hs a k hk
    rw [hfunctions] at hk
    obtain ⟨gs, hpath, hstands⟩ := hs a k hk
    exact ⟨gs, hpath, hstands.later hgrows⟩
  have hsteps : ∀ {s t : Store}, (placing f made names).Inv s → s.Grows t →
      t.functions = s.functions → (placing f made names).Steps s t := fun hs hgrows hfunctions =>
    ⟨hlater hgrows hfunctions hs, hgrows⟩
  exact {
    refl := .refl
    trans := .trans
    grows := id
    exhausted := fun _ _ => nofun
    failed := by
      rintro e he n - heq
      cases heq
      cases he
    admitsLater := by
      rintro s t c x hgrows ⟨g, gs, hpath, hstands, hx⟩
      exact ⟨g, gs, hpath, hstands.later hgrows, hx⟩
    passesLater := by
      rintro s t c x hgrows ⟨g, gs, hpath, hstands, hx⟩
      exact ⟨g, gs, hpath, hstands.later hgrows, hx⟩
    ownsLater := fun _ => id
    admits := id
    part := by
      rintro s c x y ⟨g, gs, hpath, hstands, hx⟩ hy
      exact ⟨g, gs, hpath, hstands, .part hx hy⟩
    call := fun _ => trivial
    closes := by
      rintro s c x h ⟨g, gs, hpath, hstands, hx⟩ hh
      exact ⟨g :: gs, .inner hpath hx hh, hstands⟩
    free := fun _ _ _ => trivial
    freeRound := fun _ => trivial
    targets := fun _ _ _ => Or.inr fun _ _ => nofun
    found := by
      rintro s c x n ⟨g, gs, hpath, hstands, hx⟩ hn hnone m hm heq
      cases heq
      obtain ⟨h, hh, hdeclares⟩ := hnames n hm g gs hpath x hx hn
      obtain ⟨a, ha, hframe⟩ := hstands.declares hh hdeclares.mem_declared
      have hsome := hframe.isSome_resolve? ha
      rw [hnone] at hsome
      cases hsome
    special := fun _ _ hspecial => hspecial.elim
    assign := fun _ hs _ _ _ _ _ => hsteps hs (.declare ..) rfl
    declaration := fun _ hs _ _ _ => hsteps hs (.declare ..) rfl
    declare := fun _ hs _ _ => hsteps hs (.declare ..) rfl
    aside := fun hs hgrows _ hfunctions => hsteps hs hgrows hfunctions
    addFunction := by
      rintro s scope h hs ⟨gs, hpath, hstands⟩
      have hgrows := Store.Grows.addFunction s ⟨h, scope⟩
      refine ⟨fun a k hk => ?_, hgrows⟩
      simp only [Store.addFunction, Array.getElem?_push] at hk
      split at hk
      · cases hk
        exact ⟨gs, hpath, hstands.later hgrows⟩
      · obtain ⟨gs', hpath', hstands'⟩ := hs a k hk
        exact ⟨gs', hpath', hstands'.later hgrows⟩
    addFrame := by
      rintro s kind hs - hkind
      refine ⟨trivial, ?_, hsteps hs (.addFrame s kind) rfl⟩
      rintro c x ⟨g, gs, hpath, hstands, hx⟩
      exact ⟨g, gs, hpath, hstands.addFrame hkind, hx⟩
    print := fun _ hs _ => hsteps hs (.append ..) rfl
    closure := fun hs hk => hs _ _ hk
    enter := by
      intro s c a k hs hcall hk
      obtain ⟨gs, hpath, hstands⟩ := hs a k hk
      refine ⟨trivial, hsteps hs (.addFrame s .function) rfl, fun t hgrows hdeclares x hx => ?_⟩
      exact ⟨k.code, gs, hpath, hstands.enter hgrows (hcall a k rfl hk) hdeclares, .body hx⟩ }

theorem placing_starts (hmade : made programFrame f) (data : Json) :
    (placing f made names).Starts f (initialStore.addJson data).2 := by
  obtain ⟨hgrown, -⟩ := addJson_shows data initialStore
  have hsize : (initialStore.addJson data).2.frames.size = 2 := by
    rw [hgrown.frames]
    rfl
  have hinRange : ∀ a ∈ programContext.scope, a < (initialStore.addJson data).2.frames.size := by
    rw [hsize]
    decide
  refine ⟨fun a k hk => ?_, trivial, hinRange _ (.head _), fun _ _ => trivial,
    fun t hgrows hdeclares x hx => ⟨f, [], .self, ⟨fun a ha => hgrows.lt_size (hinRange a ha), ?_⟩,
      .body hx⟩⟩
  · rw [hgrown.functions] at hk
    cases hk
  · have hframes : (initialStore.addJson data).2.functionFrames programContext.scope =
        [programFrame] := by
      unfold Store.functionFrames
      rw [hgrown.frames]
      rfl
    rw [hgrows.functionFrames hinRange, hframes]
    exact .cons ⟨hmade, hdeclares⟩ .nil

/-- A function is called that is not the one for which `made` says that the next frame is made. -/
def Moment.MadeOtherwise (made : Address → Function) (m : Moment) : Prop :=
  ∃ a args k, m.act = .call (.function a) args ∧ m.store.functions[a]? = some k ∧
    k.code ≠ made m.store.frames.size

/-- What is inside does not fail because a name is not defined, and keeps all names. -/
structure Evaluator.Finds (inner : Evaluator) (n : String) : Prop where
  eval : ∀ c e s, s.Grows ((inner.eval c e).run.run s).2 ∧
    ((inner.eval c e).run.run s).1 ≠ .error (.failed (.notDefined n))
  exec : ∀ c x s, s.Grows ((inner.exec c x).run.run s).2 ∧
    ((inner.exec c x).run.run s).1 ≠ .error (.failed (.notDefined n))
  call : ∀ c f args s, s.Grows ((inner.call c f args).run.run s).2 ∧
    ((inner.call c f args).run.run s).1 ≠ .error (.failed (.notDefined n))

/-- A name that a frame around the code has is found. -/
def finding (n : String) : Keeping where
  Inv _ := True
  Admits s c _ := ∃ a ∈ c.scope, s.Declares a n
  PassesCall _ _ _ := False
  Closes _ _ _ := True
  Fails halt := halt ≠ .failed (.notDefined n)

theorem finding_lawful (n : String) : (finding n).Lawful := by
  have hlater : ∀ {s t : Store} {c : Context}, s.Grows t → (∃ a ∈ c.scope, s.Declares a n) →
      ∃ a ∈ c.scope, t.Declares a n := by
    rintro s t c hgrows ⟨a, ha, hdeclares⟩
    exact ⟨a, ha, hgrows.declares hdeclares⟩
  exact {
    refl := .refl
    trans := .trans
    grows := id
    exhausted := nofun
    failed := by
      rintro e he heq
      cases heq
      cases he
    admitsLater := hlater
    passesLater := hlater
    ownsLater := fun _ => id
    admits := id
    part := fun hx _ => hx
    call := fun _ => trivial
    closes := fun _ _ => trivial
    free := fun _ _ _ => trivial
    freeRound := fun _ => trivial
    targets := fun _ _ _ => Or.inr nofun
    found := by
      rintro s c x m ⟨a, ha, hdeclares⟩ - hnone heq
      cases heq
      have hsome := hdeclares.isSome_resolve? ha
      rw [hnone] at hsome
      cases hsome
    special := fun _ _ hspecial => hspecial.elim
    assign := fun _ _ _ _ _ _ _ => ⟨trivial, .declare ..⟩
    declaration := fun _ _ _ _ _ => ⟨trivial, .declare ..⟩
    declare := fun _ _ _ _ => ⟨trivial, .declare ..⟩
    aside := fun _ hgrows _ _ => ⟨trivial, hgrows⟩
    addFunction := fun _ _ => ⟨trivial, .addFunction ..⟩
    addFrame := by
      rintro s kind - - -
      refine ⟨trivial, ?_, trivial, .addFrame ..⟩
      rintro c x ⟨a, ha, hdeclares⟩
      exact ⟨a, .tail _ ha, (Store.Grows.addFrame s kind).declares hdeclares⟩
    print := fun _ _ _ => ⟨trivial, .append ..⟩
    closure := fun _ _ => trivial
    enter := fun _ hcall => hcall.elim }

/-- Where a name is there, running code fails because of it only if something inside does. -/
theorem Evaluator.Finds.step {self : Evaluator} {n : String} (h : self.Finds n) {c : Context}
    {s : Store} {a : Address} (ha : a ∈ c.scope) (hdeclares : s.Declares a n) :
    (∀ e, ((self.evalStep c e).run.run s).1 ≠ .error (.failed (.notDefined n))) ∧
      ∀ x, ((self.execStep c x).run.run s).1 ≠ .error (.failed (.notDefined n)) := by
  have hvalue : ∀ v : Value, Renamable.rename .same v = v := Renaming.same_value
  have hvisible : ∀ v : Value, Renamable.visible .same v := Renaming.same_visible
  have hagree : (finding n).pairing.Agree self self := by
    refine ⟨rfl, fun {s u c e} hs _ => ?_, fun {s u c x} hs _ => ?_, fun {c f args} _ _ _ s u hs => ?_⟩
    · obtain ⟨rfl, -⟩ := hs
      obtain ⟨hgrows, hfails⟩ := h.eval c e u
      exact Keeping.alike_of_steps hvalue hvisible ⟨trivial, hgrows⟩ fun e he heq =>
        hfails (heq ▸ he)
    · obtain ⟨rfl, -⟩ := hs
      obtain ⟨hgrows, hfails⟩ := h.exec c x u
      refine Keeping.alike_of_steps (fun done => ?_) (fun done => ?_) ⟨trivial, hgrows⟩
        fun e he heq => hfails (heq ▸ he)
      · cases done with
        | returned v => exact congrArg Completion.returned (hvalue v)
        | _ => rfl
      · cases done with
        | returned v => exact hvisible v
        | _ => trivial
    · obtain ⟨rfl, -⟩ := hs
      obtain ⟨hgrows, hfails⟩ := h.call c f args u
      rw [show (finding n).pairing.places.value = id from Renaming.value_same, List.map_id]
      exact Keeping.alike_of_steps hvalue hvisible ⟨trivial, hgrows⟩ fun e he heq =>
        hfails (heq ▸ he)
  have hlawful := Keeping.lawful (finding_lawful n)
  have hadmits : ∀ x, (finding n).pairing.At s s c x := fun x => ⟨⟨rfl, trivial⟩, a, ha, hdeclares⟩
  refine ⟨fun e he => ?_, fun x hx => ?_⟩
  · exact (Keeping.steps_of_alike (Evaluator.alike_evalStep hlawful hagree (hadmits _))).2 _ he rfl
  · exact (Keeping.steps_of_alike (Evaluator.alike_execStep hlawful hagree (hadmits _))).2 _ hx rfl

/-- Hoisting is complete. At every moment of every run, as long as frames have been made for the
functions that `made` says, the functions around the code are those that are around it in the program,
and all their names are there; where a name is there, code fails because of it only if something inside
does. So a name that is used only inside functions that declare it is never found missing. -/
theorem Function.hoisting_complete (f : Function) :
    (∀ made : Address → Function, made programFrame = f →
      f.AlwaysUntil (·.MadeOtherwise made) fun m => ∀ x, m.act = .run x →
        ∃ g gs, (m.store.functionFrames m.context.scope).map made = g :: gs ∧ f.Path (g :: gs) ∧
          g.OwnCode x ∧
          ∀ h ∈ g :: gs, ∀ n, h.Declares n → ∃ a ∈ m.context.scope, m.store.Declares a n) ∧
    (∀ (self : Evaluator) (n : String), self.Finds n → ∀ (c : Context) (s : Store) (a : Address),
      a ∈ c.scope → s.Declares a n →
        (∀ e, ((self.evalStep c e).run.run s).1 ≠ .error (.failed (.notDefined n))) ∧
          ∀ x, ((self.execStep c x).run.run s).1 ≠ .error (.failed (.notDefined n))) ∧
    ∀ n : String, (∀ g gs, f.Path (g :: gs) → ∀ x, g.OwnCode x → n ∈ x.reads ∨ n ∈ x.writes →
        ∃ h ∈ g :: gs, h.Declares n) →
      ∀ (bound : Nat) (data : Json), f.render bound data ≠ .error (.failed (.notDefined n)) := by
  refine ⟨fun made hmade one other hsame hstop bound data => ?_,
    fun self n h c s a ha hdeclares => h.step ha hdeclares, fun n hn bound data hrender => ?_⟩
  · let K := placing f (fun a g => made a = g) fun _ => False
    have hK : K.Lawful := placing_lawful nofun
    have hjudges : K.pairing.Judges one other := by
      refine Keeping.judges (fun s c x _ hx => ?_) fun s c g args hs _ => ?_
      · refine ⟨hsame _ (Or.inl ?_), fun _ => hx, fun _ _ _ => False.elim⟩
        obtain ⟨g, gs, hpath, hstands, hown⟩ := hx
        rintro y ⟨rfl⟩
        refine ⟨g, gs, ?_, hpath, hown, fun h hh n hn => hstands.declares hh hn.mem_declared⟩
        have hmap := List.forall₂_map_left_iff.mpr (hstands.frames.imp fun _ _ hframe => hframe.1)
        exact List.forall₂_eq_eq_eq ▸ hmap
      · by_cases hcontra : Moment.MadeOtherwise made ⟨c, .call g args, s⟩
        · exact ⟨hsame _ (Or.inr hcontra), fun hnone => absurd hnone (hstop _ hcontra),
            fun _ _ _ => False.elim⟩
        · refine ⟨hsame _ (Or.inl nofun), fun _ a k hg hk => ?_, fun _ _ _ => False.elim⟩
          by_contra hne
          exact hcontra ⟨a, args, k, congrArg (Act.call · args) hg, hk, Ne.symm hne⟩
    exact (Keeping.renderWith_judging hK hjudges (placing_starts hmade data) bound).1
  · have hK : (placing f (fun _ _ => True) (· = n)).Lawful := by
      refine placing_lawful ?_
      rintro m rfl
      exact hn
    have hjudges : (placing f (fun _ _ => True) (· = n)).pairing.Judges (fun _ => none)
        fun _ => none :=
      Keeping.judges (fun _ _ _ _ hx => ⟨rfl, fun _ => hx, nofun⟩)
        fun _ _ _ _ _ _ => ⟨rfl, fun _ _ _ _ _ => trivial, nofun⟩
    have hfails := (Keeping.renderWith_judging hK hjudges (placing_starts trivial data) bound).2
    rw [Evaluator.judging_none, renderWith_within] at hfails
    exact hfails _ hrender n rfl rfl

/-- A name is used before the block that declares it, which is never run. -/
theorem Function.hoisting_complete_late_declaration :
    let late : Stmt := .block [.declaration .functionWide [⟨"x", none⟩]]
    let f : Function := .mk none [] none
      [.expression (.assign none (.identifier "x") (.string "a")), .branch (.boolean false) late none,
        .returning (some (.identifier "x"))]
    (∀ g gs, f.Path (g :: gs) → ∀ x, g.OwnCode x → "x" ∈ x.reads ∨ "x" ∈ x.writes →
      ∃ h ∈ g :: gs, h.Declares "x") ∧
      ∀ (bound : Nat) (data : Json), f.render bound data ≠ .error (.failed (.notDefined "x")) := by
  intro late f
  have hblock : f.OwnCode (.statement late) :=
    .part (.body (.tail _ (.head _))) (Code.mem_parts_statement (.head _))
  have hdeclares : f.Declares "x" :=
    Or.inr (Or.inr ⟨_, .part hblock (Code.mem_parts_statement (.head _)), .head _⟩)
  have hpath : ∀ {gs}, f.Path gs → f ∈ gs := by
    intro gs hgs
    induction hgs with
    | self => exact .head _
    | inner _ _ _ ih => exact .tail _ ih
  have hused : ∀ g gs, f.Path (g :: gs) → ∀ x, g.OwnCode x → "x" ∈ x.reads ∨ "x" ∈ x.writes →
      ∃ h ∈ g :: gs, h.Declares "x" := fun g gs hgs _ _ _ => ⟨f, hpath hgs, hdeclares⟩
  exact ⟨hused, (hoisting_complete f).2.2 "x" hused⟩

end Microtemplate.Script
