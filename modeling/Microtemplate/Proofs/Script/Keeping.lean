import Microtemplate.Proofs.Script.PairedEvaluation

/-!
What one run keeps. If every store is paired with itself alone, the two runs are one, and the laws of a
pairing come down to what a single change of the store keeps. Changes that leave the frames and the
functions are alike in this, so they have one law.
-/

namespace Microtemplate.Script

open Renamable (visible rename)

/-- What holds of the store at every moment of a run, and what is known of the code that the run comes
to. -/
structure Keeping where
  /-- What holds at every moment. -/
  Inv : Store → Prop
  /-- How the store may go on. -/
  Goes : Store → Store → Prop := Store.Grows
  /-- Whether the run may come to code in a context. -/
  Admits : Store → Context → Code → Prop
  /-- What is known when the run goes on with the code. -/
  Passes : Store → Context → Code → Prop := Admits
  /-- Whether the run may come to a call in a context. -/
  AdmitsCall : Context → Prop := fun _ => True
  /-- What is known when the run goes on with the call of a value. -/
  PassesCall : Store → Context → Value → Prop := fun _ c _ => AdmitsCall c
  /-- Whether a function may be made with a scope. -/
  Closes : Store → Scope → Function → Prop
  /-- Whether names may be declared in a frame at any time. -/
  Owns : Store → Address → Prop := fun _ _ => True
  /-- The names that may be declared in such frames. -/
  Free : String → Prop := fun _ => True
  /-- The expressions that are dealt with as a whole. -/
  Special : Expr → Prop := fun _ => False
  /-- How the run may end early. -/
  Fails : Halt → Prop := fun _ => True

namespace Keeping

/-- Every store is paired with itself. -/
def pairing (K : Keeping) : Pairing where
  places := .same
  Holds s u := u = s ∧ K.Inv s
  Goes := K.Goes
  Admits := K.Admits
  Passes := K.Passes
  AdmitsCall := K.AdmitsCall
  PassesCall := K.PassesCall
  Closes := K.Closes
  Owns := K.Owns
  Free := K.Free
  Special := K.Special
  Fails := K.Fails

/-- A change after which everything is still kept. -/
structure Steps (K : Keeping) (s t : Store) : Prop where
  inv : K.Inv t
  goes : K.Goes s t

/-- No single change leads out of what is kept. -/
structure Lawful (K : Keeping) : Prop where
  refl : ∀ s : Store, K.Goes s s
  trans : ∀ {s t w : Store}, K.Goes s t → K.Goes t w → K.Goes s w
  grows : ∀ {s t : Store}, K.Goes s t → s.Grows t
  exhausted : K.Fails .exhausted
  failed : ∀ {e : RenderError}, e.isOfCode = false → K.Fails (.failed e)
  admitsLater : ∀ {s t : Store} {c : Context} {x : Code}, K.Goes s t → K.Admits s c x → K.Admits t c x
  passesLater : ∀ {s t : Store} {c : Context} {x : Code}, K.Goes s t → K.Passes s c x → K.Passes t c x
  ownsLater : ∀ {s t : Store} {a : Address}, K.Goes s t → K.Owns s a → K.Owns t a
  admits : ∀ {s : Store} {c : Context} {x : Code}, K.Passes s c x → K.Admits s c x
  part : ∀ {s : Store} {c : Context} {x y : Code}, K.Admits s c x → y ∈ x.parts → K.Admits s c y
  call : ∀ {s : Store} {c : Context} {x : Code}, K.Admits s c x → K.AdmitsCall c
  closes : ∀ {s : Store} {c : Context} {x : Code} {f : Function}, K.Admits s c x → f ∈ x.functions →
    K.Closes s c.scope f
  free : ∀ {s : Store} {scope : Scope} {f : Function}, K.Closes s scope f → ∀ n ∈ f.names, K.Free n
  freeRound : ∀ {s : Store} {c : Context} {binding : LoopBinding} {e : Expr} {body : Stmt},
    K.Passes s c (.statement (.loopOf binding e body)) ∨
      K.Passes s c (.statement (.loopIn binding e body)) → K.Free binding.name
  targets : ∀ {s : Store} {c : Context} {x : Code}, K.Passes s c x → ∀ e ∈ x.targets,
    e.isTarget = true ∨ K.Fails (.failed (.notAssignable e.describe))
  found : ∀ {s : Store} {c : Context} {x : Code} {n : String}, K.Passes s c x →
    n ∈ x.reads ∨ n ∈ x.writes → s.resolve? c.scope n = none → K.Fails (.failed (.notDefined n))
  special : ∀ {s : Store} {c : Context} {e : Expr} {one other : Evaluator}, K.Inv s →
    K.Passes s c (.expression e) → K.Special e → K.pairing.Agree one other →
    K.pairing.Alike s s (one.evalStep c e) (other.evalStep c e)
  assign : ∀ {s : Store} {c : Context} {x : Code} {n : String} {frame : Address} {b : Binding}
    (v : Value), K.Inv s → K.Passes s c x → n ∈ x.writes → (∀ e, x = .expression e → ¬ K.Special e) →
    s.resolve? c.scope n = some (.binding frame b) → b.assignable = true →
    K.Steps s (s.declare frame n ⟨v, true⟩)
  declaration : ∀ {s : Store} {c : Context} {kind : DeclarationKind} {ds : List Declarator}
    {d : Declarator} (b : Binding), K.Inv s → K.Passes s c (.statement (.declaration kind ds)) →
    kind ≠ .functionWide → d ∈ ds → K.Steps s (s.declare (Evaluator.innermost c) d.name b)
  declare : ∀ {s : Store} {n : String} {frame : Address} (b : Binding), K.Inv s → K.Owns s frame →
    K.Free n → K.Steps s (s.declare frame n b)
  aside : ∀ {s t : Store}, K.Inv s → s.Grows t → t.frames = s.frames → t.functions = s.functions →
    K.Steps s t
  addFunction : ∀ {s : Store} {scope : Scope} {f : Function}, K.Inv s → K.Closes s scope f →
    K.Steps s (s.addFunction ⟨f, scope⟩).2
  addFrame : ∀ {s : Store} {kind : FrameKind}, K.Inv s → kind ≠ .global → kind ≠ .function →
    K.Owns (s.addFrame kind).2 s.frames.size ∧
      (∀ c x, K.Passes s c x → K.Passes (s.addFrame kind).2 (c.push s.frames.size) x) ∧
      K.Steps s (s.addFrame kind).2
  print : ∀ {s : Store} {c : Context} (text : String), K.Inv s →
    K.PassesCall s c (.builtin .print) →
    K.Steps s (s.append c.output outputName text)
  closure : ∀ {s : Store} {a : Address} {k : Closure}, K.Inv s → s.functions[a]? = some k →
    K.Closes s k.scope k.code
  enter : ∀ {s : Store} {c : Context} {a : Address} {k : Closure}, K.Inv s →
    K.PassesCall s c (.function a) → s.functions[a]? = some k →
    K.Owns (s.addFrame .function).2 s.frames.size ∧ K.Steps s (s.addFrame .function).2 ∧
      ∀ t, K.Goes (s.addFrame .function).2 t → (∀ n ∈ k.code.declared, t.Declares s.frames.size n) →
        ∀ x ∈ k.code.body,
          K.Admits t ⟨s.frames.size :: k.scope, c.depth + 1, c.output⟩ (.statement x)

variable {K : Keeping} {s t u : Store}

theorem places_value (v : Value) : K.pairing.places.value v = v := Renaming.same_value v

theorem places_value_eq_id : K.pairing.places.value = id := Renaming.value_same

theorem Steps.moves (h : K.Steps s t) : K.pairing.Moves s t t := ⟨⟨rfl, h.inv⟩, h.goes⟩

variable (hK : K.Lawful)

include hK

theorem Steps.refl (hs : K.Inv s) : K.Steps s s := ⟨hs, hK.refl s⟩

theorem Steps.declareMissing {n : String} {frame : Address} (b : Binding) (hs : K.Inv s)
    (howns : K.Owns s frame) (hn : K.Free n) : K.Steps s (s.declareMissing frame n b) := by
  rcases s.declareMissing_eq frame n b with heq | heq <;> rw [heq]
  · exact .refl hK hs
  · exact hK.declare b hs howns hn

theorem lawful : K.pairing.Lawful where
  mirrors {s u} hs := by
    obtain ⟨rfl, -⟩ := hs
    exact Renaming.same_mirrors _
  refl := hK.refl
  trans := hK.trans
  grows := hK.grows
  exhausted := hK.exhausted
  failed := hK.failed
  admitsLater := hK.admitsLater
  passesLater := hK.passesLater
  ownsLater := hK.ownsLater
  admits := hK.admits
  part := hK.part
  call := hK.call
  closes := hK.closes
  free := hK.free
  freeRound := hK.freeRound
  targets := hK.targets
  resolve {s u c _ n} hs _ _ := by
    obtain ⟨rfl, -⟩ := hs
    cases u.resolve? c.scope n with
    | none => rfl
    | some r => rw [Option.map_some, show K.pairing.places.resolved r = r from Renaming.same_resolved r]
  visible _ _ _ _ _ := Renaming.same_visible _
  found := hK.found
  assign {s u c x n v frame b} hs hx hn hspecial _ hfound hb := by
    obtain ⟨rfl, hs⟩ := hs
    rw [places_value]
    exact (hK.assign v hs hx hn hspecial hfound hb).moves
  assignField {s u c x n v old a} hs _ _ _ _ := by
    obtain ⟨rfl, hs⟩ := hs
    rw [places_value]
    exact (hK.aside hs (.setField _ a n v) rfl rfl).moves
  special {s u c e one other} hs hx he h := by
    obtain ⟨rfl, hs⟩ := hs
    exact hK.special hs hx he h
  declaration {s u c kind ds d v} assignable hs hx hkind hd _ := by
    obtain ⟨rfl, hs⟩ := hs
    rw [places_value]
    exact (hK.declaration ⟨v, assignable⟩ hs hx hkind hd).moves
  declare {s u n v frame} assignable hs howns hn _ := by
    obtain ⟨rfl, hs⟩ := hs
    rw [places_value]
    exact (hK.declare ⟨v, assignable⟩ hs howns hn).moves
  declareMissing hs howns hn := by
    obtain ⟨rfl, hs⟩ := hs
    exact (Steps.declareMissing hK _ hs howns hn).moves
  addArray {s u items} hs _ := by
    obtain ⟨rfl, hs⟩ := hs
    rw [places_value_eq_id, Array.map_id]
    exact ⟨rfl, (hK.aside hs (.addArray _ items) rfl rfl).moves⟩
  addObject {s u fields} hs _ := by
    obtain ⟨rfl, hs⟩ := hs
    rw [show K.pairing.places.fields fields = fields from Renaming.same_fields fields]
    exact ⟨id, rfl, (hK.aside hs (.addObject _ fields) rfl rfl).moves⟩
  addMethod {s u m} hs _ := by
    obtain ⟨rfl, hs⟩ := hs
    rw [show K.pairing.places.method = id from Renaming.method_same]
    exact (hK.aside hs (.addMethod _ m) rfl rfl).moves
  addFunction hs hf := by
    obtain ⟨rfl, hs⟩ := hs
    exact (hK.addFunction hs hf).moves
  addFrame {s u kind} hs hkind := by
    obtain ⟨rfl, hs⟩ := hs
    rw [show K.pairing.places.kind kind = kind from Renaming.same_kind kind]
    have hglobal : kind ≠ .global := by
      rintro rfl
      exact hkind
    have hfunction : kind ≠ .function := by
      rintro rfl
      exact hkind
    obtain ⟨howns, hpasses, hsteps⟩ := hK.addFrame hs hglobal hfunction
    exact ⟨rfl, howns, hpasses, hsteps.moves⟩
  modifyArray {s u f f'} a hs _ hf := by
    obtain ⟨rfl, hs⟩ := hs
    have heq : f' = f := by
      funext items
      have hitems := hf items
      rw [places_value_eq_id, Array.map_id, Array.map_id] at hitems
      exact hitems
    rw [heq]
    exact (hK.aside hs (.modifyArray _ a f) rfl rfl).moves
  setField {s u a name v} hs _ _ := by
    obtain ⟨rfl, hs⟩ := hs
    rw [places_value]
    exact (hK.aside hs (.setField _ a name v) rfl rfl).moves
  print text hs hcall := by
    obtain ⟨rfl, hs⟩ := hs
    exact (hK.print text hs hcall).moves
  closure hs := by
    obtain ⟨rfl, hs⟩ := hs
    exact hK.closure hs
  enter hs hcall hk := by
    obtain ⟨rfl, hs⟩ := hs
    obtain ⟨howns, hsteps, hbody⟩ := hK.enter hs hcall hk
    exact ⟨rfl, howns, hsteps.moves, hbody⟩

omit hK in
/-- What has been kept by a computation, however it ends. -/
theorem steps_of_alike {α : Type} [Renamable α] {m m' : Run α} (h : K.pairing.Alike s u m m') :
    K.Steps s (m.run.run s).2 ∧ ∀ e, (m.run.run s).1 = .error e → K.Fails e := by
  unfold Pairing.Alike at h
  generalize m.run.run s = x at h ⊢
  generalize m'.run.run u = y at h
  cases h with
  | ok _ hmoves => exact ⟨⟨hmoves.holds.2, hmoves.goes⟩, nofun⟩
  | error hfails hmoves =>
    refine ⟨⟨hmoves.holds.2, hmoves.goes⟩, fun e he => ?_⟩
    cases he
    exact hfails

omit hK in
/-- A run in which everything is kept has the same end as itself. -/
theorem ends_of_steps {α : Type} [Renamable α] {x : Except Halt α × Store}
    (hsame : ∀ a : α, rename .same a = a) (hvisible : ∀ a : α, visible .same a)
    (hsteps : K.Steps s x.2) (hfails : ∀ e, x.1 = .error e → K.Fails e) : K.pairing.Ends s x x := by
  obtain ⟨_ | a, t⟩ := x
  · exact .error (hfails _ rfl) hsteps.moves
  · have hok := Pairing.Ends.ok (P := K.pairing) (hvisible a) hsteps.moves
    rw [show rename K.pairing.places a = a from hsame a] at hok
    exact hok

omit hK in
/-- A computation of which is known what it keeps. -/
theorem alike_of_steps {α : Type} [Renamable α] {m : Run α} (hsame : ∀ a : α, rename .same a = a)
    (hvisible : ∀ a : α, visible .same a) (hsteps : K.Steps s (m.run.run s).2)
    (hfails : ∀ e, (m.run.run s).1 = .error e → K.Fails e) : K.pairing.Alike s s m m :=
  ends_of_steps hsame hvisible hsteps hfails

/-- A program may be run in a store. -/
structure Starts (K : Keeping) (f : Function) (s : Store) : Prop where
  inv : K.Inv s
  owns : K.Owns s programFrame
  frame : programFrame < s.frames.size
  free : ∀ n ∈ f.names, K.Free n
  body : ∀ t, K.Goes s t → (∀ n ∈ f.declared, t.Declares programFrame n) →
    ∀ x ∈ f.body, K.Admits t programContext (.statement x)

variable {f : Function} {one other : Verdict}

omit hK in
/-- Two verdicts that are the same at all moments that the run can come to. -/
theorem judges
    (hrun : ∀ (s : Store) (c : Context) (x : Code), K.Inv s → K.Admits s c x →
      one ⟨c, .run x, s⟩ = other ⟨c, .run x, s⟩ ∧
        (one ⟨c, .run x, s⟩ = none → K.Passes s c x) ∧
        ∀ halt, one ⟨c, .run x, s⟩ = some halt → K.Fails halt)
    (hcall : ∀ (s : Store) (c : Context) (g : Value) (args : List Value), K.Inv s → K.AdmitsCall c →
      one ⟨c, .call g args, s⟩ = other ⟨c, .call g args, s⟩ ∧
        (one ⟨c, .call g args, s⟩ = none → K.PassesCall s c g) ∧
        ∀ halt, one ⟨c, .call g args, s⟩ = some halt → K.Fails halt) :
    K.pairing.Judges one other where
  run {s u c x} hs hx := by
    obtain ⟨rfl, hs⟩ := hs
    obtain ⟨heq, hpasses, hfails⟩ := hrun u c x hs hx
    rw [← heq]
    cases hone : one ⟨c, .run x, u⟩ with
    | none => exact Or.inl ⟨rfl, rfl, hpasses hone⟩
    | some halt => exact Or.inr ⟨halt, hfails halt hone, rfl, rfl⟩
  call {s u c g args} hs hc _ _ := by
    obtain ⟨rfl, hs⟩ := hs
    obtain ⟨heq, hpasses, hfails⟩ := hcall u c g args hs hc
    rw [places_value_eq_id, List.map_id, id, ← heq]
    cases hone : one ⟨c, .call g args, u⟩ with
    | none => exact Or.inl ⟨rfl, rfl, hpasses hone⟩
    | some halt => exact Or.inr ⟨halt, hfails halt hone, rfl, rfl⟩

/-- Runs of a program that are judged by such verdicts end in the same way, and not otherwise than
they may. -/
theorem renderWith_judging (hjudges : K.pairing.Judges one other) {data : Json}
    (hstart : K.Starts f (initialStore.addJson data).2) (bound : Nat) :
    f.renderWith (.judging one bound) data = f.renderWith (.judging other bound) data ∧
      ∀ e, f.renderWith (.judging one bound) data = .error e → K.Fails e := by
  have hargs : ∀ v ∈ [(initialStore.addJson data).1], K.pairing.places.Visible v :=
    fun v _ => Renaming.same_visible v
  have halike := Evaluator.alike_runWith (lawful hK)
    (Evaluator.agree_judging (lawful hK) hjudges bound) ⟨rfl, hstart.inv⟩ hstart.owns hstart.frame
    hstart.free hargs hstart.body
  rw [places_value_eq_id, List.map_id] at halike
  exact ⟨(Pairing.Ends.result_eq halike).symm, (steps_of_alike halike).2⟩

/-- What the run can come to is of the kind that all moments of the program are. -/
theorem always {kind : Moment → Prop}
    (hrun : ∀ (s : Store) (c : Context) (x : Code), K.Inv s → K.Admits s c x →
      kind ⟨c, .run x, s⟩ ∧ K.Passes s c x)
    (hcall : ∀ (s : Store) (c : Context) (g : Value) (args : List Value), K.Inv s → K.AdmitsCall c →
      kind ⟨c, .call g args, s⟩ ∧ K.PassesCall s c g)
    (hstart : ∀ data, K.Starts f (initialStore.addJson data).2) : f.Always kind := by
  intro verdict hverdict bound data
  have hjudges : K.pairing.Judges verdict fun _ => none := by
    refine judges (fun s c x hs hx => ?_) fun s c g args hs hc => ?_
    · obtain ⟨hkind, hpasses⟩ := hrun s c x hs hx
      rw [hverdict _ hkind]
      exact ⟨rfl, fun _ => hpasses, nofun⟩
    · obtain ⟨hkind, hpasses⟩ := hcall s c g args hs hc
      rw [hverdict _ hkind]
      exact ⟨rfl, fun _ => hpasses, nofun⟩
  rw [(renderWith_judging hK hjudges (hstart data) bound).1, Evaluator.judging_none,
    Function.renderWith_within]

/-- Nothing is known but that the store grows. -/
def growing : Keeping where
  Inv _ := True
  Admits _ _ _ := True
  Closes _ _ _ := True

omit hK in
theorem growing_lawful : growing.Lawful where
  refl := .refl
  trans := .trans
  grows := id
  exhausted := trivial
  failed _ := trivial
  admitsLater _ := id
  passesLater _ := id
  ownsLater _ := id
  admits := id
  part _ _ := trivial
  call _ := trivial
  closes _ _ := trivial
  free _ _ _ := trivial
  freeRound _ := trivial
  targets _ _ _ := Or.inr trivial
  found _ _ _ := trivial
  special _ _ hspecial := hspecial.elim
  assign _ _ _ _ _ _ _ := ⟨trivial, .declare ..⟩
  declaration _ _ _ _ _ := ⟨trivial, .declare ..⟩
  declare _ _ _ _ := ⟨trivial, .declare ..⟩
  aside _ hgrows _ _ := ⟨trivial, hgrows⟩
  addFunction _ _ := ⟨trivial, .addFunction ..⟩
  addFrame _ _ _ := ⟨trivial, fun _ _ => id, trivial, .addFrame ..⟩
  print _ _ _ := ⟨trivial, .append ..⟩
  closure _ _ := trivial
  enter _ _ _ := ⟨trivial, ⟨trivial, .addFrame ..⟩, fun _ _ _ _ _ => trivial⟩

omit hK in
/-- Evaluation lets the store only grow. -/
theorem grows_eval (verdict : Verdict) (bound : Nat) (c : Context) (e : Expr) (s : Store) :
    s.Grows (((Evaluator.judging verdict bound).eval c e).run.run s).2 := by
  have hjudges : growing.pairing.Judges verdict verdict :=
    judges (fun _ _ _ _ _ => ⟨rfl, fun _ => trivial, fun _ _ => trivial⟩)
      fun _ _ _ _ _ _ => ⟨rfl, fun _ => trivial, fun _ _ => trivial⟩
  exact (steps_of_alike ((Evaluator.agree_judging (lawful growing_lawful) hjudges bound).eval
    (s := s) ⟨rfl, trivial⟩ trivial)).1.goes

end Keeping

end Microtemplate.Script
