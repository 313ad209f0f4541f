import Microtemplate.Proofs.Script.Growth
import Microtemplate.Proofs.Script.Moments
import Microtemplate.Proofs.Script.Renaming

/-!
Two runs side by side. Whatever is done in both runs at once ends in the same way: with the same error,
or with values that are the same at the addresses of the two stores. A pairing says what holds of the
two stores at every moment, how the first one goes on, which code may be run in a context and which
errors may end the runs; its laws say that no single step leads out of it. If every store is paired
with itself, a pairing says what one run keeps.
-/

namespace Microtemplate.Script

/-- Whether an error can be about a name or a target, and not about a value. -/
def RenderError.isOfCode : RenderError → Bool
  | .notDefined _ | .notAssignable _ => true
  | _ => false

/-- What values of a type become in another store, and which of them a program may come by. -/
class Renamable (α : Type) where
  visible : Renaming → α → Prop
  rename : Renaming → α → α

namespace Renamable

instance : Renamable Value := ⟨Renaming.Visible, Renaming.value⟩

instance : Renamable Unit := ⟨fun _ _ => True, fun _ => id⟩

instance : Renamable String := ⟨fun _ _ => True, fun _ => id⟩

instance : Renamable Bool := ⟨fun _ _ => True, fun _ => id⟩

instance : Renamable Float := ⟨fun _ _ => True, fun _ => id⟩

instance {α : Type} [Renamable α] : Renamable (List α) :=
  ⟨fun r as => ∀ a ∈ as, visible r a, fun r as => as.map (rename r)⟩

instance {α : Type} [Renamable α] : Renamable (Option α) :=
  ⟨fun r o => ∀ a ∈ o, visible r a, fun r o => o.map (rename r)⟩

instance {α β : Type} [Renamable α] [Renamable β] : Renamable (α × β) :=
  ⟨fun r p => visible r p.1 ∧ visible r p.2, fun r p => (rename r p.1, rename r p.2)⟩

instance : Renamable Completion where
  visible r
    | .returned v => r.Visible v
    | _ => True
  rename r
    | .returned v => .returned (r.value v)
    | x => x

end Renamable

open Renamable (visible rename)

/-- What two runs have in common. -/
structure Pairing where
  places : Renaming
  /-- What the two stores have in common at every moment. -/
  Holds : Store → Store → Prop
  /-- How the first store may go on. -/
  Goes : Store → Store → Prop
  /-- Whether a run may come to code in a context. -/
  Admits : Store → Context → Code → Prop
  /-- What is known besides when the run goes on with the code. -/
  Passes : Store → Context → Code → Prop
  /-- Whether a run may come to a call in a context. -/
  AdmitsCall : Context → Prop
  /-- What is known besides when the run goes on with the call of a value. -/
  PassesCall : Store → Context → Value → Prop
  /-- Whether a function may be made with a scope. -/
  Closes : Store → Scope → Function → Prop
  /-- Whether names may be declared in a frame at any time. -/
  Owns : Store → Address → Prop
  /-- The names that may be declared in such frames. -/
  Free : String → Prop
  /-- The expressions that are dealt with as a whole. -/
  Special : Expr → Prop
  /-- How the runs may end early. -/
  Fails : Halt → Prop

namespace Pairing

variable (P : Pairing) {α β : Type} [Renamable α] [Renamable β]

/-- The first store has gone on, and the two have still in common what they should. -/
structure Moves (s t u : Store) : Prop where
  holds : P.Holds t u
  goes : P.Goes s t

/-- The two runs have come to code in a context, and go on with it. -/
structure At (s u : Store) (c : Context) (x : Code) : Prop where
  holds : P.Holds s u
  passes : P.Passes s c x

/-- From one store on, the two runs have ended in the same way. -/
inductive Ends (s : Store) : Except Halt α × Store → Except Halt α × Store → Prop
  | ok {a : α} {t u : Store} : visible P.places a → P.Moves s t u →
      Ends s (.ok a, t) (.ok (rename P.places a), u)
  | error {e : Halt} {t u : Store} : P.Fails e → P.Moves s t u → Ends s (.error e, t) (.error e, u)

/-- From one pair of stores on, two computations end in the same way. -/
def Alike (s u : Store) (m m' : Run α) : Prop := P.Ends s (m.run.run s) (m'.run.run u)

/-- Two computations end in the same way, from whatever pair of stores. -/
def Twins (m m' : Run α) : Prop := ∀ s u : Store, P.Holds s u → P.Alike s u m m'

/-- Two evaluators do the same with whatever they may come to. -/
structure Agree (one other : Evaluator) : Prop where
  rounds : one.rounds = other.rounds
  eval : ∀ {s u : Store} {c : Context} {e : Expr}, P.Holds s u → P.Admits s c (.expression e) →
    P.Alike s u (one.eval c e) (other.eval c e)
  exec : ∀ {s u : Store} {c : Context} {x : Stmt}, P.Holds s u → P.Admits s c (.statement x) →
    P.Alike s u (one.exec c x) (other.exec c x)
  call : ∀ {c : Context} {f : Value} {args : List Value}, P.AdmitsCall c → P.places.Visible f →
    (∀ v ∈ args, P.places.Visible v) →
    P.Twins (one.call c f args) (other.call c (P.places.value f) (args.map P.places.value))

end Pairing

/-- The kinds of frames that code makes. -/
def Renaming.VisibleKind (r : Renaming) : FrameKind → Prop
  | .within v => r.Visible v
  | .block => True
  | _ => False

/-- Where a name is found in the other store. -/
def Renaming.resolved (r : Renaming) : Resolved → Resolved
  | .property owner v => .property (r.value owner) (r.value v)
  | .binding frame b => .binding frame ⟨r.value b.value, b.assignable⟩

theorem Renaming.value_resolved (r : Renaming) (x : Resolved) :
    (r.resolved x).value = r.value x.value := by
  cases x <;> rfl

theorem Renaming.same_resolved (x : Resolved) : same.resolved x = x := by
  cases x <;> simp only [resolved, same_value]

/-- No single step leads out of a pairing. -/
structure Pairing.Lawful (P : Pairing) : Prop where
  mirrors : ∀ {s u : Store}, P.Holds s u → P.places.Mirrors s u
  refl : ∀ s : Store, P.Goes s s
  trans : ∀ {s t w : Store}, P.Goes s t → P.Goes t w → P.Goes s w
  grows : ∀ {s t : Store}, P.Goes s t → s.Grows t
  exhausted : P.Fails .exhausted
  failed : ∀ {e : RenderError}, e.isOfCode = false → P.Fails (.failed e)
  admitsLater : ∀ {s t : Store} {c : Context} {x : Code}, P.Goes s t → P.Admits s c x → P.Admits t c x
  passesLater : ∀ {s t : Store} {c : Context} {x : Code}, P.Goes s t → P.Passes s c x → P.Passes t c x
  ownsLater : ∀ {s t : Store} {a : Address}, P.Goes s t → P.Owns s a → P.Owns t a
  admits : ∀ {s : Store} {c : Context} {x : Code}, P.Passes s c x → P.Admits s c x
  part : ∀ {s : Store} {c : Context} {x y : Code}, P.Admits s c x → y ∈ x.parts → P.Admits s c y
  call : ∀ {s : Store} {c : Context} {x : Code}, P.Admits s c x → P.AdmitsCall c
  closes : ∀ {s : Store} {c : Context} {x : Code} {f : Function}, P.Admits s c x → f ∈ x.functions →
    P.Closes s c.scope f
  free : ∀ {s : Store} {scope : Scope} {f : Function}, P.Closes s scope f → ∀ n ∈ f.names, P.Free n
  freeRound : ∀ {s : Store} {c : Context} {binding : LoopBinding} {e : Expr} {body : Stmt},
    P.Passes s c (.statement (.loopOf binding e body)) ∨
      P.Passes s c (.statement (.loopIn binding e body)) → P.Free binding.name
  targets : ∀ {s : Store} {c : Context} {x : Code}, P.Passes s c x → ∀ e ∈ x.targets,
    e.isTarget = true ∨ P.Fails (.failed (.notAssignable e.describe))
  resolve : ∀ {s u : Store} {c : Context} {x : Code} {n : String}, P.Holds s u → P.Passes s c x →
    n ∈ x.reads ∨ n ∈ x.probes ∨ n ∈ x.writes →
    u.resolve? c.scope n = (s.resolve? c.scope n).map P.places.resolved
  visible : ∀ {s u : Store} {c : Context} {x : Code} {n : String}, P.Holds s u → P.Passes s c x →
    n ∈ x.reads → ∀ r ∈ s.resolve? c.scope n, P.places.Visible r.value
  found : ∀ {s : Store} {c : Context} {x : Code} {n : String}, P.Passes s c x →
    n ∈ x.reads ∨ n ∈ x.writes → s.resolve? c.scope n = none → P.Fails (.failed (.notDefined n))
  assign : ∀ {s u : Store} {c : Context} {x : Code} {n : String} {v : Value} {frame : Address}
    {b : Binding}, P.Holds s u → P.Passes s c x → n ∈ x.writes →
    (∀ e, x = .expression e → ¬ P.Special e) → P.places.Visible v →
    s.resolve? c.scope n = some (.binding frame b) → b.assignable = true →
    P.Moves s (s.declare frame n ⟨v, true⟩) (u.declare frame n ⟨P.places.value v, true⟩)
  assignField : ∀ {s u : Store} {c : Context} {x : Code} {n : String} {v old : Value} {a : Address},
    P.Holds s u → P.Passes s c x → n ∈ x.writes → P.places.Visible v →
    s.resolve? c.scope n = some (.property (.object a) old) →
    P.Moves s (s.modifyObject a (·.set n v))
      (u.modifyObject (P.places.objects a) (·.set n (P.places.value v)))
  special : ∀ {s u : Store} {c : Context} {e : Expr} {one other : Evaluator}, P.Holds s u →
    P.Passes s c (.expression e) → P.Special e → P.Agree one other →
    P.Alike s u (one.evalStep c e) (other.evalStep c e)
  declaration : ∀ {s u : Store} {c : Context} {kind : DeclarationKind} {ds : List Declarator}
    {d : Declarator} {v : Value} (assignable : Bool), P.Holds s u →
    P.Passes s c (.statement (.declaration kind ds)) → kind ≠ .functionWide → d ∈ ds →
    P.places.Visible v → P.Moves s (s.declare (Evaluator.innermost c) d.name ⟨v, assignable⟩)
      (u.declare (Evaluator.innermost c) d.name ⟨P.places.value v, assignable⟩)
  declare : ∀ {s u : Store} {n : String} {v : Value} {frame : Address} (assignable : Bool),
    P.Holds s u → P.Owns s frame → P.Free n → P.places.Visible v →
    P.Moves s (s.declare frame n ⟨v, assignable⟩) (u.declare frame n ⟨P.places.value v, assignable⟩)
  declareMissing : ∀ {s u : Store} {n : String} {frame : Address}, P.Holds s u → P.Owns s frame →
    P.Free n → P.Moves s (s.declareMissing frame n ⟨.undefined, true⟩)
      (u.declareMissing frame n ⟨.undefined, true⟩)
  addArray : ∀ {s u : Store} {items : Array Value}, P.Holds s u →
    (∀ v ∈ items, P.places.Visible v) → P.places.arrays s.arrays.size = u.arrays.size ∧
      P.Moves s (s.addArray items).2 (u.addArray (items.map P.places.value)).2
  addObject : ∀ {s u : Store} {fields : Fields Value}, P.Holds s u →
    (∀ p ∈ fields, P.places.Visible p.2) → ¬ P.places.hidden s.objects.size ∧
      P.places.objects s.objects.size = u.objects.size ∧
      P.Moves s (s.addObject fields).2 (u.addObject (P.places.fields fields)).2
  addMethod : ∀ {s u : Store} {m : BoundMethod}, P.Holds s u → P.places.Visible m.receiver →
    P.Moves s (s.addMethod m).2 (u.addMethod (P.places.method m)).2
  addFunction : ∀ {s u : Store} {scope : Scope} {f : Function}, P.Holds s u → P.Closes s scope f →
    P.Moves s (s.addFunction ⟨f, scope⟩).2 (u.addFunction ⟨f, scope⟩).2
  addFrame : ∀ {s u : Store} {kind : FrameKind}, P.Holds s u → P.places.VisibleKind kind →
    u.frames.size = s.frames.size ∧ P.Owns (s.addFrame kind).2 s.frames.size ∧
      (∀ c x, P.Passes s c x → P.Passes (s.addFrame kind).2 (c.push s.frames.size) x) ∧
      P.Moves s (s.addFrame kind).2 (u.addFrame (P.places.kind kind)).2
  modifyArray : ∀ {s u : Store} {f f' : Array Value → Array Value} (a : Address), P.Holds s u →
    (∀ items, (∀ v ∈ items, P.places.Visible v) → ∀ v ∈ f items, P.places.Visible v) →
    (∀ items, f' (items.map P.places.value) = (f items).map P.places.value) →
    P.Moves s (s.modifyArray a f) (u.modifyArray (P.places.arrays a) f')
  setField : ∀ {s u : Store} {a : Address} {name : String} {v : Value}, P.Holds s u →
    P.places.Visible v → ¬ P.places.hidden a →
    P.Moves s (s.modifyObject a (·.set name v))
      (u.modifyObject (P.places.objects a) (·.set name (P.places.value v)))
  print : ∀ {s u : Store} {c : Context} (text : String), P.Holds s u →
    P.PassesCall s c (.builtin .print) →
    P.Moves s (s.append c.output outputName text) (u.append c.output outputName text)
  closure : ∀ {s u : Store} {a : Address} {k : Closure}, P.Holds s u → s.functions[a]? = some k →
    P.Closes s k.scope k.code
  enter : ∀ {s u : Store} {c : Context} {a : Address} {k : Closure}, P.Holds s u →
    P.PassesCall s c (.function a) → s.functions[a]? = some k →
    u.frames.size = s.frames.size ∧ P.Owns (s.addFrame .function).2 s.frames.size ∧
      P.Moves s (s.addFrame .function).2 (u.addFrame .function).2 ∧
      ∀ t, P.Goes (s.addFrame .function).2 t → (∀ n ∈ k.code.declared, t.Declares s.frames.size n) →
        ∀ x ∈ k.code.body,
          P.Admits t ⟨s.frames.size :: k.scope, c.depth + 1, c.output⟩ (.statement x)

namespace Pairing

variable {P : Pairing} (hP : P.Lawful) {α β : Type} [Renamable α] [Renamable β]
  {m m' : Run α} {f f' : α → Run β} {s t u w : Store}

include hP

theorem Moves.refl (h : P.Holds s u) : P.Moves s s u := ⟨h, hP.refl s⟩

/-- Once the runs may come to code, they may do so later. -/
theorem At.later {c : Context} {x : Code} (h : P.At s u c x) (h' : P.Moves s t w) : P.At t w c x :=
  ⟨h'.holds, hP.passesLater h'.goes h.passes⟩

omit hP in
/-- Runs that end in the same way give the same text or the same error. -/
theorem Ends.result_eq {x y : Except Halt String × Store} (h : P.Ends s x y) : y.1 = x.1 := by
  cases h <;> rfl

theorem Ends.trans {x y : Except Halt α × Store} (h : P.Goes s t) (h' : P.Ends t x y) :
    P.Ends s x y := by
  cases h' with
  | ok hvisible hmoves => exact .ok hvisible ⟨hmoves.holds, hP.trans h hmoves.goes⟩
  | error hfails hmoves => exact .error hfails ⟨hmoves.holds, hP.trans h hmoves.goes⟩

namespace Alike

theorem pure {a : α} (hs : P.Holds s u) (h : visible P.places a) :
    P.Alike s u (Pure.pure a) (Pure.pure (rename P.places a)) := .ok h (.refl hP hs)

theorem throw {e : Halt} (hs : P.Holds s u) (h : P.Fails e) :
    P.Alike s u (throw e : Run α) (throw e) := .error h (.refl hP hs)

theorem fail {e : RenderError} (hs : P.Holds s u) (h : e.isOfCode = false) :
    P.Alike s u (Run.fail e : Run α) (Run.fail e) := throw hP hs (hP.failed h)

/-- Two computations in a row, where it matters what the first one has done. -/
theorem bindRun (h : P.Alike s u m m') (h' : ∀ a t w, m.run.run s = (.ok a, t) →
    visible P.places a → P.Moves s t w → P.Alike t w (f a) (f' (rename P.places a))) :
    P.Alike s u (m >>= f) (m' >>= f') := by
  unfold Alike at h ⊢
  rw [Run.run_bind, Run.run_bind]
  generalize m.run.run s = x at h h' ⊢
  generalize m'.run.run u = y at h ⊢
  cases h with
  | ok hvisible hmoves => exact .trans hP hmoves.goes (h' _ _ _ rfl hvisible hmoves)
  | error hfails hmoves => exact .error hfails hmoves

/-- Two computations in a row. -/
theorem bind (h : P.Alike s u m m') (h' : ∀ a t w, visible P.places a → P.Moves s t w →
    P.Alike t w (f a) (f' (rename P.places a))) : P.Alike s u (m >>= f) (m' >>= f') :=
  bindRun hP h fun a t w _ => h' a t w

omit hP in
theorem read {γ δ : Type} {g : Store → γ} {g' : Store → δ} {k : γ → Run β} {k' : δ → Run β}
    (h : P.Alike s u (k (g s)) (k' (g' u))) :
    P.Alike s u (Run.read g >>= k) (Run.read g' >>= k') := h

theorem value {g g' : Store → α} (hs : P.Holds s u) (hvisible : visible P.places (g s))
    (heq : g' u = rename P.places (g s)) : P.Alike s u (Run.read g) (Run.read g') := by
  change P.Ends s (.ok (g s), s) (.ok (g' u), u)
  rw [heq]
  exact .ok hvisible (.refl hP hs)

/-- A change of the store, and what is done after it. -/
theorem change {g g' : Store → Store} {k k' : Unit → Run β} (h : P.Moves s (g s) (g' u))
    (hk : P.Alike (g s) (g' u) (k ()) (k' ())) :
    P.Alike s u (Run.change g >>= k) (Run.change g' >>= k') := Ends.trans hP h.goes hk

/-- An addition to the store, and what is done after it. -/
theorem add {γ : Type} {g g' : Store → γ × Store} {k k' : γ → Run β}
    (h : P.Moves s (g s).2 (g' u).2) (hk : P.Alike (g s).2 (g' u).2 (k (g s).1) (k' (g' u).1)) :
    P.Alike s u (Run.add g >>= k) (Run.add g' >>= k') := Ends.trans hP h.goes hk

omit hP in
theorem added {g g' : Store → α × Store} (hvisible : visible P.places (g s).1)
    (heq : (g' u).1 = rename P.places (g s).1) (h : P.Moves s (g s).2 (g' u).2) :
    P.Alike s u (Run.add g) (Run.add g') := by
  change P.Ends s (.ok (g s).1, (g s).2) (.ok (g' u).1, (g' u).2)
  rw [heq]
  exact .ok hvisible h

/-- A computation for each of several things in a row. -/
theorem mapM {γ : Type} {g g' : γ → Run β} {as : List γ} (hs : P.Holds s u)
    (h : ∀ a ∈ as, ∀ t w, P.Moves s t w → P.Alike t w (g a) (g' a)) :
    P.Alike s u (as.mapM g) (as.mapM g') := by
  induction as generalizing s u with
  | nil =>
    rw [List.mapM_nil, List.mapM_nil]
    exact .pure hP hs (a := []) (fun _ hb => absurd hb List.not_mem_nil)
  | cons a as ih =>
    obtain ⟨ha, has⟩ := List.forall_mem_cons.mp h
    rw [List.mapM_cons, List.mapM_cons]
    refine .bind hP (ha s u (.refl hP hs)) fun b t w hb hmoves => ?_
    refine .bind hP (ih hmoves.holds fun a' ha' t' w' hmoves' =>
      has a' ha' t' w' ⟨hmoves'.holds, hP.trans hmoves.goes hmoves'.goes⟩) fun bs t w hbs hmoves => ?_
    exact .pure hP hmoves.holds (a := b :: bs) (List.forall_mem_cons.mpr ⟨hb, hbs⟩)

end Alike

namespace Twins

theorem pure {a : α} (h : visible P.places a) :
    P.Twins (Pure.pure a) (Pure.pure (rename P.places a)) := fun _ _ hs => .pure hP hs h

theorem fail {e : RenderError} (h : e.isOfCode = false) :
    P.Twins (Run.fail e : Run α) (Run.fail e) := fun _ _ hs => .fail hP hs h

theorem bind (h : P.Twins m m')
    (h' : ∀ a, visible P.places a → P.Twins (f a) (f' (rename P.places a))) :
    P.Twins (m >>= f) (m' >>= f') :=
  fun s u hs => .bind hP (h s u hs) fun a _ _ ha hmoves => h' a ha _ _ hmoves.holds

omit hP in
theorem read {γ δ : Type} {g : Store → γ} {g' : Store → δ} {k : γ → Run β} {k' : δ → Run β}
    (h : ∀ s u, P.Holds s u → P.Twins (k (g s)) (k' (g' u))) :
    P.Twins (Run.read g >>= k) (Run.read g' >>= k') := fun s u hs => h s u hs s u hs

theorem value {g g' : Store → α} (h : ∀ s u, P.Holds s u → visible P.places (g s) ∧
    g' u = rename P.places (g s)) : P.Twins (Run.read g) (Run.read g') :=
  fun s u hs => .value hP hs (h s u hs).1 (h s u hs).2

omit hP in
theorem change {g g' : Store → Store} (h : ∀ s u, P.Holds s u → P.Moves s (g s) (g' u)) :
    P.Twins (Run.change g) (Run.change g') := fun s u hs => .ok trivial (h s u hs)

omit hP in
theorem add {g g' : Store → α × Store} (h : ∀ s u, P.Holds s u → visible P.places (g s).1 ∧
      (g' u).1 = rename P.places (g s).1 ∧ P.Moves s (g s).2 (g' u).2) :
    P.Twins (Run.add g) (Run.add g') :=
  fun s u hs => .added (h s u hs).1 (h s u hs).2.1 (h s u hs).2.2

end Twins

end Pairing

end Microtemplate.Script
