import Microtemplate.Script.Program

/-!
Runs that give a value. What a computation does from a store on is put together from what its parts
do, one statement for each kind of expression and statement.
-/

namespace Microtemplate.Script

namespace Run

variable {α β : Type}

theorem run_bind (m : Run α) (f : α → Run β) (s : Store) : (m >>= f).run.run s =
    match m.run.run s with
    | (.ok a, t) => (f a).run.run t
    | (.error e, t) => (.error e, t) := by
  change (match m.run.run s with
    | (r, s') => ExceptT.bindCont f r s') = _
  obtain ⟨r, t⟩ := m.run.run s
  cases r <;> rfl

theorem run_bind_error {m : Run α} {s t : Store} {e : Halt} (h : m.run.run s = (.error e, t))
    (f : α → Run β) : (m >>= f).run.run s = (.error e, t) := by
  rw [run_bind, h]

/-- What gives a value has given one in each part. -/
theorem exists_of_run_bind {m : Run α} {f : α → Run β} {s t : Store} {b : β}
    (h : (m >>= f).run.run s = (.ok b, t)) :
    ∃ a u, m.run.run s = (.ok a, u) ∧ (f a).run.run u = (.ok b, t) := by
  rw [run_bind] at h
  split at h
  · exact ⟨_, _, by assumption, h⟩
  · cases h

theorem run_read (g : Store → α) (f : α → Run β) (s : Store) :
    (Run.read g >>= f).run.run s = (f (g s)).run.run s := rfl

end Run

/-- A computation gives a value and leaves a store behind. -/
def Run.Gives {α : Type} (m : Run α) (s : Store) (a : α) (t : Store) : Prop :=
  m.run.run s = (.ok a, t)

namespace Run.Gives

variable {α β : Type} {s t u : Store}

theorem pure (a : α) : Gives (pure a) s a s := rfl

theorem bind {m : Run α} {f : α → Run β} {a : α} {b : β} (h : m.Gives s a t)
    (h' : (f a).Gives t b u) : (m >>= f).Gives s b u := by
  have hm : m s = (.ok a, t) := h
  have hbind : (m >>= f) s = (f a) t := by
    change (match m s with
      | (r, s') => ExceptT.bindCont f r s') = _
    rw [hm]
    rfl
  exact hbind.trans h'

theorem run_bind {m : Run α} {a : α} (h : m.Gives s a t) (f : α → Run β) :
    (m >>= f).run.run s = (f a).run.run t := by
  have hm : m.run.run s = (.ok a, t) := h
  rw [Run.run_bind, hm]

theorem read (f : Store → α) : (Run.read f).Gives s (f s) s := rfl

theorem change (f : Store → Store) : (Run.change f).Gives s () (f s) := rfl

theorem add (f : Store → α × Store) : (Run.add f).Gives s (f s).1 (f s).2 := rfl

end Run.Gives

/-- A text and any value are joined. -/
theorem binary_add_string (s : Store) (x : String) (v : Value) :
    s.binary .add (.string x) v = .string (x ++ s.text v) := by
  cases v <;> rfl

theorem binary_string_add (s : Store) (v : Value) (y : String) :
    s.binary .add v (.string y) = .string (s.text v ++ y) := by
  cases v <;> rfl

section

variable {n : Nat} {c : Context} {s t u w : Store} {v x y : Value} {a b e : Expr} {name : String}

theorem eval_string (text : String) : (eval (n + 1) c (.string text)).Gives s (.string text) s := rfl

theorem eval_null : (eval (n + 1) c .null).Gives s .null s := rfl

theorem lookup_gives (h : s.lookup? c.scope name = some v) :
    (Run.lookup c.scope name).Gives s v s := by
  refine .bind (.read _) ?_
  rw [h]
  exact .pure v

theorem assign_gives {frame : Address} {old : Binding} (hold : old.assignable = true)
    (h : s.resolve? c.scope name = some (.binding frame old)) (v : Value) :
    (Run.assign c.scope name v).Gives s () (s.declare frame name ⟨v, true⟩) := by
  refine .bind (.read _) ?_
  rw [h]
  simp only [hold, if_true]
  exact .change _

theorem eval_identifier (h : s.lookup? c.scope name = some v) :
    (eval (n + 1) c (.identifier name)).Gives s v s := lookup_gives h

theorem eval_member (hv : (eval n c a).Gives s v t)
    (hx : (Run.readProperty v name).Gives t x u) :
    (eval (n + 1) c (.member a name)).Gives s x u := hv.bind hx

theorem eval_binary {op : BinaryOp} (hx : (eval n c a).Gives s x t)
    (hy : (eval n c b).Gives t y u) :
    (eval (n + 1) c (.binary op a b)).Gives s (u.binary op x y) u := hx.bind (hy.bind (.read _))

theorem eval_logical {op : LogicalOp} (hx : (eval n c a).Gives s x t)
    (hdecides : Evaluator.decides op x = true) :
    (eval (n + 1) c (.logical op a b)).Gives s x t := by
  refine hx.bind ?_
  rw [if_pos hdecides]
  exact .pure x

theorem eval_conditional (hv : (eval n c e).Gives s v t)
    (hx : (eval n c (if v.truthy then a else b)).Gives t x u) :
    (eval (n + 1) c (.conditional e a b)).Gives s x u := by
  refine hv.bind ?_
  split at hx
  · rename_i h
    rw [if_pos h]
    exact hx
  · rename_i h
    rw [if_neg h]
    exact hx

theorem eval_assign (hv : (eval n c e).Gives s v t)
    (hassign : (Run.assign c.scope name v).Gives t () u) :
    (eval (n + 1) c (.assign none (.identifier name) e)).Gives s v u :=
  .bind (.pure _) (hv.bind (hassign.bind (.pure v)))

theorem eval_plusAssign {op : BinaryOp} (hcurrent : s.lookup? c.scope name = some x)
    (hv : (eval n c e).Gives s v t)
    (hassign : (Run.assign c.scope name (t.binary op x v)).Gives t () u) :
    (eval (n + 1) c (.assign (some op) (.identifier name) e)).Gives s (t.binary op x v) u := by
  have hread : (Evaluator.readTarget c (.name name)).Gives s x s := lookup_gives hcurrent
  exact .bind (.pure _) (hread.bind (hv.bind (.bind (.read _) (hassign.bind (.pure _)))))

theorem eval_call (hv : (eval n c a).Gives s v t) (hx : (eval n c e).Gives t x u)
    (hcallable : v.isCallable = true) (hcall : (call n c v [x]).Gives u y w) :
    (eval (n + 1) c (.call a [e])).Gives s y w := by
  refine hv.bind (.bind (a := [x]) (hx.bind (.pure _)) ?_)
  rw [if_pos hcallable]
  exact hcall

theorem getElem?_addMethod (s : Store) (m : BoundMethod) :
    (s.addMethod m).2.methods[s.methods.size]? = some m := by
  simp [Store.addMethod]

/-- Calling a bound method is running it. -/
theorem callStep_method {self : Evaluator} {m : Address} {bound : BoundMethod} {args : List Value}
    (hm : s.methods[m]? = some bound) (hrun : (bound.run (self.call c) args).Gives s v t) :
    (self.callStep c (.method m) args).Gives s v t := by
  refine .bind (.read _) ?_
  rw [hm]
  exact hrun

theorem exec_expression (hv : (eval n c e).Gives s v t) :
    (exec (n + 1) c (.expression e)).Gives s .normal t := hv.bind (.pure _)

theorem exec_returning (hv : (eval n c e).Gives s v t) :
    (exec (n + 1) c (.returning (some e))).Gives s (.returned v) t := hv.bind (.pure _)

end

end Microtemplate.Script
