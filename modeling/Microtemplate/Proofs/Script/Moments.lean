import Microtemplate.Proofs.Script.CallNesting
import Microtemplate.Proofs.Script.Code

/-!
The moments of a run. A run comes to a moment whenever it starts to evaluate an expression, to execute
a statement or to call a value. A judged run ends at the first moment that its verdict is against; with
a verdict that is never against a moment it is the run itself. So what holds at every moment of a run
is what no judged run ends for, and the stores in which judged runs end are those that the run comes
through.
-/

namespace Microtemplate.Script

/-- What is done at a moment. -/
inductive Act where
  | run (x : Code)
  | call (f : Value) (args : List Value)

/-- A moment of a run: where it is, what is done next, and what there is so far. -/
structure Moment where
  context : Context
  act : Act
  store : Store

/-- Whether a run ends at a moment, and how. -/
abbrev Verdict := Moment → Option Halt

namespace Evaluator

/-- Goes on unless the verdict is against this moment. -/
def judged {α : Type} (verdict : Verdict) (c : Context) (act : Act) (m : Run α) : Run α := do
  match ← Run.read fun s => verdict ⟨c, act, s⟩ with
  | some halt => throw halt
  | none => m

/-- The evaluators with a bound on the depth of steps in a run that is judged at every moment. -/
def judging (verdict : Verdict) : Nat → Evaluator
  | 0 => ⟨0, fun _ _ => throw .exhausted, fun _ _ => throw .exhausted,
      fun _ _ _ => throw .exhausted⟩
  | bound + 1 =>
    ⟨bound + 1,
      fun c e => judged verdict c (.run (.expression e)) ((judging verdict bound).evalStep c e),
      fun c s => judged verdict c (.run (.statement s)) ((judging verdict bound).execStep c s),
      fun c f args => judged verdict c (.call f args) ((judging verdict bound).callStep c f args)⟩

/-- Without a verdict against any moment a run is as it would be. -/
theorem judging_none (bound : Nat) : judging (fun _ => none) bound = within bound := by
  induction bound with
  | zero => rfl
  | succ bound ih =>
    have hjudged : ∀ {α : Type} (c : Context) (act : Act) (m : Run α),
        judged (fun _ => none) c act m = m := fun _ _ _ => rfl
    simp only [judging, hjudged, ih]
    rfl

end Evaluator

/-- All moments of all runs of a program are of a kind: it makes no difference how a run would end at
other moments. -/
def Function.Always (f : Function) (kind : Moment → Prop) : Prop :=
  ∀ verdict : Verdict, (∀ m, kind m → verdict m = none) → ∀ (bound : Nat) (data : Json),
    f.renderWith (.judging verdict bound) data = f.render bound data

/-- All moments of all runs of a program are of a kind, up to one at which the run is stopped: two runs
that are stopped there end in the same way, whatever they would do at moments of other kinds. -/
def Function.AlwaysUntil (f : Function) (stop kind : Moment → Prop) : Prop :=
  ∀ one other : Verdict, (∀ m, kind m ∨ stop m → one m = other m) → (∀ m, stop m → one m ≠ none) →
    ∀ (bound : Nat) (data : Json),
      f.renderWith (.judging one bound) data = f.renderWith (.judging other bound) data

end Microtemplate.Script
