import Microtemplate.Proofs.Script.OutputText

/-!
The text so far at the moments of a run. Whatever is run from a moment on only adds to the text that
stands there; as long as nothing that writes it is come to, the text stays as it is. What writes it is
an assignment that appends, or a call of the builtin function that prints; the assignment goes on where
the text ended when it began, whatever its operand has printed.
-/

namespace Microtemplate.Script

/-- An assignment that appends to the text. -/
def Expr.appending (value : Expr) : Expr := .assign (some .add) (.identifier outputName) value

namespace Moment

/-- What is done at a moment writes the text by itself. -/
def Writes (m : Moment) : Prop :=
  match m.act with
  | .run x => outputName ∈ x.writes
  | .call f _ => f = .builtin .print

/-- The store in which a judged run of what is done at a moment ends. -/
def after (m : Moment) (verdict : Verdict) (bound : Nat) : Store :=
  match m.act with
  | .run (.expression e) => (((Evaluator.judging verdict bound).eval m.context e).run.run m.store).2
  | .run (.statement x) => (((Evaluator.judging verdict bound).exec m.context x).run.run m.store).2
  | .call f args => (((Evaluator.judging verdict bound).call m.context f args).run.run m.store).2

/-- What the run of a program may do with its text from a moment on. -/
structure Keeps (m : Moment) (text : String) : Prop where
  /-- Of all code only an assignment that appends writes the text by itself. -/
  appends : ∀ x, m.act = .run x → outputName ∈ x.writes → ∃ value, x = .expression (.appending value)
  /-- The assignment goes on where the text ends now, before its operand is evaluated. -/
  written : ∀ value, m.act = .run (.expression (.appending value)) →
    ∀ (verdict : Verdict) (bound : Nat) (v : Value) (t : Store) (b : Binding),
      ((Evaluator.judging verdict bound).eval m.context value).run.run m.store = (.ok v, t) →
      t.resolve? m.context.scope outputName = some (.binding programFrame b) →
      ((Evaluator.judging verdict bound).evalStep m.context (.appending value)).run.run m.store =
        (.ok (.string (text ++ t.text v)),
          t.declare programFrame outputName ⟨.string (text ++ t.text v), true⟩)
  /-- The text is there at every later moment of what is done now, with more after it. -/
  grows : ∀ (verdict : Verdict) (bound : Nat), ∃ more, (m.after verdict bound).Output (text ++ more)
  /-- As long as nothing writes the text, it stays as it is. -/
  stays : ∀ (verdict : Verdict) (bound : Nat), (∀ m' : Moment, m'.Writes → verdict m' ≠ none) →
    (m.after verdict bound).Output text
  /-- The text that is returned is the text as it is now. -/
  returned : m.act = .run (.statement (.returning (some (.identifier outputName)))) →
    ∀ (bound : Nat) (b : Binding),
      m.store.resolve? m.context.scope outputName = some (.binding programFrame b) →
      (exec (bound + 2) m.context (.returning (some (.identifier outputName)))).Gives m.store
        (.returned (.string text)) m.store

end Moment

section

variable {still : Prop} {verdict : Verdict} (hverdict : still → ∀ m : Moment, m.Writes → verdict m ≠ none)
  {s t : Store} {c : Context} {text : String}

include hverdict

theorem textKept_judges : (textKept still).pairing.Judges verdict verdict := by
  refine Keeping.judges (fun s c x _ hx => ⟨rfl, fun hnone => ⟨hx, fun hstill hmem => ?_⟩, fun _ _ => trivial⟩)
    fun s c g args _ hc => ⟨rfl, fun hnone => ⟨hc, fun hstill hprint => ?_⟩, fun _ _ => trivial⟩
  · exact hverdict hstill ⟨c, .run x, s⟩ hmem hnone
  · exact hverdict hstill ⟨c, .call g args, s⟩ hprint hnone

theorem textKept_agree (bound : Nat) :
    (textKept still).pairing.Agree (.judging verdict bound) (.judging verdict bound) :=
  Evaluator.agree_judging (Keeping.lawful (textKept_lawful still)) (textKept_judges hverdict) bound

theorem textKept_after_run (hs : (textKept still).Inv s) {x : Code} (hx : (textKept still).Admits s c x)
    (bound : Nat) : (textKept still).Steps s (Moment.after ⟨c, .run x, s⟩ verdict bound) := by
  have hagree := textKept_agree hverdict bound
  cases x with
  | expression e => exact (Keeping.steps_of_alike (hagree.eval (s := s) ⟨rfl, hs⟩ hx)).1
  | statement x => exact (Keeping.steps_of_alike (hagree.exec (s := s) ⟨rfl, hs⟩ hx)).1

theorem textKept_after_call (hs : (textKept still).Inv s) (hc : (textKept still).AdmitsCall c)
    (f : Value) (args : List Value) (bound : Nat) :
    (textKept still).Steps s (Moment.after ⟨c, .call f args, s⟩ verdict bound) :=
  (Keeping.steps_of_alike ((textKept_agree hverdict bound).call hc (Renaming.same_visible f)
    (fun v _ => Renaming.same_visible v) s s ⟨rfl, hs⟩)).1

omit hverdict in
/-- The value of the text where it is found in the frame of the program. -/
theorem resolve?_of_output (hs : s.Output text) {scope : Scope} {b : Binding}
    (hfound : s.resolve? scope outputName = some (.binding programFrame b)) :
    s.resolve? scope outputName = some (.binding programFrame ⟨.string text, true⟩) :=
  hs.resolve? (.refl s) hfound

omit hverdict in
theorem run_appending (hs : s.Output text) {bound : Nat} {value : Expr} {v : Value} {b : Binding}
    (hvalue : ((Evaluator.judging verdict bound).eval c value).run.run s = (.ok v, t))
    (ht : ∃ more, t.Output more)
    (hfound : t.resolve? c.scope outputName = some (.binding programFrame b)) :
    ((Evaluator.judging verdict bound).evalStep c (.appending value)).run.run s =
      (.ok (.string (text ++ t.text v)),
        t.declare programFrame outputName ⟨.string (text ++ t.text v), true⟩) := by
  have hgrows := Keeping.grows_eval verdict bound c value s
  rw [hvalue] at hgrows
  obtain ⟨more, hmore⟩ := ht
  have hcurrent : (Run.lookup c.scope outputName).Gives s (.string text) s :=
    lookup_gives (by rw [Store.lookup?, hs.resolve? hgrows hfound]; rfl)
  have hassign := assign_gives (c := c) rfl (resolve?_of_output hmore hfound)
    (t.binary .add (.string text) v)
  have hgives : ((Evaluator.judging verdict bound).evalStep c (.appending value)).Gives s
      (t.binary .add (.string text) v)
      (t.declare programFrame outputName ⟨t.binary .add (.string text) v, true⟩) :=
    .bind (.pure _) (hcurrent.bind (.bind hvalue (.bind (.read _) (hassign.bind (.pure _)))))
  rw [binary_add_string] at hgives
  exact hgives

end

section

variable {s : Store} {c : Context} {text : String}

/-- The code that a run comes to keeps the text. -/
theorem keeps_run (hs : (textKept False).Inv s) {x : Code} (hx : (textKept False).Admits s c x)
    (htext : s.Output text) : Moment.Keeps ⟨c, .run x, s⟩ text where
  appends y hy hmem := by
    cases hy
    exact hx.2.of_mem_writes hmem rfl
  written value hy verdict bound v t b hvalue hfound := by
    cases hy
    have hsteps : (textKept False).Steps s (Moment.after ⟨c, .run (.expression value), s⟩ verdict bound) :=
      textKept_after_run (fun h => h.elim) hs ⟨hx.1, hx.2.part (.tail _ (.head _))⟩ bound
    rw [show Moment.after ⟨c, .run (.expression value), s⟩ verdict bound = t from
      congrArg Prod.snd hvalue] at hsteps
    exact run_appending htext hvalue hsteps.inv.1 hfound
  grows verdict bound := by
    have hsteps : (textKept False).Steps s (Moment.after ⟨c, .run x, s⟩ verdict bound) :=
      textKept_after_run (fun h => h.elim) hs hx bound
    obtain ⟨more, hmore, -⟩ := hsteps.goes.2 text htext
    exact ⟨more, hmore⟩
  stays verdict bound hverdict := by
    have hsteps := textKept_after_run (fun _ : True => hverdict) hs hx bound
    obtain ⟨more, hmore, hstill⟩ := hsteps.goes.2 text htext
    rw [hstill trivial, String.append_empty] at hmore
    exact hmore
  returned hy bound b hfound := by
    cases hy
    refine exec_returning (eval_identifier ?_)
    rw [Store.lookup?, resolve?_of_output htext hfound]
    rfl

/-- The calls that a run comes to keep the text. -/
theorem keeps_call (hs : (textKept False).Inv s) (hc : (textKept False).AdmitsCall c)
    (htext : s.Output text) (f : Value) (args : List Value) :
    Moment.Keeps ⟨c, .call f args, s⟩ text where
  appends _ hy := by cases hy
  written _ hy := by cases hy
  grows verdict bound := by
    have hsteps : (textKept False).Steps s (Moment.after ⟨c, .call f args, s⟩ verdict bound) :=
      textKept_after_call (fun h => h.elim) hs hc f args bound
    obtain ⟨more, hmore, -⟩ := hsteps.goes.2 text htext
    exact ⟨more, hmore⟩
  stays verdict bound hverdict := by
    have hsteps := textKept_after_call (fun _ : True => hverdict) hs hc f args bound
    obtain ⟨more, hmore, hstill⟩ := hsteps.goes.2 text htext
    rw [hstill trivial, String.append_empty] at hmore
    exact hmore
  returned hy := by cases hy

end

end Microtemplate.Script
