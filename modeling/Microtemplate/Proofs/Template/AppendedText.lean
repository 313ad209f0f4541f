import Microtemplate.Proofs.Script.OutputMoments
import Microtemplate.Proofs.Template.Rendering
import Microtemplate.Proofs.Template.SparedNames

/-!
The text of a program from a template that does not mention it. Once the program has declared its text,
the text is there at every moment; it is only added to, and nothing of it goes away but what is printed
while a text is being appended.
-/

namespace Microtemplate

open Script

namespace Script

/-- A run that the verdict is not against goes on. -/
theorem Evaluator.run_judged {α : Type} {verdict : Verdict} {c : Context} {act : Act} {s : Store}
    (h : verdict ⟨c, act, s⟩ = none) (m : Run α) :
    (judged verdict c act m).run.run s = m.run.run s := by
  unfold judged
  rw [Run.run_read, h]

/-- Runs that end alike, with every store paired with itself, end in the same way. -/
theorem Keeping.eq_of_ends {K : Keeping} {α : Type} [Renamable α] {s : Store}
    {x y : Except Halt α × Store} (hsame : ∀ a : α, Renamable.rename .same a = a)
    (h : K.pairing.Ends s x y) : x = y := by
  cases h with
  | ok hvisible hmoves =>
    rw [show Renamable.rename K.pairing.places _ = _ from hsame _, hmoves.holds.1]
  | error hfails hmoves => rw [hmoves.holds.1]

namespace Store.HoldsOutput

variable {s : Store} {v : Value}

/-- Hoisting other names leaves what stands in the place of the text. -/
theorem hoistNames {names : List String} (h : s.HoldsOutput v) (hnames : ∀ n ∈ names, n ≠ outputName)
    (frame : Address) : ∃ t, (Evaluator.hoistNames frame names).Gives s () t ∧ t.HoldsOutput v ∧
      t.functions = s.functions := by
  induction names generalizing s with
  | nil => exact ⟨s, .pure (), h, rfl⟩
  | cons n names ih =>
    obtain ⟨hn, hnames⟩ := List.forall_mem_cons.mp hnames
    have hdeclared : (s.declareMissing frame n ⟨.undefined, true⟩).HoldsOutput v := by
      rcases s.declareMissing_eq frame n ⟨.undefined, true⟩ with heq | heq <;> rw [heq]
      · exact h
      · exact h.declare_of_ne (Or.inr hn) _
    obtain ⟨t, hgives, ht, hfunctions⟩ := ih hdeclared hnames
    exact ⟨t, .bind (.change _) hgives, ht, hfunctions⟩

/-- So does hoisting functions, if they spare its name. -/
theorem hoistFunctions {ss : List Stmt} (h : s.HoldsOutput v)
    (hcode : ∀ k ∈ s.functions, k.code.Spares (· = outputName) True)
    (hss : ∀ x ∈ ss, x.Spares (· = outputName) True) (c : Context) (frame : Address) :
    ∃ t, (Evaluator.hoistFunctions c frame ss).Gives s () t ∧ t.HoldsOutput v ∧
      ∀ k ∈ t.functions, k.code.Spares (· = outputName) True := by
  induction ss generalizing s with
  | nil => exact ⟨s, .pure (), h, hcode⟩
  | cons x ss ih =>
    obtain ⟨hx, hmore⟩ := List.forall_mem_cons.mp hss
    cases x with
    | function f =>
      obtain ⟨name, params, rest, body⟩ := f
      have hf : FunctionOf.Spares (· = outputName) True ⟨name, params, rest, body⟩ := by
        cases hx with
        | function hf => exact hf
      cases name with
      | none => exact ih h hcode hmore
      | some n =>
        have hn : n ≠ outputName := hf.not_of_mem_names (.head _)
        have hadded : ∀ k ∈ (s.addFunction ⟨⟨some n, params, rest, body⟩, c.scope⟩).2.functions,
            k.code.Spares (· = outputName) True := by
          intro k hk
          rcases Array.mem_push.mp hk with hk | rfl
          · exact hcode k hk
          · exact hf
        have hframes : (s.addFunction ⟨⟨some n, params, rest, body⟩, c.scope⟩).2.HoldsOutput v :=
          h.of_frames rfl
        obtain ⟨t, hgives, ht, hcode⟩ := ih (hframes.declare_of_ne (a := frame) (Or.inr hn)
          ⟨(s.addFunction ⟨⟨some n, params, rest, body⟩, c.scope⟩).1, true⟩) hadded hmore
        exact ⟨t, .bind (.add _) (.bind (.change _) hgives), ht, hcode⟩
    | _ => exact ih h hcode hmore

end Store.HoldsOutput

end Script

namespace ProgramText

/-- A program of a template whose statements after the first one spare the text. -/
def program (body : List Stmt) : Function :=
  ⟨none, [Settings.defaultVariable], none, declaration :: body⟩

/-- The part of the first statement that is left once the text is there. -/
def printing : Stmt := .declaration .functionWide [⟨"print", some (.function printer)⟩]

section

variable {body : List Stmt} (hbody : ∀ x ∈ body, x.Spares (· = outputName) True)

include hbody

/-- Before the first statement is executed, the text is declared and has no value. -/
theorem exists_start (data : Json) : ∃ s t u,
    (Evaluator.declareArguments programFrame (program body) [(initialStore.addJson data).1]).Gives
      (initialStore.addJson data).2 () s ∧
    (Evaluator.hoistNames programFrame (hoistedList (program body).body)).Gives s () t ∧
    (Evaluator.hoistFunctions programContext programFrame (program body).body).Gives t () u ∧
    u.HoldsOutput .undefined ∧ ∀ k ∈ u.functions, k.code.Spares (· = outputName) True := by
  obtain ⟨hgrown, -⟩ := addJson_shows data initialStore
  generalize initialStore.addJson data = start at hgrown ⊢
  obtain ⟨v, base⟩ := start
  have hstart : base = named base [] := eq_named hgrown.frames
  have harguments : (Evaluator.declareArguments programFrame (program body) [v]).Gives base ()
      (named base [(Settings.defaultVariable, ⟨v, true⟩)]) := by
    have hgives := declareArguments_gives base Settings.defaultVariable v (declaration :: body)
    rw [← hstart] at hgives
    exact hgives
  let names : Fields Binding := [(Settings.defaultVariable, ⟨v, true⟩), ("__t", ⟨.undefined, true⟩),
    ("__p", ⟨.undefined, true⟩)]
  have houtput : (named base names).HoldsOutput .undefined := ⟨⟨.function, names⟩, rfl, rfl, rfl⟩
  have hhoisted : ∀ n ∈ "print" :: hoistedList body, n ≠ outputName :=
    List.forall_mem_cons.mpr ⟨by decide, fun n hn hname =>
      Stmt.Spares.not_of_mem_hoistedList hbody hn hname⟩
  obtain ⟨t, hmore, ht, hfunctions⟩ := houtput.hoistNames hhoisted programFrame
  have hnames : (Evaluator.hoistNames programFrame (hoistedList (program body).body)).Gives
      (named base [(Settings.defaultVariable, ⟨v, true⟩)]) () t := by
    refine .bind (.change _) (.bind (.change _) ?_)
    rw [declareMissing_named rfl, declareMissing_named rfl]
    exact hmore
  have hcode : ∀ k ∈ t.functions, k.code.Spares (· = outputName) True := by
    rw [hfunctions, show (named base names).functions = #[] from hgrown.functions]
    exact fun k hk => absurd hk (Array.not_mem_empty k)
  obtain ⟨u, hgives, hu⟩ := ht.hoistFunctions hcode hbody programContext programFrame
  exact ⟨_, t, u, harguments, hnames, hgives, hu⟩

omit hbody in
theorem printing_spares : printing.Spares (· = outputName) True := by
  refine .declaration _ (List.forall_mem_singleton.mpr (by decide)) (List.forall_mem_singleton.mpr ?_)
  rintro _ ⟨⟩
  exact .function (printer_spares (by decide) fun _ => trivial)

omit hbody in
/-- The first statement declares the text as empty before it comes to the function that prints. -/
theorem run_declaration {verdict : Verdict} {s : Store} (hs : s.HoldsOutput .undefined)
    (hdeclaration : verdict ⟨programContext, .run (.statement declaration), s⟩ = none)
    (hempty : verdict ⟨programContext, .run (.expression (.string "")), s⟩ = none) (n : Nat) :
    ((Evaluator.judging verdict (n + 2)).exec programContext declaration).run.run s =
      (do
        (Evaluator.judging verdict (n + 1)).execDeclaration programContext programFrame .functionWide
          [⟨"print", some (.function printer)⟩]
        return Completion.normal : Script.Run Completion).run.run
          (s.declare programFrame outputName ⟨.string "", true⟩) := by
  have hvalue : ((Evaluator.judging verdict (n + 1)).eval programContext (.string "")).Gives s
      (.string "") s := Evaluator.run_judged hempty _
  have hfound : s.resolve? programContext.scope outputName =
      some (.binding programFrame ⟨.undefined, true⟩) := by
    rw [Store.resolve?, programContext, List.findSome?_cons, hs.resolveIn?]
  have hassign := assign_gives (c := programContext) rfl hfound (.string "")
  have hmore : ((Evaluator.judging verdict (n + 1)).execDeclaration programContext programFrame
      .functionWide [⟨"__t", none⟩, ⟨"__p", some (.string "")⟩,
        ⟨"print", some (.function printer)⟩]).run.run s =
      ((Evaluator.judging verdict (n + 1)).execDeclaration programContext programFrame .functionWide
        [⟨"print", some (.function printer)⟩]).run.run
          (s.declare programFrame outputName ⟨.string "", true⟩) :=
    (hvalue.run_bind _).trans (hassign.run_bind _)
  refine (Evaluator.run_judged hdeclaration _).trans ?_
  refine (Run.run_bind _ _ _).trans ?_
  rw [Run.run_bind, ← hmore]
  rfl

/-- What is done before the text has a value. -/
def declares (m : Moment) : Prop :=
  m.context = programContext ∧
    (m.act = .run (.statement declaration) ∨ m.act = .run (.expression (.string "")))

section

variable {verdict : Verdict}
  (hdeclares : ∀ m, declares m → m.store.HoldsOutput .undefined → verdict m = none)
  (hrun : ∀ (s : Store) (c : Context) (x : Code), (textKept False).Inv s →
    (textKept False).Admits s c x → verdict ⟨c, .run x, s⟩ = none)
  (hcall : ∀ (s : Store) (c : Context) (f : Value) (args : List Value), (textKept False).Inv s →
    (textKept False).AdmitsCall c → verdict ⟨c, .call f args, s⟩ = none)

include hdeclares hrun hcall

/-- The statements of a program end as they would if nothing were judged. -/
theorem run_execAll {s : Store} (hs : s.HoldsOutput .undefined)
    (hcode : ∀ k ∈ s.functions, k.code.Spares (· = outputName) True) (bound : Nat) :
    ((Evaluator.judging verdict bound).execAll programContext (program body).body).run.run s =
      ((Evaluator.judging (fun _ => none) bound).execAll programContext
        (program body).body).run.run s := by
  let t := s.declare programFrame outputName ⟨.string "", true⟩
  have hdeclaration := hdeclares ⟨programContext, .run (.statement declaration), s⟩ ⟨rfl, .inl rfl⟩ hs
  have hempty := hdeclares ⟨programContext, .run (.expression (.string "")), s⟩ ⟨rfl, .inr rfl⟩ hs
  have ht : (textKept False).Inv t := ⟨⟨"", hs.declare _⟩, hcode⟩
  have hadmits : ∀ x ∈ printing :: body, (textKept False).Admits t programContext (.statement x) :=
    List.forall_mem_cons.mpr ⟨⟨rfl, printing_spares⟩, fun x hx => ⟨rfl, hbody x hx⟩⟩
  have hprinting := hrun t programContext (.statement printing) ht (hadmits _ (List.mem_cons_self ..))
  rcases bound with _ | _ | n
  · rfl
  · have hends : ∀ v : Verdict, v ⟨programContext, .run (.statement declaration), s⟩ = none →
        ((Evaluator.judging v 1).exec programContext declaration).run.run s = (.error .exhausted, s) :=
      fun v h => (Evaluator.run_judged h _).trans rfl
    exact (Run.run_bind_error (hends _ hdeclaration) _).trans
      (Run.run_bind_error (hends _ rfl) _).symm
  · have hfirst : ∀ v : Verdict, v ⟨programContext, .run (.statement declaration), s⟩ = none →
        v ⟨programContext, .run (.expression (.string "")), s⟩ = none →
        v ⟨programContext, .run (.statement printing), t⟩ = none →
        ((Evaluator.judging v (n + 2)).execAll programContext (program body).body).run.run s =
          ((Evaluator.judging v (n + 2)).execAll programContext (printing :: body)).run.run t := by
      intro v hdeclaration hempty hprinting
      change ((Evaluator.judging v (n + 2)).exec programContext declaration >>= _).run.run s =
        ((Evaluator.judging v (n + 2)).exec programContext printing >>= _).run.run t
      rw [Run.run_bind, Run.run_bind, run_declaration hs hdeclaration hempty,
        show ((Evaluator.judging v (n + 2)).exec programContext printing).run.run t = _ from
          Evaluator.run_judged hprinting _]
      rfl
    have hjudges : (textKept False).pairing.Judges verdict fun _ => none := by
      refine Keeping.judges (fun s c x hs hx => ⟨hrun s c x hs hx, fun _ => ⟨hx, False.elim⟩, ?_⟩)
        fun s c f args hs hc => ⟨hcall s c f args hs hc, fun _ => ⟨hc, False.elim⟩, ?_⟩
      · exact fun _ _ => trivial
      · exact fun _ _ => trivial
    have halike := Evaluator.alike_execAll (Keeping.lawful (textKept_lawful False))
      (Evaluator.agree_judging (Keeping.lawful (textKept_lawful False)) hjudges (n + 2))
      (s := t) ⟨rfl, ht⟩ hadmits
    rw [hfirst verdict hdeclaration hempty hprinting, hfirst _ rfl rfl rfl]
    refine Keeping.eq_of_ends (fun done => ?_) halike
    cases done with
    | returned v => exact congrArg Completion.returned (Renaming.same_value v)
    | _ => rfl

/-- A program renders as it would if nothing were judged. -/
theorem renderWith_judging (bound : Nat) (data : Json) :
    (program body).renderWith (.judging verdict bound) data = (program body).render bound data := by
  obtain ⟨s, t, u, harguments, hnames, hfunctions, hu, hcode⟩ := exists_start hbody data
  have hall := run_execAll hbody hdeclares hrun hcall hu hcode bound
  rw [← Function.renderWith_within, ← Evaluator.judging_none]
  unfold Function.renderWith Function.runWith Evaluator.execBody
  dsimp only
  simp only [bind_assoc, harguments.run_bind, hnames.run_bind, hfunctions.run_bind]
  rw [Run.run_bind, Run.run_bind, hall]

end

end

/-- The store once the function that prints has gathered its arguments and has found the method that
joins them. -/
def gathered (s : Store) (args : List Value) : Store :=
  let entered := (s.addFrame .function).2
  let listed := (entered.addArray args.toArray).2
  let named := listed.declare s.frames.size "__a" ⟨.array s.arrays.size, true⟩
  (named.addMethod ⟨.array s.arrays.size, .join⟩).2

theorem elements_gathered (s : Store) (args : List Value) :
    ((gathered s args).elements s.arrays.size).toList = args := by
  rw [show (gathered s args).elements s.arrays.size = args.toArray from
    elements_addArray (s.addFrame .function).2 args.toArray]

theorem holdsOutput_gathered {s : Store} {v : Value} (hs : s.HoldsOutput v) (args : List Value) :
    (gathered s args).HoldsOutput v := by
  have hlisted : ((s.addFrame .function).2.addArray args.toArray).2.HoldsOutput v :=
    (hs.addFrame .function).of_frames rfl
  have hnamed := hlisted.declare_of_ne (a := s.frames.size) (n := "__a") (Or.inr (by decide))
    ⟨.array s.arrays.size, true⟩
  exact hnamed.of_frames rfl

/-- A call of the function that prints assigns the sum of what stands in the place of the text and of
the text of its arguments. -/
theorem call_printer_gives {s : Store} {c : Context} {a : Address} {v : Value} (args : List Value)
    (hs : s.HoldsOutput v) (ha : s.functions[a]? = some ⟨printer, programContext.scope⟩)
    (hdepth : c.depth < callLimit) (bound : Nat) :
    (call (bound + 6) c (.function a) args).Gives s .undefined
      ((gathered s args).declare programFrame outputName ⟨(gathered s args).binary .add v
        (.string ((gathered s args).joinArray s.arrays.size "")), true⟩) := by
  let frame := s.frames.size
  let s₁ := (s.addFrame .function).2
  let items := s.arrays.size
  let s₂ := (s₁.addArray args.toArray).2
  let s₃ := s₂.declare frame "__a" ⟨.array items, true⟩
  let s₄ := gathered s args
  let inner : Context := ⟨frame :: programContext.scope, c.depth + 1, c.output⟩
  have houtput : s₃.HoldsOutput v := (holdsOutput_gathered hs args).of_frames rfl
  have hframe : s₃.frames[frame]? = some ⟨.function, [("__a", ⟨.array items, true⟩)]⟩ := by
    have hnew : s₂.frames[frame]? = some ⟨.function, []⟩ := s.getElem?_frame_addFrame .function
    refine (Store.getElem?_modifyFrame _ hnew).trans ?_
    rw [if_pos rfl]
    rfl
  have htext : s₃.resolve? inner.scope outputName = some (.binding programFrame ⟨v, true⟩) := by
    have hin : s₃.resolveIn? frame outputName = none := by
      rw [Store.resolveIn?, hframe]
      rfl
    rw [Store.resolve?, List.findSome?_cons, hin]
    dsimp only
    rw [programContext, List.findSome?_cons, houtput.resolveIn?]
  have hitems : s₃.lookup? inner.scope "__a" = some (.array items) := by
    have hin : s₃.resolveIn? frame "__a" = some (.binding frame ⟨.array items, true⟩) := by
      rw [Store.resolveIn?, hframe]
      rfl
    rw [Store.lookup?, Store.resolve?, List.findSome?_cons, hin]
    rfl
  have hjoin : (Run.readProperty (.array items) "join").Gives s₃ (.method s₃.methods.size) s₄ := rfl
  have hjoined : (call (bound + 2) inner (.method s₃.methods.size) [.string ""]).Gives s₄
      (.string (s₄.joinArray items "")) s₄ :=
    callStep_method (getElem?_addMethod s₃ _) (.read _)
  have hvalue : (eval (bound + 3) inner (.call (.member (.identifier "__a") "join") [.string ""])).Gives
      s₃ (.string (s₄.joinArray items "")) s₄ :=
    eval_call (eval_member (eval_identifier hitems) hjoin) (eval_string "") rfl hjoined
  have hassign := assign_gives (s := s₄) (c := inner) rfl htext
    (s₄.binary .add v (.string (s₄.joinArray items "")))
  have hcurrent : s₃.lookup? inner.scope outputName = some v := by
    rw [Store.lookup?, htext]
    rfl
  have hprinted := exec_expression (eval_plusAssign hcurrent hvalue hassign)
  have harguments : (Evaluator.declareArguments frame printer args).Gives s₁ () s₃ :=
    .bind (.pure ()) (.bind (.add _) (.change _))
  have hbody : ((Evaluator.within (bound + 5)).execBody inner frame printer.body).Gives s₃ .undefined _ :=
    .bind (.pure ()) (.bind (.pure ()) (.bind (hprinted.bind (.pure _)) (.pure _)))
  change Run.Gives (if callLimit ≤ c.depth then (_ : Script.Run Value) else _) s _ _
  rw [if_neg (Nat.not_le.mpr hdepth)]
  refine .bind (.read _) ?_
  rw [ha]
  exact .bind (.add _) (harguments.bind hbody)

/-- A call of the function that prints adds the text of its arguments to the text as it is then. -/
theorem call_printer {s : Store} {c : Context} {a : Address} {args : List Value} {text : String}
    (hs : s.Output text) (ha : s.functions[a]? = some ⟨printer, programContext.scope⟩)
    (hdepth : c.depth < callLimit) (bound : Nat) : ∃ (u t : Store) (items : Address),
      (u.elements items).toList = args ∧ (call (bound + 6) c (.function a) args).Gives s .undefined t ∧
      t.Output (text ++ u.joinArray items "") := by
  refine ⟨gathered s args, _, s.arrays.size, elements_gathered s args,
    call_printer_gives args hs ha hdepth bound, ?_⟩
  rw [binary_add_string]
  exact (holdsOutput_gathered hs args).declare _

end ProgramText

/-- What a call of the function that prints does to the text at a moment. -/
def Script.Moment.Prints (m : Moment) (text : String) : Prop :=
  ∀ (a : Address) (args : List Value), m.act = .call (.function a) args →
    m.store.functions[a]? = some ⟨ProgramText.printer, programContext.scope⟩ →
    m.context.depth < callLimit → ∀ bound : Nat, ∃ (u t : Store) (items : Address),
      (u.elements items).toList = args ∧
      (call (bound + 6) m.context (.function a) args).Gives m.store .undefined t ∧
      t.Output (text ++ u.joinArray items "")

/-- A template that prints while a text is being appended. -/
def overwriting : String := "a<%= print('b') %>c"

/-- Its steps. -/
def overwritingSteps : List Instruction :=
  [.literal "a".toList, .raw " print('b') ".toList, .literal "c".toList]

theorem overwriting_not_mentions : ¬ Compiled.Mentions overwriting outputName := by
  have hsteps : Compiled.steps overwriting.toList Settings.default = .ok overwritingSteps := by
    decide +kernel
  exact Compiled.not_mentions hsteps (by decide +kernel) outputName (List.mem_singleton_self outputName)

end Microtemplate
