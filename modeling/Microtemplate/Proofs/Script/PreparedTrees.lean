import Microtemplate.Proofs.Script.CanonicalReading
import Microtemplate.Proofs.Script.JsonText
import Microtemplate.Proofs.Script.Keeping

/-!
Trees that evaluation is prepared for. Loops are left and gone on with only inside loops, what is
assigned to can be assigned to, constants have values, function statements have names, and sequences
have at least two items. Every tree that is read is like this, so no body of a function ends by leaving
a loop or going on with one, and no run comes to a target that cannot be assigned to.
-/

namespace Microtemplate.Script

/-- The statements directly inside a statement that are not the body of a loop. -/
def Stmt.unlooped : Stmt → List Stmt
  | branch _ consequent alternate => consequent :: alternate.toList
  | loop initial _ _ _ => initial.toList
  | within _ body => [body]
  | block body => body
  | _ => []

/-- The statements of a function itself that are outside the bodies of its loops. -/
inductive FunctionOf.OutsideLoops (f : Function) : Stmt → Prop
  | body {s : Stmt} (h : s ∈ f.body) : OutsideLoops f s
  | part {s t : Stmt} (hs : OutsideLoops f s) (ht : t ∈ s.unlooped) : OutsideLoops f t

/-- What evaluation relies on in a tree and all functions inside it. The heads of loops over elements
and keys have no declarators, so all constants are meant. -/
structure FunctionOf.Prepared (f : Function) : Prop where
  loops : ∀ g, f.Includes g → ¬ g.OutsideLoops .breakLoop ∧ ¬ g.OutsideLoops .continueLoop
  targets : ∀ x, f.Contains x → ∀ e ∈ x.targets, e.isTarget = true
  constants : ∀ ds, f.Contains (.statement (.declaration .constant ds)) → ∀ d ∈ ds, d.initial ≠ none
  named : ∀ g, f.Contains (.statement (.function g)) → g.name ≠ none
  sequences : ∀ items, f.Contains (.expression (.sequence items)) → 2 ≤ items.length

section Reading

variable {known : Token → Prop}

theorem Expr.Proper.of_function {f : Function} (h : (Expr.function f).Proper known) :
    f.Proper known := by
  generalize he : Expr.function f = e at h
  cases h with
  | function h =>
    cases he
    exact h
  | join o => cases o <;> cases he
  | _ => cases he

theorem Expr.Proper.isTarget_of_update {op : UpdateOp} {first : Bool} {target : Expr}
    (h : (Expr.update op first target).Proper known) : target.isTarget = true := by
  generalize he : Expr.update op first target = e at h
  cases h with
  | update _ _ ht =>
    cases he
    exact ht
  | join o => cases o <;> cases he
  | _ => cases he

theorem Expr.Proper.isTarget_of_assign {op : Option BinaryOp} {target value : Expr}
    (h : (Expr.assign op target value).Proper known) : target.isTarget = true := by
  generalize he : Expr.assign op target value = e at h
  cases h with
  | assign _ ht =>
    cases he
    exact ht
  | join o => cases o <;> cases he
  | _ => cases he

theorem Expr.Proper.of_mem_parts {e part : Expr} (h : e.Proper known) (hpart : part ∈ e.parts) :
    part.Proper known := by
  cases h with
  | number | string | boolean | null | function | identifier => cases hpart
  | array h | sequence h => exact h part hpart
  | object h =>
    obtain ⟨p, hp, rfl⟩ := List.mem_map.mp hpart
    exact h p hp
  | member howner => exact List.mem_singleton.mp hpart ▸ howner
  | unary _ h | update _ _ _ h => exact List.mem_singleton.mp hpart ▸ h
  | index howner hkey =>
    exact List.forall_mem_cons.mpr ⟨howner, List.forall_mem_singleton.mpr hkey⟩ part hpart
  | call hcallee harguments => exact List.forall_mem_cons.mpr ⟨hcallee, harguments⟩ part hpart
  | join o hleft hright =>
    cases o <;> exact List.forall_mem_cons.mpr ⟨hleft, List.forall_mem_singleton.mpr hright⟩ part hpart
  | conditional htest hconsequent halternate =>
    exact List.forall_mem_cons.mpr ⟨htest, List.forall_mem_cons.mpr ⟨hconsequent, List.forall_mem_singleton.mpr halternate⟩⟩
      part hpart
  | assign _ _ htarget hvalue => exact List.forall_mem_cons.mpr ⟨htarget, List.forall_mem_singleton.mpr hvalue⟩ part hpart

theorem Stmt.Proper.of_mem_expressions {inLoop : Bool} {s : Stmt} {e : Expr}
    (h : s.Proper known inLoop) (he : e ∈ s.expressions) : e.Proper known := by
  cases h with
  | declaration _ hinitial =>
    obtain ⟨d, hd, hvalue⟩ := List.mem_filterMap.mp he
    exact hinitial d hd e hvalue
  | branch htest | choice htest | loopWhile htest => exact List.mem_singleton.mp he ▸ htest
  | loop _ _ htest hupdate =>
    rcases List.mem_append.mp he with he | he
    · exact htest e (Option.mem_toList.mp he)
    · exact hupdate e (Option.mem_toList.mp he)
  | loopOf _ h | loopIn _ h | within h | expression h => exact List.mem_singleton.mp he ▸ h
  | returning h => exact h e (Option.mem_toList.mp he)
  | function | breakLoop | continueLoop | block | empty => cases he

theorem Stmt.Proper.of_mem_statements {inLoop : Bool} {s part : Stmt} (h : s.Proper known inLoop)
    (hpart : part ∈ s.statements) : ∃ inside, part.Proper known inside := by
  cases h with
  | branch _ hconsequent => exact ⟨_, List.mem_singleton.mp hpart ▸ hconsequent⟩
  | choice _ hconsequent _ halternate =>
    exact ⟨_, List.forall_mem_cons.mpr ⟨hconsequent, List.forall_mem_singleton.mpr halternate⟩ part hpart⟩
  | loop _ hinitial _ _ hbody =>
    rcases List.mem_append.mp hpart with hpart | hpart
    · exact ⟨_, hinitial part (Option.mem_toList.mp hpart)⟩
    · exact ⟨_, List.mem_singleton.mp hpart ▸ hbody⟩
  | loopOf _ _ hbody | loopIn _ _ hbody | loopWhile _ hbody | within _ hbody =>
    exact ⟨_, List.mem_singleton.mp hpart ▸ hbody⟩
  | block h => exact ⟨_, h part hpart⟩
  | declaration | function | breakLoop | continueLoop | returning | empty | expression => cases hpart

/-- Outside the bodies of loops a statement stays outside. -/
theorem Stmt.Proper.of_mem_unlooped {s part : Stmt} (h : s.Proper known false)
    (hpart : part ∈ s.unlooped) : part.Proper known false := by
  cases h with
  | branch _ hconsequent => exact List.mem_singleton.mp hpart ▸ hconsequent
  | choice _ hconsequent _ halternate =>
    exact List.forall_mem_cons.mpr ⟨hconsequent, List.forall_mem_singleton.mpr halternate⟩ part hpart
  | loop _ hinitial => exact hinitial part (Option.mem_toList.mp hpart)
  | within _ hbody => exact List.mem_singleton.mp hpart ▸ hbody
  | block h => exact h part hpart
  | _ => cases hpart

/-- Proper code is a proper expression or a proper statement. -/
def Code.Proper (known : Token → Prop) : Code → Prop
  | .expression e => e.Proper known
  | .statement s => ∃ inLoop, s.Proper known inLoop

theorem Code.Proper.part {x y : Code} (h : x.Proper known) (hy : y ∈ x.parts) : y.Proper known := by
  cases x with
  | expression e =>
    obtain ⟨part, hpart, rfl⟩ := List.mem_map.mp hy
    exact Expr.Proper.of_mem_parts h hpart
  | statement s =>
    obtain ⟨inLoop, h⟩ := h
    rcases List.mem_append.mp hy with hy | hy
    · obtain ⟨e, he, rfl⟩ := List.mem_map.mp hy
      exact h.of_mem_expressions he
    · obtain ⟨part, hpart, rfl⟩ := List.mem_map.mp hy
      exact h.of_mem_statements hpart

theorem Code.Proper.inner {x : Code} {g : Function} (h : x.Proper known) (hg : g ∈ x.functions) :
    g.Proper known := by
  unfold Code.functions at hg
  split at hg
  · cases List.mem_singleton.mp hg
    exact Expr.Proper.of_function h
  · cases List.mem_singleton.mp hg
    obtain ⟨_, h⟩ := h
    cases h with
    | function h => exact h
  · cases hg

namespace FunctionOf

variable {f g : Function}

theorem OwnCode.proper {x : Code} (h : f.OwnCode x) (hf : f.Proper known) : x.Proper known := by
  induction h with
  | body hs =>
    cases hf with
    | mk _ _ _ hbody => exact ⟨false, hbody _ hs⟩
  | part _ hy ih => exact ih.part hy

theorem Includes.proper (h : f.Includes g) (hf : f.Proper known) : g.Proper known := by
  induction h with
  | self => exact hf
  | inner _ hx hh ih => exact (hx.proper ih).inner hh

theorem Contains.proper {x : Code} (h : f.Contains x) (hf : f.Proper known) : x.Proper known := by
  obtain ⟨g, hg, hx⟩ := h
  exact hx.proper (hg.proper hf)

theorem OutsideLoops.proper {s : Stmt} (h : f.OutsideLoops s) (hf : f.Proper known) :
    s.Proper known false := by
  induction h with
  | body hs =>
    cases hf with
    | mk _ _ _ hbody => exact hbody _ hs
  | part _ ht ih => exact ih.of_mem_unlooped ht

/-- Evaluation is prepared for proper trees. -/
theorem Proper.prepared (hf : f.Proper known) : f.Prepared where
  loops g hg := by
    refine ⟨fun h => ?_, fun h => ?_⟩ <;> cases h.proper (hg.proper hf)
  targets x hx e he := by
    have hproper := Contains.proper hx hf
    unfold Code.targets at he
    split at he
    · cases List.mem_singleton.mp he
      exact Expr.Proper.isTarget_of_update hproper
    · cases List.mem_singleton.mp he
      exact Expr.Proper.isTarget_of_assign hproper
    · cases he
  constants ds hx := by
    obtain ⟨_, hproper⟩ := Contains.proper hx hf
    obtain ⟨d, more, rfl, -, hconstant⟩ := hproper.exists_of_declaration
    exact fun d' hd' => hconstant d' hd' rfl
  named g hx := by
    obtain ⟨_, hproper⟩ := Contains.proper hx hf
    cases hproper with
    | function _ hname => exact hname
  sequences items hx := by
    obtain ⟨first, second, more, rfl, -⟩ :=
      Expr.Proper.exists_of_sequence (Contains.proper hx hf)
    exact Nat.le_add_left 2 more.length

end FunctionOf

end Reading

/-- Whether a completion is meant for a loop around the statement. -/
def Completion.isForLoop : Completion → Bool
  | broken | continued => true
  | _ => false

/-- What a computation gives, if it gives anything. -/
def Run.Yields {α : Type} (m : Run α) (result : α → Prop) : Prop :=
  ∀ s a t, m.run.run s = (.ok a, t) → result a

namespace Run.Yields

variable {α β : Type} {m : Run α} {f : α → Run β} {result : β → Prop}

theorem pure {b : β} (h : result b) : Yields (Pure.pure b) result := fun _ _ _ hrun => by
  cases hrun
  exact h

theorem throw (e : Halt) : Yields (throw e : Run β) result := fun _ _ _ hrun => by cases hrun

theorem bind (h : ∀ a, (f a).Yields result) : (m >>= f).Yields result := by
  intro s b u hrun
  rw [Run.run_bind] at hrun
  split at hrun
  · rename_i a t hm
    exact h a t b u hrun
  · cases hrun

end Run.Yields

namespace Evaluator

variable {self : Evaluator} {c : Context}

/-- A loop takes the completions that are meant for it. -/
theorem yields_execWhile {test update : Option Expr} {body : Stmt} (rounds : Nat) :
    (self.execWhile c test update body rounds).Yields (·.isForLoop = false) := by
  induction rounds with
  | zero => exact .throw _
  | succ rounds ih =>
    refine .bind fun b => ?_
    split
    · refine .bind fun done => ?_
      split
      · exact .pure rfl
      · exact .pure rfl
      · exact .bind fun _ => ih
    · exact .pure rfl

theorem yields_execEach {binding : LoopBinding} {body : Stmt} (vs : List Value) :
    (self.execEach c binding body vs).Yields (·.isForLoop = false) := by
  induction vs with
  | nil => exact .pure rfl
  | cons v vs ih =>
    refine .bind fun frame => .bind fun _ => .bind fun done => ?_
    split
    · exact .pure rfl
    · exact .pure rfl
    · exact ih

theorem yields_execAll {ss : List Stmt}
    (h : ∀ s ∈ ss, (self.exec c s).Yields (·.isForLoop = false)) :
    (self.execAll c ss).Yields (·.isForLoop = false) := by
  induction ss with
  | nil => exact .pure rfl
  | cons s ss ih =>
    obtain ⟨hs, hss⟩ := List.forall_mem_cons.mp h
    intro t done u hrun
    rw [execAll, Run.run_bind] at hrun
    split at hrun
    · rename_i first t' hfirst
      cases first with
      | normal => exact ih hss t' done u hrun
      | _ =>
        cases hrun
        exact hs t _ _ hfirst
    · cases hrun

/-- Statements outside the bodies of loops complete for no loop, if none leaves a loop or goes on with
one. -/
theorem yields_exec {f : Function}
    (hloops : ¬ f.OutsideLoops .breakLoop ∧ ¬ f.OutsideLoops .continueLoop) (bound : Nat) {s : Stmt}
    (hs : f.OutsideLoops s) : ((within bound).exec c s).Yields (·.isForLoop = false) := by
  induction bound generalizing c s with
  | zero => exact .throw _
  | succ bound ih =>
    have hpart : ∀ c t, t ∈ s.unlooped → ((within bound).exec c t).Yields
        (·.isForLoop = false) := fun c t ht => ih (.part hs ht)
    cases s with
    | declaration kind ds => exact .bind fun _ => .pure rfl
    | function | empty => exact .pure rfl
    | branch test a b =>
      refine .bind fun v => ?_
      split
      · exact hpart c a (.head _)
      · cases b with
        | none => exact .pure rfl
        | some b => exact hpart c b (.tail _ (.head _))
    | loop first test update body =>
      refine .bind fun frame => ?_
      cases first with
      | none => exact yields_execWhile _
      | some first => exact .bind fun _ => yields_execWhile _
    | loopOf binding e body => exact .bind fun _ => .bind fun _ => yields_execEach _
    | loopIn binding e body => exact .bind fun _ => .bind fun _ => yields_execEach _
    | loopWhile test body => exact yields_execWhile _
    | breakLoop => exact absurd hs hloops.1
    | continueLoop => exact absurd hs hloops.2
    | returning value =>
      cases value with
      | none => exact .pure rfl
      | some e => exact .bind fun _ => .pure rfl
    | within e body =>
      refine .bind fun v => ?_
      split
      · exact .throw _
      · exact .bind fun frame => hpart _ body (.head _)
    | block body =>
      exact .bind fun frame => .bind fun _ => yields_execAll fun t ht => hpart _ t ht
    | expression e => exact .bind fun _ => .pure rfl

end Evaluator

namespace FunctionOf

variable {f : Function}

theorem Contains.part {x y : Code} (h : f.Contains x) (hy : y ∈ x.parts) : f.Contains y := by
  obtain ⟨g, hg, hx⟩ := h
  exact ⟨g, hg, .part hx hy⟩

theorem Contains.inner {x : Code} {g : Function} (h : f.Contains x) (hg : g ∈ x.functions) :
    f.Includes g := by
  obtain ⟨around, haround, hx⟩ := h
  exact .inner haround hx hg

/-- A run comes to the code of the program only, and to functions of the program only. -/
def staying (f : Function) : Keeping where
  Inv s := ∀ k ∈ s.functions, f.Includes k.code
  Admits _ _ x := f.Contains x
  Closes _ _ g := f.Includes g
  Fails halt := ∀ described, halt ≠ .failed (.notAssignable described)

theorem Prepared.staying_lawful (hf : f.Prepared) : f.staying.Lawful where
  refl := .refl
  trans := .trans
  grows := id
  exhausted := nofun
  failed he described heq := by
    cases heq
    cases he
  admitsLater _ := id
  passesLater _ := id
  ownsLater _ := id
  admits := id
  part := Contains.part
  call _ := trivial
  closes := Contains.inner
  free _ _ _ := trivial
  freeRound _ := trivial
  targets hx e he := Or.inl (hf.targets _ hx e he)
  found _ _ _ := nofun
  special _ _ hspecial := hspecial.elim
  assign _ hs _ _ _ _ _ := ⟨hs, .declare ..⟩
  declaration _ hs _ _ _ := ⟨hs, .declare ..⟩
  declare _ hs _ _ := ⟨hs, .declare ..⟩
  aside hs hgrows _ hfunctions := ⟨fun k hk => hs k (hfunctions ▸ hk), hgrows⟩
  addFunction {s scope g} hs hg := by
    refine ⟨fun k hk => ?_, .addFunction s ⟨g, scope⟩⟩
    rcases Array.mem_push.mp hk with hk | rfl
    · exact hs k hk
    · exact hg
  addFrame {s kind} hs _ _ := ⟨trivial, fun _ _ => id, hs, .addFrame s kind⟩
  print _ hs _ := ⟨hs, .append ..⟩
  closure hs hk := hs _ (Array.mem_of_getElem? hk)
  enter {s c a k} hs _ hk := by
    refine ⟨trivial, ⟨hs, .addFrame s .function⟩, fun t _ _ x hx => ?_⟩
    exact ⟨k.code, hs k (Array.mem_of_getElem? hk), .body hx⟩

theorem staying_starts (f : Function) (data : Json) :
    f.staying.Starts f (initialStore.addJson data).2 := by
  obtain ⟨hgrown, -⟩ := addJson_shows data initialStore
  refine ⟨fun k hk => ?_, trivial, ?_, fun _ _ => trivial, fun t _ _ x hx => ⟨f, .self, .body hx⟩⟩
  · rw [hgrown.functions] at hk
    cases Array.not_mem_empty _ hk
  · rw [hgrown.frames]
    decide

end FunctionOf

namespace Function

/-- Evaluation is prepared for every tree that is read: no body of a function in it completes for a
loop around the function, all runs keep to the code and the functions of the program, and none fails
because a target cannot be assigned to. -/
theorem prepared_of_ofText? (cs : List Char) (f : Function) (h : Function.ofText? cs = .ok f) :
    f.Prepared ∧
      (∀ g, f.Includes g → ∀ (bound : Nat) (c : Context) (s t : Store) (done : Completion),
        ((Evaluator.within bound).execAll c g.body).run.run s = (.ok done, t) →
          done ≠ .broken ∧ done ≠ .continued) ∧
      (f.Always fun m => (∀ x, m.act = .run x → f.Contains x) ∧
        ∀ k ∈ m.store.functions, f.Includes k.code) ∧
      ∀ (bound : Nat) (data : Json) (described : String),
        f.render bound data ≠ .error (.failed (.notAssignable described)) := by
  obtain ⟨ls, htokens⟩ : ∃ ls, Lexer.tokens cs = .ok ls := by
    obtain ⟨s, -, -, htokens, -⟩ := exists_of_ofText? h
    exact ⟨_, htokens⟩
  have hproper : f.Proper fun _ => True := proper_of_ofText? h htokens fun _ _ => trivial
  have hprepared := hproper.prepared
  have hlawful := hprepared.staying_lawful
  refine ⟨hprepared, fun g hg bound c s t done hrun => ?_, ?_, fun bound data described hrender => ?_⟩
  · have hyields : done.isForLoop = false :=
      Evaluator.yields_execAll (fun s hs => Evaluator.yields_exec (hprepared.loops g hg) bound (.body hs))
        s done t hrun
    refine ⟨?_, ?_⟩ <;> rintro rfl <;> cases hyields
  · refine Keeping.always hlawful (fun s c x hs hx => ⟨⟨?_, hs⟩, hx⟩) (fun s c g args hs _ => ?_)
      f.staying_starts
    · rintro y ⟨rfl⟩
      exact hx
    · exact ⟨⟨nofun, hs⟩, trivial⟩
  · have hjudges : f.staying.pairing.Judges (fun _ => none) fun _ => none :=
      Keeping.judges (fun _ _ _ _ hx => ⟨rfl, fun _ => hx, nofun⟩)
        fun _ _ _ _ _ _ => ⟨rfl, fun _ => trivial, nofun⟩
    have hfails := (Keeping.renderWith_judging hlawful hjudges (f.staying_starts data) bound).2
    rw [Evaluator.judging_none, renderWith_within] at hfails
    exact hfails _ hrender described rfl

/-- A function that leaves a loop over keys. -/
theorem prepared_of_ofText?_keys :
    let f : Function := .mk none ["s"] none [.loopIn (.assign "k") (.identifier "s")
      (.block [.branch (.index (.identifier "s") (.identifier "k")) .breakLoop none])]
    let cs := "function ( s ) { for ( k in ( s ) ) { if ( ( s ) [ ( k ) ] ) break ; } } ".toList
    Function.ofText? cs = .ok f ∧ f.Prepared ∧
      (∀ g, f.Includes g → ∀ (bound : Nat) (c : Context) (s t : Store) (done : Completion),
        ((Evaluator.within bound).execAll c g.body).run.run s = (.ok done, t) →
          done ≠ .broken ∧ done ≠ .continued) ∧
      (f.Always fun m => (∀ x, m.act = .run x → f.Contains x) ∧
        ∀ k ∈ m.store.functions, f.Includes k.code) ∧
      ∀ (bound : Nat) (data : Json) (described : String),
        f.render bound data ≠ .error (.failed (.notAssignable described)) := by
  intro f cs
  have hs : Token.Spelled (fun _ => []) (.identifier "s") := by rfl
  have hk : Token.Spelled (fun _ => []) (.identifier "k") := by rfl
  have hproper : f.Proper (Token.Spelled fun _ => []) :=
    .mk nofun (List.forall_mem_singleton.mpr hs) nofun (List.forall_mem_singleton.mpr
      (.loopIn hk (.identifier hs) (.block (List.forall_mem_singleton.mpr
        (.branch (.index (.identifier hs) (.identifier hk)) .breakLoop)))))
  have htext : f.canonicalText (fun _ => []) = cs := by decide +kernel
  have hread := (ofText?_canonicalText_of_proper hproper fun _ ht => Or.inr ht).1 (by decide)
  rw [htext] at hread
  exact ⟨hread, prepared_of_ofText? cs f hread⟩

end Function

end Microtemplate.Script
