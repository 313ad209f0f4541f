import Microtemplate.Proofs.Script.JsonText
import Microtemplate.Proofs.Script.Keeping
import Microtemplate.Proofs.Script.Resolution

/-!
Constants. A name that a frame holds as a constant keeps its value until a declaration in the same
frame declares it again: assignments and loops refuse it, and all other declarations go to frames of
their own. There is one exception. What is printed is appended to the text in the frame of the program
without asking whether that name can be assigned to.
-/

namespace Microtemplate.Script

/-- A declaration is executed that declares a name in a frame once more. -/
def Moment.redeclares (a : Address) (n : String) (m : Moment) : Bool :=
  match m.act with
  | .run (.statement (.declaration kind ds)) =>
    kind ≠ .functionWide ∧ Evaluator.innermost m.context = a ∧ n ∈ ds.map (·.name)
  | _ => false

/-- A constant of a frame is kept. The name that printed text goes to is no constant of the frame of the
program. If `strict`, no code is run directly in the frame. -/
def constantKept (strict : Prop) (a : Address) (n : String) (v : Value) : Keeping where
  Inv s := s.binding? a n = some ⟨v, false⟩
  Admits _ c _ := (c.output ≠ a ∨ outputName ≠ n) ∧ (strict → Evaluator.innermost c ≠ a)
  Passes s c x := ((c.output ≠ a ∨ outputName ≠ n) ∧ (strict → Evaluator.innermost c ≠ a)) ∧
    Moment.redeclares a n ⟨c, .run x, s⟩ = false
  AdmitsCall c := c.output ≠ a ∨ outputName ≠ n
  Closes _ _ _ := True
  Owns _ frame := frame ≠ a

theorem constantKept_lawful (strict : Prop) (a : Address) (n : String) (v : Value) :
    (constantKept strict a n v).Lawful where
  refl := .refl
  trans := .trans
  grows := id
  exhausted := trivial
  failed _ := trivial
  admitsLater _ := id
  passesLater _ := id
  ownsLater _ := id
  admits := And.left
  part hadmits _ := hadmits
  call := And.left
  closes _ _ := trivial
  free _ _ _ := trivial
  freeRound _ := trivial
  targets _ _ _ := Or.inr trivial
  found _ _ _ := trivial
  special _ _ hspecial := hspecial.elim
  assign {s c x m frame b} v' hs _ _ _ hfound hb := by
    refine ⟨?_, .declare ..⟩
    refine (Store.binding?_declare_of_ne _ ?_).trans hs
    refine or_iff_not_imp_left.mpr fun hframe hm => ?_
    have hheld := Store.binding?_of_resolve? hfound
    rw [not_not.mp hframe, hm] at hheld
    cases hheld.symm.trans hs
    cases hb
  declaration {s c kind ds d} b hs hx hkind hd := by
    refine ⟨(Store.binding?_declare_of_ne _ ?_).trans hs, .declare ..⟩
    refine or_iff_not_imp_left.mpr fun hframe hn => of_decide_eq_false hx.2 ⟨hkind, ?_, ?_⟩
    · exact not_not.mp hframe
    · exact hn ▸ List.mem_map_of_mem hd
  declare b hs howns _ := ⟨(Store.binding?_declare_of_ne _ (Or.inl howns)).trans hs, .declare ..⟩
  aside {s t} hs hgrows hframes _ := by
    refine ⟨?_, hgrows⟩
    change t.binding? a n = _
    rw [Store.binding?, hframes]
    exact hs
  addFunction {s scope f} hs _ := ⟨hs, .addFunction s ⟨f, scope⟩⟩
  addFrame {s kind} hs _ _ := by
    have hlt := Store.lt_of_binding? hs
    have hne : s.frames.size ≠ a := (Nat.ne_of_lt hlt).symm
    refine ⟨hne, fun c x hx => ⟨⟨hx.1.1, fun _ => hne⟩, ?_⟩, Store.binding?_addFrame kind hs,
      .addFrame s kind⟩
    unfold Moment.redeclares
    split
    · exact decide_eq_false fun h => hne h.2.1
    · rfl
  print {s c} text hs hc := by
    obtain ⟨b, hb⟩ := s.append_eq c.output outputName text
    rw [hb]
    exact ⟨(Store.binding?_declare_of_ne b hc).trans hs, .declare ..⟩
  closure _ _ := trivial
  enter {s c b k} hs hcall _ := by
    have hlt := Store.lt_of_binding? hs
    exact ⟨(Nat.ne_of_lt hlt).symm, ⟨Store.binding?_addFrame .function hs, .addFrame s .function⟩,
      fun t _ _ x _ => ⟨hcall, fun _ => (Nat.ne_of_lt hlt).symm⟩⟩

section

variable {verdict : Verdict} {a : Address} {n : String}
  (hverdict : ∀ m : Moment, m.redeclares a n = true → verdict m ≠ none)

include hverdict

theorem constantKept_judges (strict : Prop) (v : Value) :
    (constantKept strict a n v).pairing.Judges verdict verdict := by
  refine Keeping.judges (fun s c x _ hx => ⟨rfl, fun hnone => ⟨hx, ?_⟩, fun _ _ => trivial⟩)
    fun s c g args _ hc => ⟨rfl, fun _ => hc, fun _ _ => trivial⟩
  exact eq_false_of_ne_true fun hredeclares => hverdict _ hredeclares hnone

/-- Whatever computation keeps constants, its name being declared again by no part of it. -/
theorem constantKept_agree (v : Value) (bound : Nat) :
    (constantKept False a n v).pairing.Agree (.judging verdict bound) (.judging verdict bound) :=
  Evaluator.agree_judging (Keeping.lawful (constantKept_lawful False a n v))
    (constantKept_judges hverdict False v) bound

variable {c : Context} (hname : c.output ≠ a ∨ outputName ≠ n)

include hname

theorem binding?_eval {s : Store} {v : Value} (hs : s.binding? a n = some ⟨v, false⟩) (bound : Nat)
    (e : Expr) : (((Evaluator.judging verdict bound).eval c e).run.run s).2.binding? a n =
      some ⟨v, false⟩ :=
  (Keeping.steps_of_alike ((constantKept_agree hverdict v bound).eval (s := s) ⟨rfl, hs⟩
    ⟨hname, False.elim⟩)).1.inv

theorem binding?_exec {s : Store} {v : Value} (hs : s.binding? a n = some ⟨v, false⟩) (bound : Nat)
    (x : Stmt) : (((Evaluator.judging verdict bound).exec c x).run.run s).2.binding? a n =
      some ⟨v, false⟩ :=
  (Keeping.steps_of_alike ((constantKept_agree hverdict v bound).exec (s := s) ⟨rfl, hs⟩
    ⟨hname, False.elim⟩)).1.inv

theorem binding?_call {s : Store} {v : Value} (hs : s.binding? a n = some ⟨v, false⟩) (bound : Nat)
    (f : Value) (args : List Value) :
    (((Evaluator.judging verdict bound).call c f args).run.run s).2.binding? a n = some ⟨v, false⟩ :=
  (Keeping.steps_of_alike ((constantKept_agree hverdict v bound).call hname (Renaming.same_visible f)
    (fun v _ => Renaming.same_visible v) s s ⟨rfl, hs⟩)).1.inv

/-- Declaring other names keeps a constant. -/
theorem binding?_execDeclaration {s : Store} {v : Value} (hs : s.binding? a n = some ⟨v, false⟩)
    (bound : Nat) (kind : DeclarationKind) {ds : List Declarator} (hds : n ∉ ds.map (·.name)) :
    (((Evaluator.judging verdict bound).execDeclaration c (Evaluator.innermost c) kind ds).run.run
      s).2.binding? a n = some ⟨v, false⟩ := by
  have hredeclares : Moment.redeclares a n ⟨c, .run (.statement (.declaration kind ds)), s⟩ = false :=
    decide_eq_false fun h => hds h.2.2
  exact (Keeping.steps_of_alike (Evaluator.alike_execDeclaration
    (Keeping.lawful (constantKept_lawful False a n v)) (constantKept_agree hverdict v bound)
    ⟨⟨rfl, hs⟩, ⟨hname, False.elim⟩, hredeclares⟩ fun _ => id)).1.inv

/-- A declaration makes a constant of a name, with the value of the last declarator of this name. -/
theorem exists_binding?_of_execDeclaration {s t : Store} (bound : Nat) {before after : List Declarator}
    {e : Expr} (ha : Evaluator.innermost c = a) (hlt : a < s.frames.size)
    (hafter : n ∉ after.map (·.name))
    (hrun : ((Evaluator.judging verdict bound).execDeclaration c a .constant
      (before ++ ⟨n, some e⟩ :: after)).run.run s = (.ok (), t)) :
    ∃ u v w, ((Evaluator.judging verdict bound).eval c e).run.run u = (.ok v, w) ∧
      t.binding? a n = some ⟨v, false⟩ := by
  induction before generalizing s with
  | nil =>
    obtain ⟨v, w, hvalue, hmore⟩ := Run.exists_of_run_bind hrun
    have hgrows := Keeping.grows_eval verdict bound c e s
    rw [hvalue] at hgrows
    have hset := Store.binding?_declare w ⟨v, false⟩ n (hgrows.lt_size hlt)
    have hkept := binding?_execDeclaration hverdict hname hset bound .constant hafter
    have hmore' : ((Evaluator.judging verdict bound).execDeclaration c a .constant after).run.run
        (w.declare a n ⟨v, false⟩) = (.ok (), t) := hmore
    rw [ha, hmore'] at hkept
    exact ⟨s, v, w, hvalue, hkept⟩
  | cons d before ih =>
    rw [List.cons_append] at hrun
    unfold Evaluator.execDeclaration at hrun
    cases hinitial : d.initial with
    | none =>
      rw [hinitial] at hrun
      exact ih ((Store.Grows.declare s a d.name ⟨.undefined, false⟩).lt_size hlt) hrun
    | some e' =>
      rw [hinitial] at hrun
      obtain ⟨v, w, hvalue, hmore⟩ := Run.exists_of_run_bind hrun
      have hgrows := Keeping.grows_eval verdict bound c e' s
      rw [hvalue] at hgrows
      have hlt' := (Store.Grows.declare w a d.name ⟨v, false⟩).lt_size (hgrows.lt_size hlt)
      exact ih hlt' hmore

end

/-- The names of the global frame that cannot be assigned to. -/
def globalConstants : List (String × Value) :=
  [("undefined", .undefined), ("NaN", .number Decimal.nan),
    ("Infinity", .number (Decimal.infinity false))]

/-- No code is run directly in the global frame, so its constants are never declared again. -/
theorem globalConstant_kept (f : Function) {n : String} {v : Value} (h : (n, v) ∈ globalConstants) :
    f.Always fun m => m.store.binding? globalFrame n = some ⟨v, false⟩ := by
  have hname : outputName ≠ n := by
    revert h
    unfold globalConstants
    rintro (_ | ⟨_, _ | ⟨_, _ | ⟨_, ⟨⟩⟩⟩⟩) <;> decide
  refine Keeping.always (constantKept_lawful True globalFrame n v)
    (fun s c x hs hx => ⟨hs, hx, ?_⟩) (fun s c g args hs hc => ⟨hs, hc⟩) fun data => ?_
  · unfold Moment.redeclares
    split
    · exact decide_eq_false fun hdeclares => hx.2 trivial hdeclares.2.1
    · rfl
  · obtain ⟨hgrown, -⟩ := addJson_shows data initialStore
    have hframes : programFrame ≠ globalFrame := by decide
    refine ⟨?_, hframes, ?_, fun _ _ => trivial, fun _ _ _ _ _ => ⟨Or.inr hname, fun _ => hframes⟩⟩
    · change Store.binding? _ _ _ = _
      rw [Store.binding?, hgrown.frames]
      revert h
      unfold globalConstants
      rintro (_ | ⟨_, _ | ⟨_, _ | ⟨_, ⟨⟩⟩⟩⟩) <;> rfl
    · rw [hgrown.frames]
      decide

/-- A constant that a declaration makes has the value of its declarator, and whatever is evaluated,
executed or called from then on keeps it, to the moment at which the run ends, as long as the name is
not declared again in the same frame. The name that printed text goes to is excepted in the frame of
the program. The constants of the global frame are the same at all moments of all programs. -/
theorem constants_kept (a : Address) (n : String) (c : Context) (verdict : Verdict)
    (hname : c.output ≠ a ∨ n ≠ outputName)
    (hverdict : ∀ m : Moment, m.redeclares a n = true → verdict m ≠ none) :
    (∀ (bound : Nat) (s t : Store) (before after : List Declarator) (e : Expr),
      Evaluator.innermost c = a → a < s.frames.size → n ∉ after.map (·.name) →
      ((Evaluator.judging verdict bound).execDeclaration c a .constant
        (before ++ ⟨n, some e⟩ :: after)).run.run s = (.ok (), t) →
      ∃ u v w, ((Evaluator.judging verdict bound).eval c e).run.run u = (.ok v, w) ∧
        t.binding? a n = some ⟨v, false⟩) ∧
    (∀ (s : Store) (v : Value) (bound : Nat), s.binding? a n = some ⟨v, false⟩ →
      (∀ e, (((Evaluator.judging verdict bound).eval c e).run.run s).2.binding? a n =
        some ⟨v, false⟩) ∧
      (∀ x, (((Evaluator.judging verdict bound).exec c x).run.run s).2.binding? a n =
        some ⟨v, false⟩) ∧
      ∀ f args, (((Evaluator.judging verdict bound).call c f args).run.run s).2.binding? a n =
        some ⟨v, false⟩) ∧
    ∀ (f : Function), ∀ p ∈ globalConstants,
      f.Always fun m => m.store.binding? globalFrame p.1 = some ⟨p.2, false⟩ := by
  have hname' : c.output ≠ a ∨ outputName ≠ n := hname.imp_right Ne.symm
  refine ⟨fun bound s t before after e ha hlt hafter hrun => ?_, fun s v bound hs => ⟨fun e => ?_,
    fun x => ?_, fun f args => ?_⟩, fun f p hp => globalConstant_kept f hp⟩
  · exact exists_binding?_of_execDeclaration hverdict hname' bound ha hlt hafter hrun
  · exact binding?_eval hverdict hname' hs bound e
  · exact binding?_exec hverdict hname' hs bound x
  · exact binding?_call hverdict hname' hs bound f args

/-- A constant of a block is declared, and is kept when it is assigned to. -/
theorem constants_kept_in_block :
    let c : Context := ⟨[2, programFrame, globalFrame], 0, programFrame⟩
    let verdict : Verdict := fun m => if m.redeclares 2 "k" then some .exhausted else none
    let s := (initialStore.addFrame .block).2
    let t := s.declare 2 "k" ⟨.null, false⟩
    (c.output ≠ 2 ∨ "k" ≠ outputName) ∧
      (∀ m : Moment, m.redeclares 2 "k" = true → verdict m ≠ none) ∧
      (∃ u v w, ((Evaluator.judging verdict 3).eval c .null).run.run u = (.ok v, w) ∧
        t.binding? 2 "k" = some ⟨v, false⟩) ∧
      t.binding? 2 "k" = some ⟨.null, false⟩ ∧
      (((Evaluator.judging verdict 3).eval c
        (.assign none (.identifier "k") (.boolean true))).run.run t).2.binding? 2 "k" =
          some ⟨.null, false⟩ := by
  intro c verdict s t
  have hname : c.output ≠ 2 ∨ "k" ≠ outputName := Or.inl (by decide)
  have hverdict : ∀ m : Moment, m.redeclares 2 "k" = true → verdict m ≠ none := by
    intro m hm
    rw [show verdict m = some .exhausted from if_pos hm]
    nofun
  have ht : t.binding? 2 "k" = some ⟨.null, false⟩ := by rfl
  have hkept := constants_kept 2 "k" c verdict hname hverdict
  exact ⟨hname, hverdict, hkept.1 3 s t [] [] .null rfl (by decide) (by simp) rfl, ht,
    (hkept.2.1 t .null 3 ht).1 _⟩

/-- What is printed comes to a constant of the program that has the name of the text. -/
example :
    Function.render ⟨none, [], none,
      [.declaration .constant [⟨outputName, some (.string "a")⟩],
        .expression (.call (.identifier "print") [.string "b"]),
        .returning (some (.identifier outputName))]⟩ 4 .null = .ok "ab" := by
  decide +kernel

end Microtemplate.Script
