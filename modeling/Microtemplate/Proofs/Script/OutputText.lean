import Microtemplate.Proofs.Script.Keeping
import Microtemplate.Proofs.Script.Resolution
import Microtemplate.Proofs.Script.SparingCode

/-!
The text so far. It stands in the frame of the program under its name; as long as all code spares the
name, whatever is run keeps it there and only adds to it. What is assigned with `+=` is the text that
was read before the operand was evaluated, with the text of the operand after it: what the operand has
printed in between is gone.
-/

namespace Microtemplate.Script

open Renamable (rename)

namespace Store

variable {s t : Store} {a : Address} {n : String} {v w : Value} {text : String}

/-- The frame of the program holds a value under the name of the text, and lets it be assigned to. -/
def HoldsOutput (s : Store) (v : Value) : Prop :=
  ∃ f, s.frames[programFrame]? = some f ∧ f.kind = .function ∧
    f.bindings.get? outputName = some ⟨v, true⟩

/-- The text so far. -/
def Output (s : Store) (text : String) : Prop := s.HoldsOutput (.string text)

namespace HoldsOutput

theorem unique (h : s.HoldsOutput v) (h' : s.HoldsOutput w) : v = w := by
  obtain ⟨f, hf, -, hv⟩ := h
  obtain ⟨g, hg, -, hw⟩ := h'
  cases hf.symm.trans hg
  cases hv.symm.trans hw
  rfl

theorem of_frames (h : s.HoldsOutput v) (hframes : t.frames = s.frames) : t.HoldsOutput v := by
  unfold HoldsOutput
  rw [hframes]
  exact h

theorem resolveIn? (h : s.HoldsOutput v) :
    s.resolveIn? programFrame outputName = some (.binding programFrame ⟨v, true⟩) := by
  obtain ⟨f, hf, hkind, hv⟩ := h
  simp only [Store.resolveIn?, hf, visibleProperty?, hkind, hv, Option.map_some]

theorem addFrame (h : s.HoldsOutput v) (kind : FrameKind) : (s.addFrame kind).2.HoldsOutput v := by
  obtain ⟨f, hf, hkind, hv⟩ := h
  exact ⟨f, getElem?_addFrame kind hf, hkind, hv⟩

theorem modifyFrame (h : s.HoldsOutput v) {change : Fields Binding → Fields Binding}
    (hchange : ∀ names : Fields Binding, names.get? outputName = some ⟨v, true⟩ →
      (change names).get? outputName = some ⟨w, true⟩) :
    (s.modifyFrame programFrame change).HoldsOutput w := by
  obtain ⟨f, hf, hkind, hv⟩ := h
  refine ⟨_, getElem?_modifyFrame change hf, ?_, ?_⟩
  · rw [if_pos rfl]
    exact hkind
  · rw [if_pos rfl]
    exact hchange _ hv

theorem declare (h : s.HoldsOutput v) (w : Value) :
    (s.declare programFrame outputName ⟨w, true⟩).HoldsOutput w :=
  h.modifyFrame fun names _ => by rw [Fields.get?_set, if_pos rfl]

/-- A declaration of another name, or in another frame, leaves the text. -/
theorem declare_of_ne (h : s.HoldsOutput v) (hne : a ≠ programFrame ∨ n ≠ outputName) (b : Binding) :
    (s.declare a n b).HoldsOutput v := by
  by_cases ha : a = programFrame
  · subst ha
    refine h.modifyFrame fun names hv => ?_
    rw [Fields.get?_set, if_neg (Ne.symm (hne.resolve_left fun hne => hne rfl)), hv]
  · obtain ⟨f, hf, hkind, hv⟩ := h
    have hget := getElem?_modifyFrame (a := a) (·.set n b) hf
    rw [if_neg ha] at hget
    exact ⟨f, hget, hkind, hv⟩

/-- Printing declares the text again, with what is printed after it. -/
theorem append_eq (h : s.HoldsOutput v) (more : String) :
    s.append programFrame outputName more =
      s.declare programFrame outputName ⟨.string (s.text v ++ more), true⟩ := by
  obtain ⟨f, hf, -, hv⟩ := h
  refine modifyFrame_congr fun g hg => ?_
  cases hf.symm.trans hg
  simp only [hv]

/-- What is printed follows on what was there before. -/
theorem append (h : s.HoldsOutput v) (more : String) :
    (s.append programFrame outputName more).Output (s.text v ++ more) := by
  rw [h.append_eq]
  exact h.declare _

end HoldsOutput

/-- Objects alone make the name of the text visible. -/
theorem exists_of_ownProperty?_output (h : (s.ownProperty? v outputName).isSome = true) :
    ∃ a, v = .object a ∧ (s.fields a).has outputName = true := by
  cases v with
  | object a => exact ⟨a, rfl, h⟩
  | array a =>
    exfalso
    revert h
    have hlength : outputName ≠ "length" := by decide
    have hindex : arrayIndex? outputName = none := rfl
    simp [ownProperty?, hlength, hindex]
  | _ => cases h

/-- Where the name of the text is in a frame, it stays there. -/
theorem Grows.lacks_output (h : s.Grows t) (ht : t.Lacks outputName a) : s.Lacks outputName a := by
  intro f hf
  obtain ⟨g, hg, hkind, hnames⟩ := h.frames a f hf
  obtain ⟨hname, hown⟩ := ht g hg
  refine ⟨Option.not_isSome_iff_eq_none.mp fun hsome => ?_, fun v hv => ?_⟩
  · have hsome' : (g.bindings.get? outputName).isSome = true := hnames outputName hsome
    rw [hname] at hsome'
    cases hsome'
  · refine Option.not_isSome_iff_eq_none.mp fun hsome => ?_
    obtain ⟨p, rfl, hhas⟩ := exists_of_ownProperty?_output hsome
    have hsome' : (t.ownProperty? (.object p) outputName).isSome = true := h.fields p outputName hhas
    rw [hown _ (hkind.trans hv)] at hsome'
    cases hsome'

/-- Where the name of the text is found in the frame of the program, it was found there before. -/
theorem HoldsOutput.resolve? (hv : s.HoldsOutput v) (h : s.Grows t) {scope : Scope} {b : Binding}
    (ht : t.resolve? scope outputName = some (.binding programFrame b)) :
    s.resolve? scope outputName = some (.binding programFrame ⟨v, true⟩) := by
  obtain ⟨before, a, after, hscope, hin, hbefore⟩ := resolve?_eq_some_iff.mp ht
  obtain ⟨rfl, -⟩ := resolveIn?_eq_binding_iff.mp hin
  exact resolve?_eq_some_iff.mpr
    ⟨before, _, after, hscope, hv.resolveIn?, fun c hc => h.lacks_output (hbefore c hc)⟩

/-- A value that has the name of the text as its own is an object. -/
theorem exists_of_resolve?_output {scope : Scope} {owner old : Value}
    (h : s.resolve? scope outputName = some (.property owner old)) : ∃ a, owner = .object a := by
  obtain ⟨a, -, hin⟩ := List.exists_of_findSome?_eq_some h
  obtain ⟨f, -, -, hown⟩ := resolveIn?_eq_property_iff.mp hin
  obtain ⟨p, rfl, -⟩ := exists_of_ownProperty?_output (s := s) (by rw [hown]; rfl)
  exact ⟨p, rfl⟩

end Store

/-- Assigning to a name fails, writes a property of the value that has the name as its own, or declares
the name again where it was found. -/
theorem Run.run_assign_cases (scope : Scope) (n : String) (v : Value) (s : Store) :
    (∃ e, (Run.assign scope n v).run.run s = (.error e, s)) ∨
      (∃ owner old, s.resolve? scope n = some (.property owner old) ∧
        (Run.assign scope n v).run.run s = (Run.writeProperty owner n v).run.run s) ∨
      ∃ frame b, s.resolve? scope n = some (.binding frame b) ∧ b.assignable = true ∧
        (Run.assign scope n v).run.run s = (.ok (), s.declare frame n ⟨v, true⟩) := by
  unfold Run.assign
  rw [Run.run_read]
  split
  · exact Or.inl ⟨_, rfl⟩
  · exact Or.inr (Or.inl ⟨_, _, by assumption, rfl⟩)
  · split
    · exact Or.inr (Or.inr ⟨_, _, by assumption, by assumption, rfl⟩)
    · exact Or.inl ⟨_, rfl⟩

/-- The text so far is kept and only grows, if all code spares its name. If it is to stay `still`, the run
ends where it would be written. -/
def textKept (still : Prop) : Keeping where
  Inv s := (∃ text, s.Output text) ∧ ∀ k ∈ s.functions, k.code.Spares (· = outputName) True
  Goes s t := s.Grows t ∧
    ∀ text, s.Output text → ∃ more, t.Output (text ++ more) ∧ (still → more = "")
  Admits _ c x := c.output = programFrame ∧ x.Spares (· = outputName) True
  Passes _ c x := (c.output = programFrame ∧ x.Spares (· = outputName) True) ∧
    (still → outputName ∉ x.writes)
  AdmitsCall c := c.output = programFrame
  PassesCall _ c f := c.output = programFrame ∧ (still → f ≠ .builtin .print)
  Closes _ _ f := f.Spares (· = outputName) True
  Free n := n ≠ outputName
  Special e := ∃ value, e = .assign (some .add) (.identifier outputName) value

section

variable {still : Prop} {s t w : Store} {a : Address} {n : String}

theorem textKept_trans (h : (textKept still).Goes s t) (h' : (textKept still).Goes t w) :
    (textKept still).Goes s w := by
  refine ⟨h.1.trans h'.1, fun text htext => ?_⟩
  obtain ⟨more, hmore, hstill⟩ := h.2 text htext
  obtain ⟨rest, hrest, hstill'⟩ := h'.2 _ hmore
  refine ⟨more ++ rest, String.append_assoc ▸ hrest, fun h => ?_⟩
  rw [hstill h, hstill' h]
  rfl

theorem textKept_after (h : (textKept still).Steps s t) (h' : (textKept still).Steps t w) :
    (textKept still).Steps s w := ⟨h'.inv, textKept_trans h.goes h'.goes⟩

/-- A change that leaves what stands in the place of the text. -/
theorem textKept_steps (hs : (textKept still).Inv s) (hgrows : s.Grows t)
    (houtput : ∀ text, s.Output text → t.Output text)
    (hcode : ∀ k ∈ t.functions, k.code.Spares (· = outputName) True) :
    (textKept still).Steps s t where
  inv := by
    obtain ⟨⟨text, htext⟩, -⟩ := hs
    exact ⟨⟨text, houtput text htext⟩, hcode⟩
  goes := by
    refine ⟨hgrows, fun text htext => ⟨"", ?_, fun _ => rfl⟩⟩
    rw [String.append_empty]
    exact houtput _ htext

theorem textKept_refl (hs : (textKept still).Inv s) : (textKept still).Steps s s :=
  textKept_steps hs (.refl s) (fun _ => id) hs.2

theorem textKept_declare (hs : (textKept still).Inv s) (hne : a ≠ programFrame ∨ n ≠ outputName)
    (b : Binding) : (textKept still).Steps s (s.declare a n b) :=
  textKept_steps hs (.declare ..) (fun _ hv => hv.declare_of_ne hne b) hs.2

theorem textKept_aside (hs : (textKept still).Inv s) (hgrows : s.Grows t) (hframes : t.frames = s.frames)
    (hfunctions : t.functions = s.functions) : (textKept still).Steps s t :=
  textKept_steps hs hgrows (fun _ hv => hv.of_frames hframes) (hfunctions ▸ hs.2)

/-- A text is written that goes on where an earlier one ended; what has come to the text in between is
gone. -/
theorem textKept_overwrite (h : (textKept still).Steps s t) (hstill : ¬ still) {text : String}
    (more : String) (htext : s.Output text) :
    (textKept still).Steps s
      (t.declare programFrame outputName ⟨.string (text ++ more), true⟩) := by
  obtain ⟨⟨old, hold⟩, hcode⟩ := h.inv
  have hnew := hold.declare (.string (text ++ more))
  refine ⟨⟨⟨_, hnew⟩, hcode⟩, h.goes.1.trans (.declare ..), fun first hfirst => ⟨more, ?_, ?_⟩⟩
  · cases hfirst.unique htext
    exact hnew
  · exact fun h => absurd h hstill

/-- What is written after the operand has been evaluated goes on where the text ended before. -/
theorem textKept_written (hs : (textKept still).Inv s) (h : (textKept still).Steps s t)
    (hstill : ¬ still) {scope : Scope} {r : Resolved} (hr : s.resolve? scope outputName = some r)
    (v : Value) : (textKept still).Steps s
      ((Run.assign scope outputName (t.binary .add r.value v)).run.run t).2 := by
  rcases Run.run_assign_cases scope outputName (t.binary .add r.value v) t with
    ⟨e, hrun⟩ | ⟨owner, old, hfound, hrun⟩ | ⟨frame, b, hfound, -, hrun⟩
  · rw [hrun]
    exact h
  · obtain ⟨a, rfl⟩ := Store.exists_of_resolve?_output hfound
    rw [hrun]
    exact textKept_after h (textKept_aside h.inv (.setField t a _ _) rfl rfl)
  · rw [hrun]
    by_cases hframe : frame = programFrame
    · subst hframe
      obtain ⟨⟨text, htext⟩, -⟩ := hs
      cases hr.symm.trans (htext.resolve? h.goes.1 hfound)
      rw [Resolved.value, binary_add_string]
      exact textKept_overwrite h hstill _ htext
    · exact textKept_after h (textKept_declare h.inv (Or.inl hframe) _)

/-- The operand of an assignment that appends to the text may write the text itself. -/
theorem textKept_special {c : Context} {value : Expr} {one other : Evaluator}
    (hs : (textKept still).Inv s)
    (hx : (textKept still).Passes s c (.expression (.assign (some .add) (.identifier outputName) value)))
    (h : (textKept still).pairing.Agree one other) : (textKept still).pairing.Alike s s
      (one.evalStep c (.assign (some .add) (.identifier outputName) value))
      (other.evalStep c (.assign (some .add) (.identifier outputName) value)) := by
  have hstill : ¬ still := fun h => hx.2 h (.head _)
  have hvalue := h.eval (s := s) ⟨rfl, hs⟩ ⟨hx.1.1, hx.1.2.part (.tail _ (.head _))⟩
  simp only [Evaluator.evalStep, Evaluator.assign, Evaluator.target, Evaluator.readTarget,
    Evaluator.writeTarget, Run.lookup, pure_bind, bind_assoc]
  refine .read ?_
  cases hr : s.resolve? c.scope outputName with
  | none =>
    rw [Store.lookup?, hr]
    exact .error trivial (textKept_refl hs).moves
  | some r =>
    rw [Store.lookup?, hr]
    simp only [Option.map_some, pure_bind]
    unfold Pairing.Alike at hvalue ⊢
    rw [Run.run_bind, Run.run_bind]
    generalize (one.eval c value).run.run s = x at hvalue ⊢
    generalize (other.eval c value).run.run s = y at hvalue ⊢
    cases hvalue with
    | error hfails hmoves => exact .error hfails hmoves
    | ok hvisible hmoves =>
      rename_i v t u
      obtain ⟨⟨rfl, hinv⟩, hgoes⟩ := hmoves
      have hwritten := textKept_written hs ⟨hinv, hgoes⟩ hstill hr v
      rw [show rename (textKept still).pairing.places v = v from Renaming.same_value v]
      refine Keeping.ends_of_steps Renaming.same_value Renaming.same_visible ?_ fun _ _ => trivial
      dsimp only
      rw [Run.run_read, Run.run_bind]
      generalize (Run.assign c.scope outputName _).run.run u = z at hwritten ⊢
      obtain ⟨_ | _, w⟩ := z <;> exact hwritten

theorem textKept_lawful (still : Prop) : (textKept still).Lawful where
  refl s := ⟨.refl s, fun text htext => ⟨"", String.append_empty.symm ▸ htext, fun _ => rfl⟩⟩
  trans := textKept_trans
  grows := And.left
  exhausted := trivial
  failed _ := trivial
  admitsLater _ := id
  passesLater _ := id
  ownsLater _ := id
  admits := And.left
  part hx hy := ⟨hx.1, hx.2.part hy⟩
  call := And.left
  closes hx hf := hx.2.function hf
  free hf n hn := hf.not_of_mem_names hn
  freeRound hx := by
    rcases hx with hx | hx
    · cases hx.1.2 with
      | loopOf hname _ _ => exact hname
    · cases hx.1.2 with
      | loopIn hname _ _ => exact hname
  targets _ _ _ := Or.inr trivial
  found _ _ _ := trivial
  special hs hx hspecial h := by
    obtain ⟨value, rfl⟩ := hspecial
    exact textKept_special hs hx h
  assign {s c x n frame b} v hs hx hn hspecial _ _ := by
    refine textKept_declare hs (Or.inr fun hname => ?_) _
    obtain ⟨value, rfl⟩ := hx.1.2.of_mem_writes hn hname
    exact hspecial _ rfl ⟨value, hname ▸ rfl⟩
  declaration {s c kind ds d} b hs hx _ hd := by
    refine textKept_declare hs (Or.inr ?_) _
    cases hx.1.2 with
    | declaration _ hnames _ => exact hnames d hd
  declare b hs _ hn := textKept_declare hs (Or.inr hn) _
  aside hs hgrows hframes hfunctions := textKept_aside hs hgrows hframes hfunctions
  addFunction {s scope f} hs hf := by
    refine textKept_steps hs (.addFunction ..) (fun _ hv => hv.of_frames rfl) fun k hk => ?_
    rcases Array.mem_push.mp hk with hk | rfl
    · exact hs.2 k hk
    · exact hf
  addFrame {s kind} hs _ _ :=
    ⟨trivial, fun _ _ => id,
      textKept_steps hs (.addFrame ..) (fun _ hv => hv.addFrame kind) hs.2⟩
  print {s c} text hs hcall := by
    obtain ⟨hc, hstill⟩ := hcall
    obtain ⟨⟨old, hold⟩, hcode⟩ := hs
    have hnew := hold.append text
    rw [hc]
    refine ⟨⟨⟨_, hnew⟩, hcode⟩, .append .., fun first hfirst => ⟨text, ?_, fun h => ?_⟩⟩
    · cases hfirst.unique hold
      exact hnew
    · exact absurd rfl (hstill h)
  closure hs hk := hs.2 _ (Array.mem_of_getElem? hk)
  enter {s c a k} hs hcall hk := by
    have hspares := hs.2 k (Array.mem_of_getElem? hk)
    refine ⟨trivial, textKept_steps hs (.addFrame ..) (fun _ hv => hv.addFrame .function) hs.2,
      fun t _ _ x hx => ⟨hcall.1, ?_⟩⟩
    cases hspares with
    | mk _ _ _ hbody => exact hbody x hx

end

end Microtemplate.Script
