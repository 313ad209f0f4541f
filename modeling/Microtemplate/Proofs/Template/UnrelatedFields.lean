import Microtemplate.Proofs.Script.UnreadField
import Microtemplate.Proofs.Template.Rendering
import Microtemplate.Proofs.Template.SurroundingNames

/-!
Fields of the data that a template has nothing to do with. The data may have such a field or not: if the
template mentions neither its name nor the variable that holds the data, and the name is not around what
the template gives, it renders the same text or comes to the same error.
-/

namespace Microtemplate

open Script

namespace ProgramText

section Start

variable {e : Extra} {base base' : Store}

/-- The names with which a program starts. -/
theorem binding?_named {names : Fields Binding} {a : Address} {n : String} {b : Binding}
    (h : (named base names).binding? a n = some b) :
    (n, b) ∈ globalBindings (.object 0) (.object 1) ∨ (n, b) ∈ names := by
  match a with
  | 0 => exact .inl (Fields.mem_of_get? h)
  | 1 => exact .inr (Fields.mem_of_get? h)
  | _ + 2 =>
    simp [named, Store.binding?] at h

theorem outside_named (names : Fields Binding) : e.Outside (named base names) programContext.scope :=
  List.forall_mem_cons.mpr ⟨⟨_, rfl, nofun⟩, List.forall_mem_singleton.mpr ⟨_, rfl, nofun⟩⟩

/-- A program starts with the data under its name, in one run with the field and in the other one
without. -/
theorem holds_named (h : e.HoldsData base base') (hfunctions : base.functions = #[])
    (hobjects : 2 ≤ e.objects) (hdata : e.objects ≤ e.data) :
    e.Holds (named base [(e.parameter, ⟨.object e.data, true⟩)])
      (named base' [(e.parameter, ⟨.object (e.places.objects e.data), true⟩)]) where
  ahead := { h.ahead with mirrors := h.ahead.mirrors.aside rfl rfl rfl rfl rfl rfl rfl rfl }
  arrays := h.arrays
  objects := h.objects
  data := h.data
  fields := h.fields
  visibleFields := h.visibleFields
  frames := by
    have hhelpers : e.places.objects 0 = 0 := shift_of_lt (Nat.lt_of_lt_of_le Nat.zero_lt_two hobjects) _
    have hjson : e.places.objects 1 = 1 := shift_of_lt (Nat.lt_of_lt_of_le Nat.one_lt_two hobjects) _
    simp [named, Renaming.frame, Renaming.kind, Renaming.bindings, Renaming.binding, globalBindings,
      Renaming.value, hhelpers, hjson]
  parameter := by simp [named, Store.binding?, programFrame, Fields.get?]
  bindings a n b hn hb := by
    rcases binding?_named hb with hglobal | hname
    · have hbelow := Nat.le_trans hobjects hdata
      have hhelpers : ¬ e.places.hidden 0 := Nat.ne_of_lt (Nat.lt_of_lt_of_le Nat.zero_lt_two hbelow)
      have hjson : ¬ e.places.hidden 1 := Nat.ne_of_lt (Nat.lt_of_lt_of_le Nat.one_lt_two hbelow)
      have hall : ∀ p ∈ globalBindings (.object 0) (.object 1), e.places.Visible p.2.value := by
        simp [globalBindings, Renaming.Visible, hhelpers, hjson]
      exact hall _ hglobal
    · cases List.mem_singleton.mp hname
      exact absurd rfl hn
  code k hk := by
    rw [show (named base _).functions = #[] from hfunctions] at hk
    exact absurd hk (Array.not_mem_empty k)

end Start

/-- The first statement of a program does not have the name of the data. -/
theorem declaration_spares : declaration.Spares (· = Settings.defaultVariable) False := by
  refine .declaration _ (by decide) (List.forall_mem_cons.mpr ⟨nofun, List.forall_mem_cons.mpr ⟨?_, ?_⟩⟩)
  · rintro _ ⟨⟩
    exact .string ""
  · refine List.forall_mem_singleton.mpr ?_
    rintro _ ⟨⟩
    exact .function (printer_spares (by decide) (by decide))

section Run

variable {e : Extra} {s u : Store} {trees rest : List Stmt}
  (hparameter : e.parameter = Settings.defaultVariable)
  (htrees : ∀ x ∈ trees, x.Spares (· = Settings.defaultVariable) False ∧ x.Spares (· = e.field) False)
  (hrest : ∀ x ∈ rest, x.Spares (· = Settings.defaultVariable) False ∧ x.Spares (· = e.field) False)

include hparameter

theorem unread_lawful : e.pairing.Lawful := e.pairing_lawful (hparameter ▸ by decide)

/-- Both runs find the data under their name. -/
theorem lookup?_data (hs : e.Holds s u) (houtside : e.Outside s programContext.scope)
    (hkind : ∃ f, s.frames[programFrame]? = some f ∧ f.kind = .function) :
    s.lookup? programContext.scope Settings.defaultVariable = some (.object e.data) ∧
      u.lookup? programContext.scope Settings.defaultVariable =
        some (.object (e.places.objects e.data)) := by
  obtain ⟨f, hf, hkind⟩ := hkind
  have hheld : f.bindings.get? Settings.defaultVariable = some ⟨.object e.data, true⟩ := by
    have hbinding := hs.parameter
    rw [hparameter, Store.binding?, hf] at hbinding
    exact hbinding
  have hnowhere : ∀ v, f.kind = .within v → s.ownProperty? v Settings.defaultVariable = none := by
    intro v hv
    rw [hkind] at hv
    cases hv
  have hin : s.resolveIn? programFrame Settings.defaultVariable =
      some (.binding programFrame ⟨.object e.data, true⟩) :=
    Store.resolveIn?_eq_binding_iff.mpr ⟨rfl, f, hf, hnowhere, hheld⟩
  have hresolve : s.resolve? programContext.scope Settings.defaultVariable =
      some (.binding programFrame ⟨.object e.data, true⟩) := by
    rw [Store.resolve?, programContext, List.findSome?_cons, hin]
  have hresolve' := hs.resolve? (n := Settings.defaultVariable) (.inr houtside)
  rw [Store.lookup?, Store.lookup?, hresolve', hresolve]
  exact ⟨rfl, rfl⟩

include htrees

/-- Both runs come to the same in the scope of the data. -/
theorem alike_inScope (hs : e.Holds s u) (houtside : e.Outside s programContext.scope)
    (hkind : ∃ f, s.frames[programFrame]? = some f ∧ f.kind = .function)
    (hagree : ∀ n, e.pairing.Agree (.within n) (.within n)) (n : Nat) :
    e.pairing.Alike s u (exec n programContext (inScope trees)) (exec n programContext (inScope trees)) := by
  have hP := unread_lawful hparameter
  match n with
  | 0 | 1 | 2 => exact .error trivial (.refl hP hs)
  | n + 3 =>
    obtain ⟨hfound, hfound'⟩ := lookup?_data hparameter hs houtside hkind
    have hdata : (eval (n + 2) programContext (.logical .or (.identifier "obj") (.object []))).Gives s
        (.object e.data) s := eval_logical (eval_identifier hfound) rfl
    have hdata' : (eval (n + 2) programContext (.logical .or (.identifier "obj") (.object []))).Gives u
        (.object (e.places.objects e.data)) u := eval_logical (eval_identifier hfound') rfl
    obtain ⟨hsize, hmoves⟩ := hs.addFrame (.within (.object e.data))
    have hblock : e.Admits (s.addFrame (.within (.object e.data))).2
        (programContext.push s.frames.size).scope (.statement (.block trees)) :=
      ⟨hparameter ▸ .block fun x hx => (htrees x hx).1, .inl (.block fun x hx => (htrees x hx).2)⟩
    have halike := (hagree (n + 2)).exec (c := programContext.push s.frames.size) hmoves.holds hblock
    have hentered : ∀ (w : Store) (place : Address),
        (eval (n + 2) programContext (.logical .or (.identifier "obj") (.object []))).Gives w
          (.object place) w →
        (exec (n + 3) programContext (inScope trees)).run.run w =
          (exec (n + 2) (programContext.push w.frames.size) (.block trees)).run.run
            (w.addFrame (.within (.object place))).2 := by
      intro w place hplace
      exact hplace.run_bind fun v => if v.isNullish then Run.fail .notObject else do
        let frame ← Run.add (·.addFrame (.within v))
        exec (n + 2) (programContext.push frame) (.block trees)
    unfold Pairing.Alike
    rw [hentered s _ hdata, hentered u _ hdata', hsize]
    exact .trans hP hmoves.goes halike

include hrest

/-- Both runs come to the same value of the program. -/
theorem alike_execBody (hs : e.Holds s u) (houtside : e.Outside s programContext.scope)
    (hkind : ∃ f, s.frames[programFrame]? = some f ∧ f.kind = .function) (n : Nat) :
    e.pairing.Alike s u
      ((Evaluator.within n).execBody programContext programFrame (declaration :: inScope trees :: rest))
      ((Evaluator.within n).execBody programContext programFrame
        (declaration :: inScope trees :: rest)) := by
  have hP := unread_lawful hparameter
  have hagree : ∀ n, e.pairing.Agree (.within n) (.within n) := by
    intro n
    have hjudges : e.pairing.Judges (fun _ => none) fun _ => none :=
      ⟨fun _ hx => .inl ⟨rfl, rfl, hx⟩, fun _ _ _ _ => .inl ⟨rfl, rfl, trivial⟩⟩
    rw [← Evaluator.judging_none]
    exact Evaluator.agree_judging hP hjudges n
  have hspares : ∀ x ∈ declaration :: .block trees :: rest, x.Spares (· = Settings.defaultVariable) False :=
    List.forall_mem_cons.mpr ⟨declaration_spares, List.forall_mem_cons.mpr
      ⟨.block fun x hx => (htrees x hx).1, fun x hx => (hrest x hx).1⟩⟩
  have hhoisted : ∀ m ∈ hoistedList (declaration :: inScope trees :: rest), m ≠ e.parameter :=
    fun m hm hname => Stmt.Spares.not_of_mem_hoistedList hspares hm (hname.trans hparameter)
  have hadmits : ∀ t x, x ∈ rest → e.Admits t programContext.scope (.statement x) := fun t x hx =>
    ⟨hparameter ▸ (hrest x hx).1, .inl (hrest x hx).2⟩
  refine Evaluator.alike_execBody_of hP hs trivial hhoisted fun t w _ hmoves => ?_
  have hfunctions : e.pairing.Alike t w (Evaluator.hoistFunctions programContext programFrame rest)
      (Evaluator.hoistFunctions programContext programFrame rest) :=
    Evaluator.alike_hoistFunctions hP hmoves.holds trivial (hadmits t)
  refine .bind hP hfunctions fun _ t' w' _ hmoves' => ?_
  have hgrows : s.Grows t' := hmoves.goes.trans hmoves'.goes
  have hdeclaration : e.Admits t' programContext.scope (.statement declaration) :=
    ⟨hparameter ▸ declaration_spares, .inr (houtside.later hgrows)⟩
  refine Evaluator.alike_execAll_cons hP ((hagree n).exec hmoves'.holds hdeclaration)
    fun t₁ w₁ hmoves₁ => ?_
  have hgrows₁ := hgrows.trans hmoves₁.goes
  have hkind₁ : ∃ f, t₁.frames[programFrame]? = some f ∧ f.kind = .function := by
    obtain ⟨f, hf, hfunction⟩ := hkind
    obtain ⟨g, hg, hsame, -⟩ := hgrows₁.frames programFrame f hf
    exact ⟨g, hg, hsame.trans hfunction⟩
  refine Evaluator.alike_execAll_cons hP (alike_inScope hparameter htrees hmoves₁.holds
    (houtside.later hgrows₁) hkind₁ hagree n) fun t₂ w₂ hmoves₂ => ?_
  exact Evaluator.alike_execAll hP (hagree n) hmoves₂.holds (hadmits t₂)

end Run

/-- A program renders the same with and without a field if its statements spare the name of the field
and, but for the scope of the data, that of the data. -/
theorem render_unrelated {trees rest : List Stmt} {name : String}
    (htrees : ∀ x ∈ trees, x.Spares (· = Settings.defaultVariable) False ∧ x.Spares (· = name) False)
    (hrest : ∀ x ∈ rest, x.Spares (· = Settings.defaultVariable) False ∧ x.Spares (· = name) False)
    (before after : List (String × Json)) (v : Json) (bound : Nat) :
    Function.render ⟨none, [Settings.defaultVariable], none, declaration :: inScope trees :: rest⟩ bound
        (.object (before ++ (name, v) :: after)) =
      Function.render ⟨none, [Settings.defaultVariable], none, declaration :: inScope trees :: rest⟩ bound
        (.object (before ++ after)) := by
  obtain ⟨e, base, base', rfl, hparameter, hdata, hdata', hgrown, hgrown', hobjects, hhidden, hholds⟩ :=
    Extra.exists_holdsData Settings.defaultVariable before after name v
  have hstart := holds_named hholds hgrown.functions hobjects hhidden
  rw [hparameter] at hstart
  have hkind : ∃ f, (named base [(Settings.defaultVariable,
      ⟨.object e.data, true⟩)]).frames[programFrame]? = some f ∧ f.kind = .function := ⟨_, rfl, rfl⟩
  have hshown := Evaluator.alike_shown (unread_lawful hparameter)
    (alike_execBody hparameter htrees hrest hstart (outside_named _) hkind bound)
  rw [render_eq_run hdata hgrown.frames, render_eq_run hdata' hgrown'.frames]
  exact hshown.result_eq

end ProgramText

namespace Compiled

/-- A template that mentions neither the variable that holds the data nor the name of a field, a name that
is not around what it gives either, renders the same text, or comes to the same error, with the field and
without it. -/
theorem render_unrelated_field {text : String} {c : Compiled}
    (h : ofTemplate text Settings.default = .ok c) (hdata : ¬ Mentions text Settings.defaultVariable)
    {name : String} (hmentions : ¬ Mentions text name) (hsurrounds : ¬ Surrounds text name)
    (before after : List (String × Json)) (v : Json) (bound : Nat) :
    c.renderWithin bound (.object (before ++ (name, v) :: after)) =
      c.renderWithin bound (.object (before ++ after)) := by
  obtain ⟨trees, rest, hprogram, hspares⟩ := ProgramText.exists_spares_unused h
  have hscaffold : ¬ Surrounds text Settings.defaultVariable := by
    rintro ⟨steps, -, hused⟩
    exact absurd (Source.namesUsed_subset steps hused) (by decide)
  obtain ⟨htrees, hrest⟩ := hspares _ hdata hscaffold
  obtain ⟨htrees', hrest'⟩ := hspares _ hmentions hsurrounds
  rw [renderWithin, renderWithin, hprogram]
  exact ProgramText.render_unrelated (fun x hx => ⟨htrees x hx, htrees' x hx⟩)
    (fun x hx => ⟨hrest x hx, hrest' x hx⟩) before after v bound

theorem render_unrelated_field_of_escaped :
    ∃ c, ofTemplate "<%- a %>!" Settings.default = .ok c ∧
      ¬ Mentions "<%- a %>!" Settings.defaultVariable ∧ ¬ Mentions "<%- a %>!" "b" ∧
      ¬ Surrounds "<%- a %>!" "b" ∧ ∀ bound,
        c.renderWithin bound (.object [("a", .string "<"), ("b", .array [.null]), ("c", .object [])]) =
          c.renderWithin bound (.object [("a", .string "<"), ("c", .object [])]) := by
  have hsteps : steps "<%- a %>!".toList Settings.default =
      .ok [.escaped " a ".toList, .literal "!".toList] := by
    decide +kernel
  have hmentions : ∀ name ∈ [Settings.defaultVariable, "b"], ¬ Mentions "<%- a %>!" name :=
    not_mentions hsteps (by decide +kernel)
  have hdata := hmentions Settings.defaultVariable (.head _)
  have hname := hmentions "b" (.tail _ (.head _))
  have hsurrounds : ¬ Surrounds "<%- a %>!" "b" := by
    rintro ⟨steps', hsteps', hused⟩
    cases hsteps.symm.trans hsteps'
    exact absurd hused (by decide)
  have hcompiles : (ofTemplate "<%- a %>!" Settings.default).toOption.isSome = true := by decide +kernel
  cases h : ofTemplate "<%- a %>!" Settings.default with
  | error e =>
    rw [h] at hcompiles
    cases hcompiles
  | ok c =>
    exact ⟨c, rfl, hdata, hname, hsurrounds, fun bound => render_unrelated_field h hdata hname hsurrounds
      [("a", .string "<")] [("c", .object [])] (.array [.null]) bound⟩

/-- What a template renders with the data of each of two objects. -/
def rendersBoth (text : String) (fields fields' : List (String × Json)) :
    Option (Except Halt String × Except Halt String) :=
  (ofTemplate text Settings.default).toOption.map fun c =>
    (c.render (.object fields), c.render (.object fields'))

/-- A field that no region names makes a difference if it is found in the place of a name around what the
template gives: of the text so far, of the value that is shown last (if a region leaves the scope of the
data meanwhile), or of the helpers. So does one that is named in other text of the template, or where that
text names the data, if a comment that regions open makes it code. -/
theorem field_makes_difference :
    (steps "x".toList Settings.default = .ok [.literal "x".toList] ∧
      rendersBoth "x" [] [("__p", .string "z")] = some (.ok "x", .ok "")) ∧
    (steps "<%= 1))); \x7d \x7b print(((1 %>".toList Settings.default =
        .ok [.raw " 1))); \x7d \x7b print(((1 ".toList] ∧
      rendersBoth "<%= 1))); \x7d \x7b print(((1 %>" [] [("__t", .null)] = some (.ok "11", .ok "1")) ∧
    (steps "<%- 1 %>".toList Settings.default = .ok [.escaped " 1 ".toList] ∧
      rendersBoth "<%- 1 %>" [] [("_", .object [])] =
        some (.ok "1", .error (.failed (.notFunction "_.escape")))) ∧
    (steps "<% /* %>*/ print(k); /*<% */ %>".toList Settings.default =
        .ok [.execute " /* ".toList, .literal "*/ print(k); /*".toList, .execute " */ ".toList] ∧
      rendersBoth "<% /* %>*/ print(k); /*<% */ %>" [] [("k", .string "z")] =
        some (.error (.failed (.notDefined "k")), .ok "z")) ∧
    (steps "<% /* %>*/ print(JSON.stringify(obj)); /*<% */ %>".toList Settings.default =
        .ok [.execute " /* ".toList, .literal "*/ print(JSON.stringify(obj)); /*".toList,
          .execute " */ ".toList] ∧
      rendersBoth "<% /* %>*/ print(JSON.stringify(obj)); /*<% */ %>" [] [("k", .null)] =
        some (.ok "\x7b\x7d", .ok "\x7b\"k\":null\x7d")) := by
  refine ⟨⟨?_, ?_⟩, ⟨?_, ?_⟩, ⟨?_, ?_⟩, ⟨?_, ?_⟩, ?_, ?_⟩ <;> decide +kernel

end Compiled

end Microtemplate
