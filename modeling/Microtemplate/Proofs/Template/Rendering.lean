import Microtemplate.Proofs.Script.Sparing
import Microtemplate.Proofs.Template.Appending

/-!
Rendering a template whose regions show fields: the result is the template with what it shows in the
place of each region. Nothing else of the data, and nothing of the program around the regions,
comes into it.
-/

namespace Microtemplate

open Script

namespace ProgramText

/-- A store in which the frame of the program has the given names and is the innermost one. -/
def named (base : Store) (names : Fields Binding) : Store :=
  { base with frames := #[⟨.global, globalBindings (.object 0) (.object 1)⟩, ⟨.function, names⟩] }

/-- A program starts with no names in its frame. -/
theorem eq_named {base : Store} (hframes : base.frames = initialStore.frames) :
    base = named base [] := by
  obtain ⟨arrays, objects, functions, methods, frames⟩ := base
  obtain rfl : frames = initialStore.frames := hframes
  rfl

theorem declare_named (base : Store) (names : Fields Binding) (name : String) (b : Binding) :
    (named base names).declare programFrame name b = named base (names.set name b) := by
  simp [named, Store.declare, Store.modifyFrame, programFrame]

theorem declareMissing_named {base : Store} {names : Fields Binding} {name : String}
    (h : names.has name = false) (b : Binding) :
    (named base names).declareMissing programFrame name b = named base (names.set name b) := by
  simp [named, Store.declareMissing, Store.modifyFrame, programFrame, h]

theorem resolve?_named {names : Fields Binding} {name : String} {b : Binding}
    (h : names.get? name = some b) (base : Store) :
    (named base names).resolve? programContext.scope name = some (.binding programFrame b) := by
  simp [named, Store.resolve?, Store.resolveIn?, programContext, programFrame,
    Store.visibleProperty?, h]

/-- The function that prints. -/
def printer : Function :=
  ⟨none, [], some "__a", [.expression (.assign (some .add) (.identifier "__p")
    (.call (.member (.identifier "__a") "join") [.string ""]))]⟩

/-- The function that prints has one name besides that of the text, to which it appends. -/
theorem printer_spares {names : String → Prop} {appends : Prop} (harguments : ¬ names "__a")
    (houtput : names "__p" → appends) : FunctionOf.Spares names appends printer := by
  refine .mk nofun nofun (by rintro _ ⟨⟩; exact harguments) (List.forall_mem_singleton.mpr ?_)
  refine .expression (.assign (fun _ => rfl) (.identifier houtput) (.call (.member _ ?_) ?_))
  · exact .identifier fun h => absurd h harguments
  · exact List.forall_mem_singleton.mpr (.string "")

/-- The store and the data while a program appends to its text, without a scope of the data. -/
def stage (base : Store) (parameter : String) (data : Value) (declared : Fields Binding) : Stage where
  base := { base with functions := base.functions.push ⟨printer, programContext.scope⟩ }
  inner := []
  scope := []
  depth := 0
  parameter := parameter
  data := data
  printer := .function base.functions.size
  declared := declared

/-- The stage in the scope of the data. -/
def innerStage (base : Store) (data : Value) (declared : Fields Binding) : Stage :=
  { stage base Settings.defaultVariable data declared with
    inner := [⟨.within data, []⟩, ⟨.block, []⟩]
    scope := [3, 2] }

/-- The names with which a program may hold its data. -/
def names : List String := ["__t", "__p", "print", "_"]

/-- The declarations of a program set up the text and the function that prints. -/
theorem exec_declaration (base : Store) {parameter : String} (hparameter : parameter ∉ names)
    (data : Value) (declared : Fields Binding) (n : Nat) :
    (exec (n + 2) programContext declaration).Gives
      (named base ((parameter, ⟨data, true⟩) :: ("__t", ⟨.undefined, true⟩) ::
        ("__p", ⟨.undefined, true⟩) :: ("print", ⟨.undefined, true⟩) :: declared)) .normal
      ((stage base parameter data declared).store .undefined (.string "")) := by
  have hne : ∀ name ∈ names, parameter ≠ name := fun name hname heq => hparameter (heq ▸ hname)
  have hp := hne "__p" (by decide)
  have hprint := hne "print" (by decide)
  let grown : Store := { base with functions := base.functions.push ⟨printer, programContext.scope⟩ }
  let before : Fields Binding := (parameter, ⟨data, true⟩) :: ("__t", ⟨.undefined, true⟩) ::
    ("__p", ⟨.undefined, true⟩) :: ("print", ⟨.undefined, true⟩) :: declared
  let between : Fields Binding := (parameter, ⟨data, true⟩) :: ("__t", ⟨.undefined, true⟩) ::
    ("__p", ⟨.string "", true⟩) :: ("print", ⟨.undefined, true⟩) :: declared
  let after : Fields Binding := (parameter, ⟨data, true⟩) :: ("__t", ⟨.undefined, true⟩) ::
    ("__p", ⟨.string "", true⟩) :: ("print", ⟨.function base.functions.size, true⟩) :: declared
  have htext : (Run.assign programContext.scope "__p" (.string "")).Gives (named base before) ()
      (named base between) := by
    have hfound : before.get? "__p" = some ⟨.undefined, true⟩ := by
      simp [before, Fields.get?, List.lookup_cons, beq_false_of_ne (Ne.symm hp)]
    have hset : before.set "__p" ⟨.string "", true⟩ = between := by
      simp [before, between, Fields.set, hp]
    have hresolved := resolve?_named hfound
    have hassign := assign_gives (c := programContext) rfl (hresolved base) (.string "")
    rwa [declare_named, hset] at hassign
  have hprinter : (Run.assign programContext.scope "print" (.function base.functions.size)).Gives
      (named grown between) () (named grown after) := by
    have hfound : between.get? "print" = some ⟨.undefined, true⟩ := by
      simp [between, Fields.get?, List.lookup_cons, beq_false_of_ne (Ne.symm hprint)]
    have hset : between.set "print" ⟨.function base.functions.size, true⟩ = after := by
      simp [between, after, Fields.set, hprint]
    have hresolved := resolve?_named hfound
    have hassign := assign_gives (c := programContext) rfl (hresolved grown)
      (.function base.functions.size)
    rwa [declare_named, hset] at hassign
  have hfunction : (eval (n + 1) programContext (.function printer)).Gives (named base between)
      (.function base.functions.size) (named grown between) := rfl
  have hempty : (eval (n + 1) programContext (.string "")).Gives (named base before) (.string "")
      (named base before) := eval_string ""
  exact .bind (.bind hempty (.bind htext (.bind hfunction (.bind hprinter (.pure ())))))
    (.pure _)

/-- Names that are not there yet are declared without values. -/
theorem hoistNames_gives (base : Store) {found : Fields Binding} {more : List String}
    (hnodup : (found.names ++ more).Nodup) :
    (Evaluator.hoistNames programFrame more).Gives (named base found) ()
      (named base (found ++ more.map fun n => (n, ⟨.undefined, true⟩))) := by
  induction more generalizing found with
  | nil =>
    rw [List.map_nil, List.append_nil]
    exact .pure ()
  | cons n more ih =>
    have hn : n ∉ found.names := fun hmem =>
      (List.nodup_append.mp hnodup).2.2 n hmem n (List.mem_cons_self ..) rfl
    have hset := Fields.set_eq_append hn (⟨.undefined, true⟩ : Binding)
    have hmore : ((found.set n ⟨.undefined, true⟩).names ++ more).Nodup := by
      rw [hset]
      simpa [Fields.names] using hnodup
    have hrest := ih hmore
    rw [hset, List.append_assoc, List.singleton_append] at hrest
    refine .bind (.change _) ?_
    rw [declareMissing_named (Fields.has_eq_false hn), hset]
    exact hrest

/-- A program starts with the data under its name and with its own names, which have no value
yet. -/
theorem execBody_gives (base : Store) (parameter : String) (data : Value) {body : List Stmt}
    (hnodup : (parameter :: hoistedList body).Nodup)
    (hfunctions : Evaluator.hoistFunctions programContext programFrame body = pure ()) {n : Nat}
    {v : Value} {t : Store} (hbody : ((Evaluator.within n).execAll programContext body).Gives
      (named base ((parameter, ⟨data, true⟩) ::
        (hoistedList body).map fun n => (n, ⟨.undefined, true⟩))) (.returned v) t) :
    ((Evaluator.within n).execBody programContext programFrame body).Gives
      (named base [(parameter, ⟨data, true⟩)]) v t := by
  have hnames : (Evaluator.hoistNames programFrame (hoistedList body)).Gives
      (named base [(parameter, ⟨data, true⟩)]) () _ := hoistNames_gives base hnodup
  refine hnames.bind ?_
  rw [hfunctions]
  exact .bind (.pure ()) (hbody.bind (.pure v))

theorem declareArguments_gives (base : Store) (parameter : String) (data : Value)
    (body : List Stmt) :
    (Evaluator.declareArguments programFrame ⟨none, [parameter], none, body⟩ [data]).Gives
      (named base []) () (named base [(parameter, ⟨data, true⟩)]) := by
  have hparameters : (Run.declareParameters programFrame [parameter] [data]).Gives
      (named base []) () (named base [(parameter, ⟨data, true⟩)]) := by
    refine .bind (.change _) ?_
    rw [declare_named]
    exact .pure ()
  exact hparameters.bind (.pure ())

/-- The scope of the data is entered: its fields come before the names of the program. -/
theorem exec_inScope (base : Store) (place : Address) (declared : Fields Binding)
    {body : List Stmt} {n : Nat} {t : Store}
    (hfunctions : ∀ c frame, Evaluator.hoistFunctions c frame body = pure ())
    (hbody : ((Evaluator.within (n + 1)).execAll
      (innerStage base (.object place) declared).context body).Gives
        ((innerStage base (.object place) declared).store .undefined (.string "")) .normal t) :
    (exec (n + 3) programContext (inScope body)).Gives
      ((stage base Settings.defaultVariable (.object place) declared).store .undefined (.string ""))
      .normal t := by
  let outside :=
    (stage base Settings.defaultVariable (.object place) declared).store .undefined (.string "")
  let between : Store := { outside with frames := outside.frames.push ⟨.within (.object place), []⟩ }
  have hlookup : outside.lookup? programContext.scope "obj" = some (.object place) := by
    simp [outside, Store.lookup?, Store.resolve?, Store.resolveIn?, programContext, Stage.store,
      programFrame, Store.visibleProperty?, Stage.bindings, stage, Settings.defaultVariable,
      Fields.get?, Resolved.value]
  have hobject : (eval (n + 2) programContext (.logical .or (.identifier "obj") (.object []))).Gives
      outside (.object place) outside := eval_logical (eval_identifier hlookup) rfl
  have hblock : (exec (n + 2) (programContext.push 2) (.block body)).Gives between .normal t := by
    refine .bind (.add _) ?_
    rw [hfunctions]
    exact .bind (.pure ()) hbody
  exact hobject.bind (.bind (.add _) hblock)

theorem reserved_subset_names : Stage.reserved ⊆ names := by decide

section

variable {base : Store} (hhelpers : base.fields 0 = [("escape", .builtin .escape),
  ("each", .builtin .each)]) {place : Address}

include hhelpers

theorem stage_proper {parameter : String} (hparameter : parameter ∉ names) (data : Value) :
    (stage base parameter data []).Proper where
  parameter h := hparameter (reserved_subset_names h)
  declared := rfl
  hidden := by simp [stage]
  helpers := hhelpers

theorem innerStage_proper (hhidden : ∀ name ∈ Stage.reserved,
    (base.fields place).get? name = none) : (innerStage base (.object place) []).Proper where
  parameter := (by decide : Settings.defaultVariable ∉ Stage.reserved)
  declared := rfl
  hidden a ha name hname last text := by
    simp only [innerStage, List.mem_cons, List.not_mem_nil, or_false] at ha
    rcases ha with rfl | rfl
    · exact Stage.resolveIn?_block rfl last text name
    · rw [Stage.resolveIn?_data rfl last text name]
      exact congrArg (Option.map _) (hhidden name hname)
  helpers := hhelpers

end

/-- A field is a property of the variable that holds the data. -/
theorem stage_refers {base : Store} {place : Address} {name : String} {x : Value}
    (hx : (base.fields place).get? name = some x) (v : String) :
    (stage base v (.object place) []).Refers (some v) name x := by
  intro n last text
  have hlookup : ((stage base v (.object place) []).store last text).lookup?
      (stage base v (.object place) []).context.scope v = some (.object place) := by
    simp [Store.lookup?, Store.resolve?, Store.resolveIn?, Stage.context, Stage.store, stage,
      programFrame, Store.visibleProperty?, Stage.bindings, Fields.get?, Resolved.value]
  have hproperty : (Run.readProperty (.object place) name).Gives
      ((stage base v (.object place) []).store last text) x
      ((stage base v (.object place) []).store last text) := by
    have hread : ((((stage base v (.object place) []).store last text).fields place).get? name).getD
        .undefined = x := congrArg (·.getD Value.undefined) hx
    rw [← hread]
    exact .read _
  exact eval_member (eval_identifier hlookup) hproperty

/-- A field is a name in the scope of the data. -/
theorem innerStage_refers {base : Store} {place : Address} {name : String} {x : Value}
    (hx : (base.fields place).get? name = some x) :
    (innerStage base (.object place) []).Refers none name x := by
  intro n last text
  refine eval_identifier ?_
  have hinner := Stage.resolveIn?_block (g := innerStage base (.object place) []) rfl last text name
  have houter := Stage.resolveIn?_data (g := innerStage base (.object place) []) rfl last text name
  have hproperty : (innerStage base (.object place) []).base.ownProperty? (.object place) name =
      some x := hx
  rw [hproperty] at houter
  change (List.findSome? _ [3, 2, programFrame, globalFrame]).map Resolved.value = _
  rw [List.findSome?_cons, hinner, List.findSome?_cons, houter]
  rfl

/-- The last statement gives the text. -/
theorem exec_result {g : Stage} (hparameter : g.parameter ∉ names) (n : Nat) (last text : Value) :
    (exec (n + 2) programContext result).Gives (g.store last text) (.returned text)
      (g.store last text) := by
  have hne : ("__p" == g.parameter) = false :=
    beq_false_of_ne fun heq => hparameter (heq ▸ by decide)
  refine exec_returning (eval_identifier ?_)
  simp [Store.lookup?, Store.resolve?, Store.resolveIn?, programContext, Stage.store, programFrame,
    Store.visibleProperty?, Stage.bindings, Fields.get?, List.lookup_cons, hne, Resolved.value]

/-- The data of a program in its store: an object with values that show the fields of the data, of
which none has a name that the statements of slots use. -/
structure Holds (base : Store) (place : Address) (fields : List (String × Json)) : Prop where
  helpers : base.fields 0 = [("escape", .builtin .escape), ("each", .builtin .each)]
  shows : ShowsFields base (base.fields place) fields
  hidden : ∀ name ∈ Stage.reserved, Fields.get? fields name = none

section

variable {base : Store} {place : Address} {fields : List (String × Json)} {slots : List Slot}
  (h : Holds base place fields) (lead : List Char)
  (hkeys : ∀ s ∈ slots, (Fields.get? fields s.name).isSome = true)

include h

theorem Holds.get? {name : String} (hkey : (Fields.get? fields name).isSome = true) :
    ∃ x j, Fields.get? fields name = some j ∧ (base.fields place).get? name = some x ∧
      Shows base x j := by
  rcases h.shows.get? name with ⟨hnone, -⟩ | ⟨j, x, hj, hx, hshows⟩
  · rw [hnone] at hkey
    cases hkey
  · exact ⟨x, j, hj, hx, hshows⟩

theorem Holds.get?_eq_none {name : String} (hname : name ∈ Stage.reserved) :
    (base.fields place).get? name = none := by
  rcases h.shows.get? name with ⟨-, hnone⟩ | ⟨j, x, hj, -⟩
  · exact hnone
  · rw [h.hidden name hname] at hj
    cases hj

include hkeys

/-- The statements of a program end with the text of its slots. -/
theorem execAll_tree (v : Option String) (hv : v.getD Settings.defaultVariable ∉ names) (n : Nat) :
    ∃ t, ((Evaluator.within (n + 2 * slots.length + 9)).execAll programContext
      (tree v lead slots).body).Gives
        (named base [(v.getD Settings.defaultVariable, ⟨.object place, true⟩),
          ("__t", ⟨.undefined, true⟩), ("__p", ⟨.undefined, true⟩), ("print", ⟨.undefined, true⟩)])
        (.returned (.string (String.ofList lead ++ String.join (slots.map (·.shown fields))))) t := by
  have hdeclared := exec_declaration base hv (.object place) [] (n + 2 * slots.length + 7)
  cases v with
  | none =>
    have hproper : (innerStage base (.object place) []).Proper :=
      innerStage_proper h.helpers fun name hname => h.get?_eq_none hname
    have hslots : ∀ s ∈ slots, (innerStage base (.object place) []).Resolves none fields s := by
      intro s hs
      obtain ⟨x, j, hj, hx, hshows⟩ := h.get? (hkeys s hs)
      exact ⟨x, j, hj, innerStage_refers hx, hshows.of_arrays rfl⟩
    obtain ⟨last, happend⟩ := Stage.exec_append hproper hslots lead n .undefined ""
    rw [String.empty_append] at happend
    have hall : ((Evaluator.within (n + 2 * slots.length + 7)).execAll
        (innerStage base (.object place) []).context [append none lead slots]).Gives
          ((innerStage base (.object place) []).store .undefined (.string "")) .normal _ :=
      happend.bind (.pure _)
    have hscope := exec_inScope base place [] (fun _ _ => rfl) hall
    have hresult := exec_result (g := innerStage base (.object place) []) hv
      (n + 2 * slots.length + 7) last
      (.string (String.ofList lead ++ String.join (slots.map (·.shown fields))))
    exact ⟨_, hdeclared.bind (hscope.bind (hresult.bind (.pure _)))⟩
  | some w =>
    have hproper := stage_proper h.helpers hv (.object place)
    have hslots : ∀ s ∈ slots, (stage base w (.object place) []).Resolves (some w) fields s := by
      intro s hs
      obtain ⟨x, j, hj, hx, hshows⟩ := h.get? (hkeys s hs)
      exact ⟨x, j, hj, stage_refers hx w, hshows.of_arrays rfl⟩
    obtain ⟨last, happend⟩ := Stage.exec_append hproper hslots lead (n + 2) .undefined ""
    have hbound : n + 2 + 2 * slots.length + 7 = n + 2 * slots.length + 9 := by omega
    rw [String.empty_append, hbound] at happend
    have hresult := exec_result (g := stage base w (.object place) []) hv
      (n + 2 * slots.length + 7) last
      (.string (String.ofList lead ++ String.join (slots.map (·.shown fields))))
    exact ⟨_, hdeclared.bind (happend.bind (hresult.bind (.pure _)))⟩

end

/-- Data in the store in which a program starts. -/
theorem holds_addJson {fields : List (String × Json)}
    (hhidden : ∀ name ∈ Stage.reserved, Fields.get? fields name = none) :
    ∃ base place, initialStore.addJson (.object fields) = (.object place, base) ∧
      base.frames = (named base []).frames ∧ Holds base place fields := by
  obtain ⟨hgrown, hshows⟩ := addJsonFields_shows fields initialStore
  let s := (Store.addJsonFields fields initialStore).2
  let values := (Store.addJsonFields fields initialStore).1
  have hmore := hgrown.trans (.addObject s values)
  refine ⟨(s.addObject values).2, s.objects.size, rfl, hmore.frames, ?_, ?_, hhidden⟩
  · exact hmore.fields 0 (by decide)
  · rw [fields_addObject]
    exact hshows.imp fun _ _ h => ⟨h.1, h.2.grown (.addObject s values)⟩

/-- What a program renders is the text of its value, once the data have their name. -/
theorem render_eq_run {j : Json} {data : Value} {base : Store}
    (hdata : initialStore.addJson j = (data, base)) (hframes : base.frames = initialStore.frames)
    (parameter : String) (body : List Stmt) (bound : Nat) :
    Function.render ⟨none, [parameter], none, body⟩ bound j =
      ((do
        let v ← (Evaluator.within bound).execBody programContext programFrame body
        if v = .undefined then return "" else Script.Run.text v : Script.Run String).run.run
          (named base [(parameter, ⟨data, true⟩)])).1 := by
  have harguments := declareArguments_gives base parameter data body
  rw [← eq_named hframes] at harguments
  rw [Function.render, hdata]
  exact congrArg Prod.fst (harguments.run_bind _)

/-- A program gives the text that its statements return. -/
theorem render_of_execAll {parameter : String} {body : List Stmt} {j : Json} {data : Value}
    {base t : Store} {n : Nat} {text : String} (hdata : initialStore.addJson j = (data, base))
    (hframes : base.frames = initialStore.frames) (hnodup : (parameter :: hoistedList body).Nodup)
    (hfunctions : Evaluator.hoistFunctions programContext programFrame body = pure ())
    (hbody : ((Evaluator.within n).execAll programContext body).Gives
      (named base ((parameter, ⟨data, true⟩) ::
        (hoistedList body).map fun n => (n, ⟨.undefined, true⟩))) (.returned (.string text)) t) :
    Function.render ⟨none, [parameter], none, body⟩ n j = .ok text := by
  have hreturned := execBody_gives base parameter data hnodup hfunctions hbody
  rw [render_eq_run hdata hframes]
  exact congrArg Prod.fst (hreturned.bind (.read _))

/-- A program gives its text with what its slots show. -/
theorem render_tree {v : Option String} (hv : v.getD Settings.defaultVariable ∉ names)
    (lead : List Char) {slots : List Slot} {fields : List (String × Json)}
    (hhidden : ∀ name ∈ Stage.reserved, Fields.get? fields name = none)
    (hkeys : ∀ s ∈ slots, (Fields.get? fields s.name).isSome = true) {bound : Nat}
    (hbound : 2 * slots.length + 9 ≤ bound) :
    (tree v lead slots).render bound (.object fields) =
      .ok (String.ofList lead ++ String.join (slots.map (·.shown fields))) := by
  obtain ⟨base, place, hdata, hframes, h⟩ := holds_addJson hhidden
  obtain ⟨n, rfl⟩ := Nat.exists_eq_add_of_le' hbound
  obtain ⟨t, hall⟩ := execAll_tree h lead hkeys v hv n
  have hhoisted : hoistedList (tree v lead slots).body = ["__t", "__p", "print"] := by
    cases v <;> rfl
  have hnodup : (v.getD Settings.defaultVariable :: hoistedList (tree v lead slots).body).Nodup := by
    rw [hhoisted]
    refine List.nodup_cons.mpr ⟨fun hmem => hv ?_, by decide⟩
    exact (by decide : ["__t", "__p", "print"] ⊆ names) hmem
  have hfunctions : Evaluator.hoistFunctions programContext programFrame
      (tree v lead slots).body = pure () := by
    cases v <;> rfl
  refine render_of_execAll (t := t) hdata hframes hnodup hfunctions ?_
  cases v <;> exact hall

end ProgramText

end Microtemplate
