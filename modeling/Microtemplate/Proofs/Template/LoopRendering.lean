import Microtemplate.Proofs.Template.LoopText
import Microtemplate.Proofs.Template.Rendering

/-!
Rendering a template with a loop in it: the body is appended once for each element of the field, in
their order, whichever way the loop goes through them.
-/

namespace Microtemplate

open Script

namespace Loop

/-- The stage of the body of a loop: the frames of earlier rounds, those of this round with their
addresses, and the number of functions that are being called. -/
def stage (base : Store) (place : Address) (printer : Value) (declared : Fields Binding)
    (frames : List Frame) (news : Scope) (depth : Nat) : Stage where
  base := base
  inner := ⟨.within (.object place), []⟩ :: ⟨.block, []⟩ :: frames
  scope := news ++ [3, 2]
  depth := depth
  parameter := Settings.defaultVariable
  data := .object place
  printer := printer
  declared := declared

/-- A frame of a round hides no name of the program. -/
def Quiet (f : Frame) : Prop :=
  (∀ v, f.kind ≠ .within v) ∧ ∀ name ∈ Stage.reserved, f.bindings.get? name = none

/-- The data of the loop in its store: an object whose only field is an array of values. -/
structure Holds (base : Store) (place a : Address) (values : List Value) : Prop where
  helpers : base.fields 0 = [("escape", .builtin .escape), ("each", .builtin .each)]
  fields : base.fields place = [("items", .array a)]
  elements : base.elements a = values.toArray

theorem quiet_nil : ∀ f ∈ ([] : List Frame), Quiet f := nofun

theorem get?_nil : Fields.get? ([] : Fields Binding) "_" = none := rfl

theorem quiet_block : Quiet ⟨.block, []⟩ := ⟨nofun, fun _ _ => rfl⟩

theorem quiet_function (v : Value) : Quiet ⟨.function, [("x", ⟨v, true⟩)]⟩ := by
  refine ⟨nofun, fun name hname => Fields.get?_eq_none fun hmem => ?_⟩
  rw [List.mem_singleton.mp hmem] at hname
  exact absurd hname (by decide : "x" ∉ Stage.reserved)

theorem quiet_append {frames : List Frame} (hframes : ∀ f ∈ frames, Quiet f) {f : Frame}
    (hf : Quiet f) : ∀ f' ∈ frames ++ [f], Quiet f' :=
  List.forall_mem_append.mpr ⟨hframes, List.forall_mem_singleton.mpr hf⟩

section

variable {base : Store} {place : Address} {printer : Value} {declared : Fields Binding}
  {frames : List Frame} {news : Scope} {depth : Nat}

/-- The frames of rounds come after those of the program and of its scope. -/
theorem resolveIn?_frames (hframes : ∀ f ∈ frames, Quiet f) (b : Address) (last text : Value)
    (name : String) :
    ((stage base place printer declared frames news depth).store last text).resolveIn? (b + 4) name =
      frames[b]?.bind fun f => (f.bindings.get? name).map (.binding (b + 4)) := by
  have hframe : ((stage base place printer declared frames news depth).store last text).frames[b + 4]? =
      frames[b]? := by
    simp [Stage.store, stage]
  rw [Store.resolveIn?, hframe]
  cases hf : frames[b]? with
  | none => rfl
  | some f =>
    obtain ⟨hkind, -⟩ := hframes f (List.mem_of_getElem? hf)
    have hvisible : ((stage base place printer declared frames news depth).store last
        text).visibleProperty? f name = none := by
      unfold Store.visibleProperty?
      split
      · rename_i v hv
        exact absurd hv (hkind v)
      · rfl
    simp only [hvisible, Option.bind_some]

/-- A new frame comes after those of the earlier rounds. -/
theorem addFrame_gives (kind : FrameKind) (last text : Value) :
    (Run.add (·.addFrame kind)).Gives
      ((stage base place printer declared frames news depth).store last text) (frames.length + 4)
      ((stage base place printer declared (frames ++ [⟨kind, []⟩]) news depth).store last text) := by
  let s := (stage base place printer declared frames news depth).store last text
  have hsize : s.frames.size = frames.length + 4 := by simp [s, Stage.store, stage]
  have hpush : (s.addFrame kind).2 =
      (stage base place printer declared (frames ++ [⟨kind, []⟩]) news depth).store last text := by
    simp [s, Store.addFrame, Stage.store, stage, Stage.bindings]
  have hadded : (Run.add (·.addFrame kind)).Gives s s.frames.size (s.addFrame kind).2 := .add _
  rwa [hsize, hpush] at hadded

/-- The parameter of the function of a round is declared in its frame. -/
theorem declare_gives (v last text : Value) :
    (Run.declare (frames.length + 4) "x" v true).Gives
      ((stage base place printer declared (frames ++ [⟨.function, []⟩]) news depth).store last text) ()
      ((stage base place printer declared (frames ++ [⟨.function, [("x", ⟨v, true⟩)]⟩]) news
        depth).store last text) := by
  let s := (stage base place printer declared (frames ++ [⟨.function, []⟩]) news depth).store last text
  have hdeclared : s.declare (frames.length + 4) "x" ⟨v, true⟩ =
      (stage base place printer declared (frames ++ [⟨.function, [("x", ⟨v, true⟩)]⟩]) news
        depth).store last text := by
    simp [s, Store.declare, Store.modifyFrame, Stage.store, stage, Stage.bindings, Fields.set,
      List.modify_eq_take_cons_drop]
  rw [← hdeclared]
  exact .change _

variable {a : Address} {values : List Value} (h : Holds base place a values)

include h

theorem resolveIn?_data (last text : Value) (name : String) :
    ((stage base place printer declared frames news depth).store last text).resolveIn? 2 name =
      if name = "items" then some (.property (.object place) (.array a)) else none := by
  have hown : (stage base place printer declared frames news depth).base.ownProperty?
      (.object place) name = (base.fields place).get? name := rfl
  rw [Stage.resolveIn?_data rfl, hown, h.fields]
  by_cases hname : name = "items"
  · simp [hname, Fields.get?]
  · simp [hname, Fields.get?, List.lookup_cons, beq_false_of_ne hname]

/-- The names of the program are not hidden in the body of a loop. -/
theorem stage_proper (hdeclared : declared.get? "_" = none) (hnews : ∀ b ∈ news, 4 ≤ b)
    (hframes : ∀ f ∈ frames, Quiet f) :
    (stage base place printer declared frames news depth).Proper where
  parameter := (by decide : Settings.defaultVariable ∉ Stage.reserved)
  declared := hdeclared
  hidden b hb name hname last text := by
    have hscope : b ∈ news ∨ b = 3 ∨ b = 2 := by simpa [stage] using hb
    obtain hnew | rfl | rfl := hscope
    · obtain ⟨b, rfl⟩ := Nat.exists_eq_add_of_le' (hnews b hnew)
      rw [resolveIn?_frames hframes]
      cases hf : frames[b]? with
      | none => rfl
      | some f =>
        rw [Option.bind_some, (hframes f (List.mem_of_getElem? hf)).2 name hname]
        rfl
    · exact Stage.resolveIn?_block rfl last text name
    · rw [resolveIn?_data h, if_neg]
      rintro rfl
      revert hname
      decide
  helpers := h.helpers

/-- Outside the frames of the rounds, the name of the element is that of the program. -/
theorem resolve?_element (b : Binding) (last text : Value) :
    ((stage base place printer [("x", b)] frames news depth).store last text).resolve?
      [3, 2, programFrame, globalFrame] "x" = some (.binding programFrame b) := by
  let g := stage base place printer [("x", b)] frames news depth
  have hblock : (g.store last text).resolveIn? 3 "x" = none :=
    Stage.resolveIn?_block rfl last text "x"
  have hdata : (g.store last text).resolveIn? 2 "x" = none := resolveIn?_data h last text "x"
  have hprogram : (g.store last text).resolveIn? programFrame "x" =
      some (.binding programFrame b) := by
    simp [g, Store.resolveIn?, Stage.store, stage, programFrame, Store.visibleProperty?,
      Stage.bindings, Fields.get?, List.lookup_cons, Settings.defaultVariable]
  rw [Store.resolve?, List.findSome?_cons, hblock, List.findSome?_cons, hdata, List.findSome?_cons,
    hprogram]

/-- The field is a name in the scope of the data. -/
theorem lookup?_items (last text : Value) :
    ((stage base place printer declared frames news depth).store last text).lookup?
      [3, 2, programFrame, globalFrame] "items" = some (.array a) := by
  let g := stage base place printer declared frames news depth
  have hblock : (g.store last text).resolveIn? 3 "items" = none :=
    Stage.resolveIn?_block rfl last text "items"
  have hdata : (g.store last text).resolveIn? 2 "items" =
      some (.property (.object place) (.array a)) := resolveIn?_data h last text "items"
  rw [Store.lookup?, Store.resolve?, List.findSome?_cons, hblock, List.findSome?_cons, hdata]
  rfl

/-- A round of a loop over the elements gives the name of the program its element. -/
theorem assign_gives (hframes : ∀ f ∈ frames, Quiet f) (old v last text : Value) :
    (Run.assign [frames.length + 4, 3, 2, programFrame, globalFrame] "x" v).Gives
      ((stage base place printer [("x", ⟨old, true⟩)] (frames ++ [⟨.block, []⟩]) news depth).store
        last text) ()
      ((stage base place printer [("x", ⟨v, true⟩)] (frames ++ [⟨.block, []⟩]) news depth).store
        last text) := by
  let g := stage base place printer [("x", ⟨old, true⟩)] (frames ++ [⟨.block, []⟩]) news depth
  have hframe : (g.store last text).resolveIn? (frames.length + 4) "x" = none := by
    rw [resolveIn?_frames (quiet_append hframes quiet_block)]
    simp [Fields.get?]
  have hprogram : (g.store last text).resolve? [3, 2, programFrame, globalFrame] "x" = _ :=
    resolve?_element h ⟨old, true⟩ last text
  have hfound : (g.store last text).resolve?
      [frames.length + 4, 3, 2, programFrame, globalFrame] "x" =
        some (.binding programFrame ⟨old, true⟩) := by
    rw [Store.resolve?, List.findSome?_cons, hframe]
    exact hprogram
  have hdeclared : (g.store last text).declare programFrame "x" ⟨v, true⟩ =
      (stage base place printer [("x", ⟨v, true⟩)] (frames ++ [⟨.block, []⟩]) news depth).store
        last text := by
    simp [g, Store.declare, Store.modifyFrame, Stage.store, stage, Stage.bindings, programFrame,
      Fields.set, Settings.defaultVariable]
  rw [← hdeclared]
  exact Script.assign_gives (c := ⟨_, 0, programFrame⟩) rfl hfound v

/-- A round of a loop over the elements has two frames, and its element is a name of the program. -/
theorem refers_of_block (hframes : ∀ f ∈ frames, Quiet f) (v : Value) :
    (stage base place printer [("x", ⟨v, true⟩)] (frames ++ [⟨.block, []⟩] ++ [⟨.block, []⟩])
      [frames.length + 1 + 4, frames.length + 4] 0).Refers none "x" v := by
  intro n last text
  let g := stage base place printer [("x", ⟨v, true⟩)]
    (frames ++ [⟨.block, []⟩] ++ [⟨.block, []⟩]) [frames.length + 1 + 4, frames.length + 4] 0
  have hquiet : ∀ f ∈ frames ++ [⟨.block, []⟩] ++ [⟨.block, []⟩], Quiet f :=
    quiet_append (quiet_append hframes quiet_block) quiet_block
  have hinner : (g.store last text).resolveIn? (frames.length + 1 + 4) "x" = none := by
    rw [resolveIn?_frames hquiet]
    simp [Fields.get?]
  have houter : (g.store last text).resolveIn? (frames.length + 4) "x" = none := by
    rw [resolveIn?_frames hquiet]
    simp [Fields.get?]
  have hprogram : (g.store last text).resolve? [3, 2, programFrame, globalFrame] "x" = _ :=
    resolve?_element h ⟨v, true⟩ last text
  refine eval_identifier ?_
  change ((g.store last text).resolve? ((frames.length + 1 + 4) :: (frames.length + 4) :: _) "x").map
    Resolved.value = _
  rw [Store.resolve?, List.findSome?_cons, hinner, List.findSome?_cons, houter]
  rw [Store.resolve?] at hprogram
  exact congrArg (Option.map Resolved.value) hprogram

omit h in
/-- A round that is a call has one frame, in which its element is a name. -/
theorem refers_of_call (hframes : ∀ f ∈ frames, Quiet f) (v : Value) :
    (stage base place printer declared (frames ++ [⟨.function, [("x", ⟨v, true⟩)]⟩])
      [frames.length + 4] 1).Refers none "x" v := by
  intro n last text
  let g := stage base place printer declared (frames ++ [⟨.function, [("x", ⟨v, true⟩)]⟩])
    [frames.length + 4] 1
  have hquiet : ∀ f ∈ frames ++ [⟨.function, [("x", ⟨v, true⟩)]⟩], Quiet f :=
    quiet_append hframes (quiet_function v)
  have hframe : (g.store last text).resolveIn? (frames.length + 4) "x" =
      some (.binding (frames.length + 4) ⟨v, true⟩) := by
    rw [resolveIn?_frames hquiet]
    simp [Fields.get?]
  refine eval_identifier ?_
  change ((g.store last text).resolve? ((frames.length + 4) :: _) "x").map Resolved.value = _
  rw [Store.resolve?, List.findSome?_cons, hframe]
  rfl

end

/-- What the loop appends for an element. -/
def shown (before after : List Char) (j : Json) : String :=
  String.ofList before ++ (j.shown true ++ String.ofList after)

/-- The body of the loop appends what the loop shows for the element. -/
theorem exec_body (before after : List Char) {g : Stage} (hg : g.Proper) {v : Value} {j : Json}
    (hrefers : g.Refers none "x" v) (hshows : Shows g.base v j) (n : Nat) (last : Value)
    (written : String) : ∃ last', (exec (n + 9) g.context (body before after)).Gives
      (g.store last (.string written)) .normal
      (g.store last' (.string (written ++ shown before after j))) := by
  have hslots : ∀ s ∈ [slot after], g.Resolves none [("x", j)] s :=
    List.forall_mem_singleton.mpr ⟨v, j, by simp [slot, Fields.get?], hrefers, hshows⟩
  obtain ⟨last', happend⟩ := Stage.exec_append hg hslots before n last written
  have hshown : String.join ([slot after].map (·.shown [("x", j)])) =
      j.shown true ++ String.ofList after := by
    simp [Slot.shown, slot, Fields.get?, String.join_cons]
  rw [hshown] at happend
  exact ⟨last', happend⟩

section

variable {base : Store} {place a : Address} {values : List Value} {printer : Value}
  (h : Holds base place a values) (before after : List Char)

/-- The context of the statements in the scope of the data. -/
def context : Context := ⟨[3, 2, programFrame, globalFrame], 0, programFrame⟩

include h

/-- A loop over elements appends its body for each of them. -/
theorem execEach_gives {elements : List Value} {items : List Json}
    (hshows : List.Forall₂ (Shows base) elements items) {frames : List Frame}
    (hframes : ∀ f ∈ frames, Quiet f) (old : Value) (n : Nat) (last : Value) (written : String) :
    ∃ frames' element last', (∀ f ∈ frames', Quiet f) ∧
      ((Evaluator.within (n + 10)).execEach context (.declare .functionWide "x")
        (.block [body before after]) elements).Gives
      ((stage base place printer [("x", ⟨old, true⟩)] frames [] 0).store last (.string written))
      .normal
      ((stage base place printer [("x", ⟨element, true⟩)] frames' [] 0).store last'
        (.string (written ++ String.join (items.map (shown before after))))) := by
  induction hshows generalizing frames old last written with
  | nil =>
    refine ⟨frames, old, last, hframes, ?_⟩
    rw [List.map_nil, String.join_nil, String.append_empty]
    exact .pure _
  | @cons v j elements items hv _ ih =>
    have hquiet := quiet_append (quiet_append hframes quiet_block) quiet_block
    have hproper : (stage base place printer [("x", ⟨v, true⟩)]
        (frames ++ [⟨.block, []⟩] ++ [⟨.block, []⟩]) [frames.length + 1 + 4, frames.length + 4]
        0).Proper := stage_proper h (by rfl) (by simp) hquiet
    obtain ⟨last', hbody⟩ := exec_body before after hproper (refers_of_block h hframes v) hv n last
      written
    obtain ⟨frames', element, last'', hframes', hrest⟩ := ih hquiet v last'
      (written ++ shown before after j)
    refine ⟨frames', element, last'', hframes', ?_⟩
    rw [List.map_cons, String.join_cons, ← String.append_assoc]
    have hframe : (Run.add (·.addFrame .block)).Gives
        ((stage base place printer [("x", ⟨v, true⟩)] (frames ++ [⟨.block, []⟩]) [] 0).store last
          (.string written)) (frames.length + 1 + 4)
        ((stage base place printer [("x", ⟨v, true⟩)] (frames ++ [⟨.block, []⟩] ++ [⟨.block, []⟩])
          [] 0).store last (.string written)) := by
      have hlength : (frames ++ [(⟨.block, []⟩ : Frame)]).length = frames.length + 1 := by simp
      rw [← hlength]
      exact addFrame_gives .block last (.string written)
    have hblock : (exec (n + 10) (context.push (frames.length + 4)) (.block [body before after])).Gives
        ((stage base place printer [("x", ⟨v, true⟩)] (frames ++ [⟨.block, []⟩]) [] 0).store last
          (.string written)) .normal
        ((stage base place printer [("x", ⟨v, true⟩)] (frames ++ [⟨.block, []⟩] ++ [⟨.block, []⟩])
          [] 0).store last' (.string (written ++ shown before after j))) :=
      hframe.bind (.bind (.pure ()) (hbody.bind (.pure _)))
    exact .bind (addFrame_gives .block last (.string written))
      (.bind (assign_gives h hframes old v last _) (hblock.bind hrest))

variable {f : Address} (hf : base.functions[f]? = some ⟨callback before after, context.scope⟩)

include hf

/-- A call of the function appends its body for the element. -/
theorem call_gives {declared : Fields Binding} (hdeclared : declared.get? "_" = none)
    {frames : List Frame} (hframes : ∀ f ∈ frames, Quiet f) {v : Value} {j : Json}
    (hv : Shows base v j) (more : List Value) (n : Nat) (last : Value) (written : String) :
    ∃ last', (call (n + 10) context (.function f) (v :: more)).Gives
      ((stage base place printer declared frames [] 0).store last (.string written)) .undefined
      ((stage base place printer declared (frames ++ [⟨.function, [("x", ⟨v, true⟩)]⟩]) [] 0).store
        last' (.string (written ++ shown before after j))) := by
  let s := (stage base place printer declared frames [] 0).store last (.string written)
  let inside := frames ++ [⟨.function, [("x", ⟨v, true⟩)]⟩]
  have hproper : (stage base place printer declared inside [frames.length + 4] 1).Proper :=
    stage_proper h hdeclared (by simp) (quiet_append hframes (quiet_function v))
  obtain ⟨last', hbody⟩ := exec_body before after hproper (refers_of_call hframes v) hv n last written
  have hbodies : ((Evaluator.within (n + 9)).execBody
      ⟨(frames.length + 4) :: context.scope, 1, programFrame⟩ (frames.length + 4)
        [body before after]).Gives
      ((stage base place printer declared inside [] 0).store last (.string written)) .undefined
      ((stage base place printer declared inside [] 0).store last'
        (.string (written ++ shown before after j))) :=
    .bind (.pure ()) (.bind (.pure ()) (.bind (hbody.bind (.pure _)) (.pure _)))
  have hparameters : (Evaluator.declareArguments (frames.length + 4) (callback before after)
      (v :: more)).Gives
        ((stage base place printer declared (frames ++ [⟨.function, []⟩]) [] 0).store last
          (.string written)) ()
        ((stage base place printer declared inside [] 0).store last (.string written)) :=
    .bind (.bind (declare_gives v last (.string written)) (.pure ())) (.pure ())
  have hclosure : ((Evaluator.within (n + 9)).callClosure context (.function f)
      ⟨callback before after, context.scope⟩ (v :: more)).Gives s .undefined
      ((stage base place printer declared inside [] 0).store last'
        (.string (written ++ shown before after j))) :=
    .bind (addFrame_gives .function last (.string written)) (hparameters.bind hbodies)
  have hread : (Run.read (·.functions[f]?)).Gives s (some ⟨callback before after, context.scope⟩) s := by
    rw [← hf]
    exact .read _
  exact ⟨last', hread.bind hclosure⟩

/-- Calling the function for the elements of the array appends the body for each of them. -/
theorem visit_gives {declared : Fields Binding} (hdeclared : declared.get? "_" = none)
    {elements : List Value} {items : List Json} (hshows : List.Forall₂ (Shows base) elements items)
    {index : Nat} (hdrop : values.drop index = elements) {frames : List Frame}
    (hframes : ∀ f ∈ frames, Quiet f) (n : Nat) (last : Value) (written : String) :
    ∃ frames' last' results, (∀ f ∈ frames', Quiet f) ∧
      (ArrayMethod.visit (call (n + 10) context (.function f)) a elements.length index).Gives
      ((stage base place printer declared frames [] 0).store last (.string written)) results
      ((stage base place printer declared frames' [] 0).store last'
        (.string (written ++ String.join (items.map (shown before after))))) := by
  induction hshows generalizing index frames last written with
  | nil =>
    refine ⟨frames, last, [], hframes, ?_⟩
    rw [List.map_nil, String.join_nil, String.append_empty]
    exact .pure _
  | @cons v j elements items hv _ ih =>
    have hmore : values.drop (index + 1) = elements := by
      rw [← List.tail_drop, hdrop]
      rfl
    have hfound : values[index]? = some v := by
      rw [← List.head?_drop, hdrop]
      rfl
    obtain ⟨last', hcall⟩ := call_gives h before after hf hdeclared hframes hv
      [.number (Decimal.ofNat index), .array a] n last written
    obtain ⟨frames', last'', results, hframes', hrest⟩ := ih hmore
      (quiet_append hframes (quiet_function v)) last' (written ++ shown before after j)
    refine ⟨frames', last'', (v, .undefined) :: results, hframes', ?_⟩
    rw [List.map_cons, String.join_cons, ← String.append_assoc]
    let s := (stage base place printer declared frames [] 0).store last (.string written)
    have hread : (Run.read fun s => (s.elements a)[index]?).Gives s (some v) s := by
      have helements : (s.elements a)[index]? = some v := by
        change (base.elements a)[index]? = some v
        rw [h.elements]
        simpa using hfound
      rw [← helements]
      exact .read _
    exact hread.bind (hcall.bind (hrest.bind (.pure _)))

/-- The function is called for all elements of the array. -/
theorem visitAll_gives {declared : Fields Binding} (hdeclared : declared.get? "_" = none)
    {items : List Json} (hshows : List.Forall₂ (Shows base) values items) {frames : List Frame}
    (hframes : ∀ f ∈ frames, Quiet f) (n : Nat) (last : Value) (written : String) :
    ∃ frames' last' results, (∀ f ∈ frames', Quiet f) ∧
      (ArrayMethod.visitAll (call (n + 10) context) a (.function f)).Gives
      ((stage base place printer declared frames [] 0).store last (.string written)) results
      ((stage base place printer declared frames' [] 0).store last'
        (.string (written ++ String.join (items.map (shown before after))))) := by
  obtain ⟨frames', last', results, hframes', hvisit⟩ := visit_gives h before after hf hdeclared
    hshows (List.drop_zero ..) hframes n last written
  let s := (stage base place printer declared frames [] 0).store last (.string written)
  have hsize : (Run.read fun s => (s.elements a).size).Gives s values.length s := by
    have helements : (s.elements a).size = values.length := by
      change (base.elements a).size = values.length
      rw [h.elements, List.size_toArray]
    rw [← helements]
    exact .read _
  exact ⟨frames', last', results, hframes', hsize.bind hvisit⟩

end

/-- What a loop declares in the frame of the program. -/
def declared : Loop → Fields Binding
  | forOf => [("x", ⟨.undefined, true⟩)]
  | _ => []

theorem Holds.of_containers {base base' : Store} {place a : Address} {values : List Value}
    (h : Holds base place a values) (harrays : base'.arrays = base.arrays)
    (hobjects : base'.objects = base.objects) : Holds base' place a values where
  helpers := by rw [← h.helpers, Store.fields, Store.fields, hobjects]
  fields := by rw [← h.fields, Store.fields, Store.fields, hobjects]
  elements := by rw [← h.elements, Store.elements, Store.elements, harrays]

/-- The statement of a loop appends its body for each element, whatever has been written. Nothing
changes in the arrays and objects of the store. -/
def Writes (l : Loop) (base : Store) (place : Address) (printer : Value) (before after : List Char)
    (items : List Json) : Prop :=
  ∀ (n : Nat) (last : Value) (written : String), ∃ base' declared' frames' last',
    base'.arrays = base.arrays ∧ base'.objects = base.objects ∧ declared'.get? "_" = none ∧
      (∀ f ∈ frames', Quiet f) ∧ (exec (n + 13) context (l.stmt before after)).Gives
        ((stage base place printer l.declared [] [] 0).store last (.string written)) .normal
        ((stage base' place printer declared' frames' [] 0).store last'
          (.string (written ++ String.join (items.map (shown before after)))))

/-- A store with the function that a call for each element is given. -/
def withCallback (base : Store) (before after : List Char) : Store :=
  { base with functions := base.functions.push ⟨callback before after, context.scope⟩ }

theorem getElem?_withCallback (base : Store) (before after : List Char) :
    (withCallback base before after).functions[base.functions.size]? =
      some ⟨callback before after, context.scope⟩ := by
  simp [withCallback]

section

variable {base : Store} {place a : Address} {values : List Value} {printer : Value}
  (h : Holds base place a values) (before after : List Char) {items : List Json}
  (hshows : List.Forall₂ (Shows base) values items)

include h

theorem eval_items (declared : Fields Binding) (n : Nat) (last text : Value) :
    (eval (n + 1) context (.identifier "items")).Gives
      ((stage base place printer declared [] [] 0).store last text) (.array a)
      ((stage base place printer declared [] [] 0).store last text) :=
  eval_identifier (lookup?_items h last text)

include hshows

theorem forOf_writes (printer : Value) : forOf.Writes base place printer before after items := by
  intro n last written
  obtain ⟨frames', element, last', hframes', heach⟩ := execEach_gives h before after hshows quiet_nil
    .undefined (n + 2) last written
  refine ⟨base, [("x", ⟨element, true⟩)], frames', last', rfl, rfl, rfl, hframes', ?_⟩
  let s := (stage base place printer forOf.declared [] [] 0).store last (.string written)
  have helements : (Evaluator.iterated (.identifier "items") (.array a)).Gives s values s := by
    have hvalues : (s.elements a).toList = values := by
      change (base.elements a).toList = values
      rw [h.elements]
    rw [← hvalues]
    exact .read _
  exact (eval_items h _ (n + 11) last _).bind (helements.bind heach)

theorem each_writes (printer : Value) : each.Writes base place printer before after items := by
  intro n last written
  let base' := withCallback base before after
  let s := (stage base place printer each.declared [] [] 0).store last (.string written)
  let s' := (stage base' place printer [] [] [] 0).store last (.string written)
  have hbase' : Holds base' place a values := h.of_containers rfl rfl
  obtain ⟨frames', last', results, hframes', hvisits⟩ := visitAll_gives hbase' before after
    (getElem?_withCallback base before after) get?_nil (hshows.imp fun _ _ hv => hv.of_arrays rfl)
    quiet_nil n last written
  have hmember : (eval (n + 11) context (.member (.identifier "_") "each")).Gives s
      (.builtin .each) s := by
    have hproper : (stage base place printer [] [] [] 0).Proper := stage_proper h rfl (by simp) quiet_nil
    have hfield : ((s.fields 0).get? "each").getD .undefined = .builtin .each := by
      change ((base.fields 0).get? "each").getD .undefined = .builtin .each
      rw [h.helpers]
      rfl
    have hread : (Run.readProperty (.object 0) "each").Gives s (.builtin .each) s := by
      rw [← hfield]
      exact .read _
    exact eval_member (eval_identifier (hproper.lookup?_helpers last (.string written))) hread
  have hfunction : (eval (n + 11) context (.function (callback before after))).Gives s
      (.function base.functions.size) s' := .add _
  have heach : (call (n + 11) context (.builtin .each) [.array a, .function base.functions.size]).Gives
      s' (.array a) ((stage base' place printer [] frames' [] 0).store last'
        (.string (written ++ String.join (items.map (shown before after))))) :=
    .bind (hvisits.bind (.pure _)) (.pure _)
  have harguments : ([.identifier "items", .function (callback before after)].mapM
      (eval (n + 11) context)).Gives s [.array a, .function base.functions.size] s' :=
    (eval_items h _ (n + 10) last _).bind (hfunction.bind (.pure _))
  have hcall : (eval (n + 12) context (.call (.member (.identifier "_") "each")
      [.identifier "items", .function (callback before after)])).Gives s (.array a) _ :=
    hmember.bind (harguments.bind heach)
  exact ⟨base', [], frames', last', rfl, rfl, rfl, hframes', exec_expression hcall⟩

theorem forEach_writes (printer : Value) : forEach.Writes base place printer before after items := by
  intro n last written
  let method : BoundMethod := ⟨.array a, .forEach⟩
  let bound : Store := { base with methods := base.methods.push method }
  let final : Store := { withCallback base before after with methods := base.methods.push method }
  let s := (stage base place printer forEach.declared [] [] 0).store last (.string written)
  let s' := (stage bound place printer [] [] [] 0).store last (.string written)
  let s'' := (stage final place printer [] [] [] 0).store last (.string written)
  have hfinal : Holds final place a values := h.of_containers rfl rfl
  obtain ⟨frames', last', results, hframes', hvisits⟩ := visitAll_gives hfinal before after
    (getElem?_withCallback base before after) get?_nil (hshows.imp fun _ _ hv => hv.of_arrays rfl)
    quiet_nil n last written
  have hmember : (eval (n + 11) context (.member (.identifier "items") "forEach")).Gives s
      (.method base.methods.size) s' := (eval_items h _ (n + 9) last _).bind (.add _)
  have hfunction : (eval (n + 11) context (.function (callback before after))).Gives s'
      (.function base.functions.size) s'' := .add _
  have hmethod : s''.methods[base.methods.size]? = some method := getElem?_addMethod base method
  have hforEach : (call (n + 11) context (.method base.methods.size)
      [.function base.functions.size]).Gives s'' .undefined
        ((stage final place printer [] frames' [] 0).store last'
          (.string (written ++ String.join (items.map (shown before after))))) :=
    callStep_method hmethod (hvisits.bind (.pure _))
  have hcall : (eval (n + 12) context (.call (.member (.identifier "items") "forEach")
      [.function (callback before after)])).Gives s .undefined _ :=
    eval_call hmember hfunction rfl hforEach
  exact ⟨final, [], frames', last', rfl, rfl, rfl, hframes', exec_expression hcall⟩

/-- Each way of going through the elements appends the body for each of them. -/
theorem writes (printer : Value) (l : Loop) : l.Writes base place printer before after items := by
  cases l with
  | forOf => exact forOf_writes h before after hshows printer
  | each => exact each_writes h before after hshows printer
  | forEach => exact forEach_writes h before after hshows printer

end

/-- A statement that appends nothing leaves the text as it is. -/
theorem exec_nothing {g : Stage} (hg : g.Proper) (n : Nat) (last : Value) (written : String) :
    ∃ last', (exec (n + 7) g.context (ProgramText.append none [] [])).Gives
      (g.store last (.string written)) .normal (g.store last' (.string written)) := by
  have hslots : ∀ s ∈ ([] : List Slot), g.Resolves none [] s := nofun
  obtain ⟨last', happend⟩ := Stage.exec_append hg hslots [] n last written
  refine ⟨last', ?_⟩
  have hempty : written ++ (String.ofList [] ++ String.join ([].map (Slot.shown []))) = written := by
    simp [String.join]
  rwa [hempty] at happend

/-- Data with an array in the store in which a program starts. -/
theorem holds_addJson (items : List Json) : ∃ base place a values,
    initialStore.addJson (.object [("items", .array items)]) = (.object place, base) ∧
      base.frames = (ProgramText.named base []).frames ∧ Holds base place a values ∧
        List.Forall₂ (Shows base) values items := by
  obtain ⟨hgrown, hshows⟩ := addJsonItems_shows items initialStore
  let s := (Store.addJsonItems items initialStore).2
  let values := (Store.addJsonItems items initialStore).1
  let s' := (s.addArray values.toArray).2
  have harray : s.Grown s' := .addArray s values.toArray
  have hobject : s'.Grown (s'.addObject [("items", .array s.arrays.size)]).2 := .addObject s' _
  have hmore := (hgrown.trans harray).trans hobject
  have helements : (s'.addObject [("items", .array s.arrays.size)]).2.elements s.arrays.size =
      values.toArray := by
    rw [hobject.elements _ (by simp [s', Store.addArray]), elements_addArray]
  refine ⟨(s'.addObject [("items", .array s.arrays.size)]).2, s'.objects.size, s.arrays.size, values,
    rfl, hmore.frames, ⟨hmore.fields 0 (by decide), fields_addObject _ _, helements⟩, ?_⟩
  exact hshows.imp fun _ _ hv => hv.grown (harray.trans hobject)

/-- What the program of the template declares before it runs. -/
theorem hoistedList_tree (l : Loop) (before after : List Char) :
    hoistedList (l.tree before after).body = "__t" :: "__p" :: "print" :: l.declared.names := by
  cases l <;> rfl

theorem nodup_hoistedList_tree (l : Loop) (before after : List Char) :
    (Settings.defaultVariable :: hoistedList (l.tree before after).body).Nodup := by
  rw [hoistedList_tree]
  cases l <;> decide

theorem map_hoistedList_tree (l : Loop) (before after : List Char) :
    (hoistedList (l.tree before after).body).map (fun n => (n, ⟨.undefined, true⟩)) =
      ("__t", ⟨.undefined, true⟩) :: ("__p", ⟨.undefined, true⟩) :: ("print", ⟨.undefined, true⟩) ::
        l.declared := by
  rw [hoistedList_tree]
  cases l <;> rfl

/-- The program of the template has no functions of its own to declare. -/
theorem hoistFunctions_tree (l : Loop) (before after : List Char) (c : Context) (frame : Address) :
    Evaluator.hoistFunctions c frame (l.tree before after).body = pure () := by
  cases l <;> rfl

theorem hoistFunctions_stmt (l : Loop) (before after : List Char) (c : Context) (frame : Address) :
    Evaluator.hoistFunctions c frame [ProgramText.append none [] [], l.stmt before after,
      ProgramText.append none [] []] = pure () := by
  cases l <;> rfl

/-- In the scope of the data the text is the body of the loop for each element. -/
theorem exec_inScope {base : Store} {place a : Address} {values : List Value}
    (h : Holds base place a values) (before after : List Char) {items : List Json}
    (hshows : List.Forall₂ (Shows base) values items) (printer : Value) (l : Loop) (n : Nat) :
    ∃ base' declared' frames' last',
      ((Evaluator.within (n + 13)).execAll context [ProgramText.append none [] [],
        l.stmt before after, ProgramText.append none [] []]).Gives
          ((stage base place printer l.declared [] [] 0).store .undefined (.string "")) .normal
          ((stage base' place printer declared' frames' [] 0).store last'
            (.string (String.join (items.map (shown before after))))) := by
  have hdeclared : l.declared.get? "_" = none := by cases l <;> rfl
  have hfirst : (stage base place printer l.declared [] [] 0).Proper :=
    stage_proper h hdeclared (by simp) quiet_nil
  obtain ⟨last, hbefore⟩ := exec_nothing hfirst (n + 6) .undefined ""
  obtain ⟨base', declared', frames', last', harrays, hobjects, hdeclared', hframes', hloop⟩ :=
    writes h before after hshows printer l n last ""
  have hlast : (stage base' place printer declared' frames' [] 0).Proper :=
    stage_proper (h.of_containers harrays hobjects) hdeclared' (by simp) hframes'
  obtain ⟨last'', hafter⟩ := exec_nothing hlast (n + 6) last'
    ("" ++ String.join (items.map (shown before after)))
  rw [String.empty_append] at hloop hafter
  exact ⟨base', declared', frames', last'', hbefore.bind (hloop.bind (hafter.bind (.pure _)))⟩

/-- The program of the template gives the body of its loop for each element. -/
theorem render_tree (l : Loop) (before after : List Char) (items : List Json) {bound : Nat}
    (hbound : 15 ≤ bound) : (l.tree before after).render bound (.object [("items", .array items)]) =
      .ok (String.join (items.map (shown before after))) := by
  obtain ⟨base, place, a, values, hdata, hframes, h, hshows⟩ := holds_addJson items
  obtain ⟨n, rfl⟩ := Nat.exists_eq_add_of_le' hbound
  let base' : Store :=
    { base with functions := base.functions.push ⟨ProgramText.printer, programContext.scope⟩ }
  let printer : Value := .function base.functions.size
  have hbase' : Holds base' place a values := h.of_containers rfl rfl
  have hvalues : List.Forall₂ (Shows base') values items := hshows.imp fun _ _ hv => hv.of_arrays rfl
  obtain ⟨base'', declared'', frames'', last'', hbody⟩ :=
    exec_inScope hbase' before after hvalues printer l n
  have hparameter : Settings.defaultVariable ∉ ProgramText.names := by decide
  have hdeclarations := ProgramText.exec_declaration base hparameter (.object place) l.declared (n + 13)
  have hscope := ProgramText.exec_inScope base place l.declared
    (hoistFunctions_stmt l before after) hbody
  have hresult := ProgramText.exec_result (g := stage base'' place printer declared'' frames'' [] 0)
    hparameter (n + 13) last'' (.string (String.join (items.map (shown before after))))
  have hall : ((Evaluator.within (n + 15)).execAll programContext (l.tree before after).body).Gives
      (ProgramText.named base ((Settings.defaultVariable, ⟨.object place, true⟩) ::
        (hoistedList (l.tree before after).body).map fun n => (n, ⟨.undefined, true⟩)))
      (.returned (.string (String.join (items.map (shown before after)))))
      ((stage base'' place printer declared'' frames'' [] 0).store last''
        (.string (String.join (items.map (shown before after))))) := by
    rw [map_hoistedList_tree]
    exact hdeclarations.bind (hscope.bind (hresult.bind (.pure _)))
  exact ProgramText.render_of_execAll hdata hframes (nodup_hoistedList_tree l before after)
    (hoistFunctions_tree l before after _ _) hall

/-- A template with a loop over the field compiles, and it renders the two texts around each element,
in the order of the elements, whichever way the loop goes through them. -/
theorem renderWithin_template (l : Loop) {before after : String}
    (hbefore : ¬ ['<', '%'] <:+: before.toList) (hafter : ¬ ['<', '%'] <:+: after.toList)
    (items : List Json) :
    ∃ c, Compiled.ofTemplate (l.template before after) Settings.default = .ok c ∧
      ∀ bound, 15 ≤ bound → c.renderWithin bound (.object [("items", .array items)]) =
        .ok (String.join (items.map fun j => before ++ j.shown true ++ after)) := by
  obtain ⟨source, hcompiled⟩ := l.ofTemplate_template before after hbefore hafter
  have hshown : shown before.toList after.toList = fun j => before ++ j.shown true ++ after := by
    funext j
    rw [shown, String.ofList_toList, String.ofList_toList, String.append_assoc]
  refine ⟨_, hcompiled, fun bound hbound => ?_⟩
  rw [← hshown]
  exact l.render_tree before.toList after.toList items hbound

/-- A call for each of two elements, of which the first has an ampersand and the second is null. -/
theorem renderWithin_template_each :
    ∃ c, Compiled.ofTemplate "<% _.each(items, function(x) \x7b %>[<%- x %>]<% \x7d) %>" Settings.default =
        .ok c ∧
      c.render (.object [("items", .array [.string "a&b", .null])]) = .ok "[a&amp;b][]" := by
  obtain ⟨c, hcompiled, hrender⟩ := renderWithin_template each
    (by decide +kernel : ¬ ['<', '%'] <:+: "[".toList)
    (by decide +kernel : ¬ ['<', '%'] <:+: "]".toList) [.string "a&b", .null]
  have htemplate : each.template "[" "]" =
      "<% _.each(items, function(x) \x7b %>[<%- x %>]<% \x7d) %>" := by decide +kernel
  have hshown : String.join ([.string "a&b", .null].map fun j : Json => "[" ++ j.shown true ++ "]") =
      "[a&amp;b][]" := by decide +kernel
  rw [htemplate] at hcompiled
  rw [hshown] at hrender
  exact ⟨c, hcompiled, hrender _ (by decide)⟩

end Loop

end Microtemplate
