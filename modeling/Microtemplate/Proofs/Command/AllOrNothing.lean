import Microtemplate.Command.Run
import Microtemplate.Proofs.Files.Writing

/-!
Command lines on a directory. A command that fails leaves the directory as it is and prints nothing;
one that renders into a file changes the contents of this file only, and after several of them the
file holds what was put before, in place of and after its contents.
-/

namespace Microtemplate.Command

/-- What a template renders to, before it goes anywhere. -/
def rendered {m : Type → Type} [Monad m] (files : FileAccess m) (template : String)
    (data : Option String) (options : SettingsOptions) : Running m String := do
  if template = Request.standardInput ∧ data = some Request.standardInput then
    throw .sharedInput
  let compiled ← compiledOf files template options
  let data ← dataOf files data
  settle (compiled.render data) (.rendering template)

/-- Where rendered output goes. -/
def deliver {m : Type → Type} [Monad m] (files : FileAccess m) (sink : Option String)
    (mode : SinkMode) (quiet : Bool) (output : String) : Running m String := do
  match sink with
  | none => return output
  | some path =>
    attempt (mode.write files path output) (.sink path)
    return if quiet then "" else output

theorem execute_render {m : Type → Type} [Monad m] [LawfulMonad m] (files : FileAccess m)
    (template : String) (data sink : Option String) (mode : SinkMode) (quiet : Bool)
    (options : SettingsOptions) : execute files (.render template data sink mode quiet options) =
      rendered files template data options >>= deliver files sink mode quiet := by
  rw [execute, rendered]
  split
  all_goals
    simp only [bind_assoc]
    rfl

section Reading

variable {α β : Type}

/-- The result of a command on a directory, and the directory afterwards. -/
def resultOn (p : Running (StateM Directory) α) (d : Directory) : Except Failure α × Directory :=
  p.run.run d

theorem resultOn_bind (p : Running (StateM Directory) α) (f : α → Running (StateM Directory) β)
    (d : Directory) : resultOn (p >>= f) d = match resultOn p d with
      | (.ok a, d') => resultOn (f a) d'
      | (.error e, d') => (.error e, d') := by
  unfold resultOn
  change (match p.run.run d with
    | (r, d') => (ExceptT.bindCont f r).run d') = _
  obtain ⟨r, d'⟩ := p.run.run d
  cases r <;> rfl

/-- A command changes nothing in any directory. -/
def ReadsOnly (p : Running (StateM Directory) α) : Prop := ∀ d, (resultOn p d).2 = d

namespace ReadsOnly

theorem pure (a : α) : ReadsOnly (pure a) := fun _ => rfl

theorem throw (e : Failure) : ReadsOnly (throw e : Running (StateM Directory) α) := fun _ => rfl

theorem settle {ε : Type} (result : Except ε α) (failure : ε → Failure) :
    ReadsOnly (settle result failure) := fun _ => rfl

theorem bind {p : Running (StateM Directory) α} {f : α → Running (StateM Directory) β}
    (hp : ReadsOnly p) (hf : ∀ a, ReadsOnly (f a)) : ReadsOnly (p >>= f) := by
  intro d
  have hsame := hp d
  rw [resultOn_bind]
  split
  · rename_i a d' h
    rw [h] at hsame
    exact (hf a d').trans hsame
  · rename_i e d' h
    rw [h] at hsame
    exact hsame

/-- Texts are read without a change. -/
theorem attempt_text (input : ByteArray) (path : String) (failure : FileFault → Failure) :
    ReadsOnly (attempt ((Directory.access input).text path) failure) := fun _ => rfl

theorem inputText (input : ByteArray) (path : String) :
    ReadsOnly (inputText (Directory.access input) path) := by
  rw [Command.inputText]
  split
  · exact fun _ => rfl
  · exact attempt_text input path _

theorem changesOf (input : ByteArray) (options : SettingsOptions) :
    ReadsOnly (changesOf (Directory.access input) options) := by
  rw [Command.changesOf]
  split
  · exact pure _
  · exact (attempt_text input _ _).bind fun _ => (settle _ _).bind fun _ => pure _

theorem compiledOf (input : ByteArray) (template : String) (options : SettingsOptions) :
    ReadsOnly (compiledOf (Directory.access input) template options) :=
  (inputText input template).bind fun _ => (changesOf input options).bind fun _ => settle _ _

theorem dataOf (input : ByteArray) (data : Option String) :
    ReadsOnly (dataOf (Directory.access input) data) := by
  cases data with
  | none => exact pure _
  | some path =>
    refine (inputText input path).bind fun text => ?_
    split
    · exact pure _
    · exact throw _

/-- Nothing is written before the output is there. -/
theorem rendered (input : ByteArray) (template : String) (data : Option String)
    (options : SettingsOptions) : ReadsOnly (rendered (Directory.access input) template data options) := by
  have hmore := (compiledOf input template options).bind fun compiled =>
    (dataOf input data).bind fun data => settle (compiled.render data) (.rendering template)
  rw [Command.rendered]
  split
  · exact (throw _).bind fun _ => hmore
  · exact hmore

end ReadsOnly

end Reading

section Writing

/-- What a file holds after a text is written into it. -/
def SinkMode.combine : SinkMode → ByteArray → ByteArray → ByteArray
  | append, old, new => old ++ new
  | replace, _, new => new
  | prepend, old, new => new ++ old

theorem toUTF8_of_textOfBytes {bytes : ByteArray} {text : String}
    (h : textOfBytes bytes = .ok text) : text.toUTF8 = bytes := by
  rw [textOfBytes, String.fromUTF8?] at h
  split at h
  · rename_i hsome
    split at hsome
    · cases hsome
      cases h
      rfl
    · cases hsome
  · cases h

theorem eq_notText_of_textOfBytes {bytes : ByteArray} {f : FileFault}
    (h : textOfBytes bytes = .error f) : f = .notText := by
  rw [textOfBytes] at h
  split at h
  · cases h
  · cases h
    rfl

variable (input : ByteArray) (path text : String) (d : Directory)

theorem run_replace_cases (bytes : ByteArray) :
    (∃ f, ((Directory.access input).replace path bytes).run d = (.error f, d)) ∨
      ∃ name, d.target path = .ok name ∧
        ((Directory.access input).replace path bytes).run d = (.ok (), d.put name bytes) := by
  cases htarget : d.target path with
  | error f =>
    have hreplace : d.replace path bytes = .error f := by
      rw [Directory.replace, htarget]
      rfl
    refine .inl ⟨f, ?_⟩
    simp only [Directory.access, StateT.run_bind, StateT.run_get, pure_bind, hreplace]
    rfl
  | ok name =>
    have hreplace : d.replace path bytes = .ok (d.put name bytes) := by
      rw [Directory.replace, htarget]
      rfl
    refine .inr ⟨name, rfl, ?_⟩
    simp only [Directory.access, StateT.run_bind, StateT.run_get, pure_bind, hreplace]
    rfl

theorem run_append_cases (bytes : ByteArray) :
    (∃ f, ((Directory.access input).append path bytes).run d = (.error (.opening f), d)) ∨
      ∃ name old, d.target path = .ok name ∧ d.Holds path old ∧
        ((Directory.access input).append path bytes).run d = (.ok (), d.put name (old ++ bytes)) := by
  cases htarget : d.target path with
  | error f =>
    have happend : d.append path bytes = .error f := by
      rw [Directory.append, htarget]
      rfl
    refine .inl ⟨f, ?_⟩
    simp only [Directory.access, StateT.run_bind, StateT.run_get, pure_bind, happend]
    rfl
  | ok name =>
    have happend : d.append path bytes =
        .ok (d.put name ((d.files.get? name).getD .empty ++ bytes)) := by
      rw [Directory.append, htarget]
      rfl
    refine .inr ⟨name, _, rfl, Directory.holds_of_target htarget, ?_⟩
    simp only [Directory.access, StateT.run_bind, StateT.run_get, pure_bind, happend]
    rfl

theorem run_overwrite_cases :
    (∃ f, (overwrite (Directory.access input) path text).run d = (.error f, d)) ∨
      ∃ name, d.target path = .ok name ∧
        (overwrite (Directory.access input) path text).run d = (.ok (), d.put name text.toUTF8) := by
  have hrun : ∀ r d', ((Directory.access input).replace path text.toUTF8).run d = (r, d') →
      (overwrite (Directory.access input) path text).run d = (r.mapError .writing, d') := by
    intro r d' hr
    unfold overwrite
    rw [StateT.run_bind, hr]
    rfl
  rcases run_replace_cases input path d text.toUTF8 with ⟨f, hreplace⟩ | ⟨name, htarget, hreplace⟩
  · exact .inl ⟨_, hrun _ _ hreplace⟩
  · exact .inr ⟨name, htarget, hrun _ _ hreplace⟩

/-- The text of a file is what it holds. -/
theorem run_existingText : ∃ r, (existingText (Directory.access input) path).run d = (r, d) ∧
    ∀ old, r = .ok old → d.Holds path old.toUTF8 := by
  have hfiles : ((Directory.access input).text path).run d = (d.contents path >>= textOfBytes, d) := rfl
  unfold existingText
  rw [StateT.run_bind, hfiles]
  cases hcontents : d.contents path with
  | error f =>
    cases f with
    | missing =>
      refine ⟨_, rfl, fun old hold => ?_⟩
      cases hold
      exact .inr ⟨hcontents, rfl⟩
    | _ => exact ⟨_, rfl, fun old hold => (by cases hold)⟩
  | ok bytes =>
    rw [show (.ok bytes >>= textOfBytes : Except FileFault String) = textOfBytes bytes from rfl]
    cases htext : textOfBytes bytes with
    | error f =>
      obtain rfl := eq_notText_of_textOfBytes htext
      exact ⟨_, rfl, fun old hold => (by cases hold)⟩
    | ok text =>
      refine ⟨_, rfl, fun old hold => ?_⟩
      cases hold
      rw [toUTF8_of_textOfBytes htext]
      exact .inl hcontents

/-- A text is written in the way that the mode says, or nothing is changed. -/
theorem SinkMode.write_cases (mode : SinkMode) :
    (∃ f, (mode.write (Directory.access input) path text).run d = (.error f, d)) ∨
      ∃ name old, d.target path = .ok name ∧ d.Holds path old ∧
        (mode.write (Directory.access input) path text).run d =
          (.ok (), d.put name (mode.combine old text.toUTF8)) := by
  cases mode with
  | append =>
    unfold write
    rw [StateT.run_bind]
    rcases run_append_cases input path d text.toUTF8 with
      ⟨f, happend⟩ | ⟨name, old, htarget, hold, happend⟩
    · rw [happend]
      exact .inl ⟨_, rfl⟩
    · rw [happend]
      exact .inr ⟨name, old, htarget, hold, rfl⟩
  | replace =>
    rcases run_overwrite_cases input path text d with ⟨f, hrun⟩ | ⟨name, htarget, hrun⟩
    · exact .inl ⟨f, hrun⟩
    · exact .inr ⟨name, _, htarget, Directory.holds_of_target htarget, hrun⟩
  | prepend =>
    obtain ⟨r, hexisting, hold⟩ := run_existingText input path d
    unfold write
    rw [StateT.run_bind, hexisting]
    cases r with
    | error f => exact .inl ⟨_, rfl⟩
    | ok old =>
      have hbytes : (text ++ old).toUTF8 = text.toUTF8 ++ old.toUTF8 := String.toByteArray_append
      rcases run_overwrite_cases input path (text ++ old) d with ⟨f, hrun⟩ | ⟨name, htarget, hrun⟩
      · exact .inl ⟨f, hrun⟩
      · rw [hbytes] at hrun
        exact .inr ⟨name, _, htarget, hold old rfl, hrun⟩

/-- Output that goes into a file is put there in the way that the mode says, or nothing is changed. -/
theorem deliver_cases (mode : SinkMode) (quiet : Bool) :
    (∃ f, resultOn (deliver (Directory.access input) (some path) mode quiet text) d = (.error f, d)) ∨
      ∃ name old, d.target path = .ok name ∧ d.Holds path old ∧
        resultOn (deliver (Directory.access input) (some path) mode quiet text) d =
          (.ok (if quiet then "" else text), d.put name (mode.combine old text.toUTF8)) := by
  have hattempt : ∀ r d', (mode.write (Directory.access input) path text).run d = (r, d') →
      resultOn (attempt (mode.write (Directory.access input) path text) (.sink path)) d =
        (r.mapError (.sink path), d') := by
    intro r d' hr
    change ((((mode.write (Directory.access input) path text).run d).1.mapError (Failure.sink path)),
      ((mode.write (Directory.access input) path text).run d).2) = _
    rw [hr]
  have hdeliver := resultOn_bind (attempt (mode.write (Directory.access input) path text) (.sink path))
    (fun _ => pure (if quiet then "" else text)) d
  rcases SinkMode.write_cases input path text d mode with ⟨f, hwrite⟩ | ⟨name, old, htarget, hold, hwrite⟩
  · rw [hattempt _ _ hwrite] at hdeliver
    exact .inl ⟨_, hdeliver⟩
  · rw [hattempt _ _ hwrite] at hdeliver
    exact .inr ⟨name, old, htarget, hold, hdeliver⟩

end Writing

section Running

variable {input : ByteArray} {d d' : Directory}

/-- What a template renders to is what the command prints if there is no file for it. -/
theorem resultOn_rendered (template : String) (data : Option String) (mode : SinkMode) (quiet : Bool)
    (options : SettingsOptions) :
    resultOn (execute (Directory.access input) (.render template data none mode quiet options)) d =
      resultOn (rendered (Directory.access input) template data options) d := by
  rw [execute_render, resultOn_bind]
  split
  · rename_i h
    rw [h]
    rfl
  · rename_i h
    exact h.symm

/-- A command that renders into a file fails and changes nothing, or puts what it renders into this
file. -/
theorem execute_into_cases (template path : String) (data : Option String) (mode : SinkMode)
    (quiet : Bool) (options : SettingsOptions) :
    (∃ f, resultOn (execute (Directory.access input)
        (.render template data (some path) mode quiet options)) d = (.error f, d)) ∨
      ∃ output name old, resultOn (execute (Directory.access input)
          (.render template data none mode quiet options)) d = (.ok output, d) ∧
        d.target path = .ok name ∧ d.Holds path old ∧
        resultOn (execute (Directory.access input)
          (.render template data (some path) mode quiet options)) d =
            (.ok (if quiet then "" else output), d.put name (mode.combine old output.toUTF8)) := by
  rw [resultOn_rendered, execute_render, resultOn_bind]
  have hsame := ReadsOnly.rendered input template data options d
  generalize resultOn (rendered (Directory.access input) template data options) d = result at hsame ⊢
  obtain ⟨r, after⟩ := result
  obtain rfl : after = d := hsame
  cases r with
  | error f => exact .inl ⟨f, rfl⟩
  | ok output =>
    rcases deliver_cases input path output after mode quiet with ⟨f, h⟩ | ⟨name, old, htarget, hold, h⟩
    · exact .inl ⟨f, h⟩
    · exact .inr ⟨output, name, old, rfl, htarget, hold, h⟩

/-- A command that fails changes nothing. -/
theorem execute_failed {request : Request} {f : Failure}
    (h : resultOn (execute (Directory.access input) request) d = (.error f, d')) : d' = d := by
  have hreads : ∀ p : Running (StateM Directory) String, ReadsOnly p →
      resultOn p d = (.error f, d') → d' = d := by
    intro p hp hrun
    rw [← hp d, hrun]
  cases request with
  | render template data sink mode quiet options =>
    cases sink with
    | none =>
      rw [resultOn_rendered] at h
      exact hreads _ (.rendered input template data options) h
    | some path =>
      rcases execute_into_cases template path data mode quiet options with
        ⟨f', hrun⟩ | ⟨output, name, old, -, -, -, hrun⟩
      · rw [h] at hrun
        cases hrun
        rfl
      · rw [h] at hrun
        cases hrun
  | source template options =>
    exact hreads _ ((ReadsOnly.compiledOf input template options).bind fun _ => .pure _) h
  | version => exact hreads _ (.pure _) h
  | help => exact hreads _ (.pure _) h

theorem run_of_ok {words : List String} {request : Request} {output : String}
    (h : Request.ofWords words = .ok request)
    (hrun : resultOn (execute (Directory.access input) request) d = (.ok output, d')) :
    (run (Directory.access input) words).run d = (.done output, d') := by
  have hexecute : (execute (Directory.access input) request).run.run d = (.ok output, d') := hrun
  unfold run
  rw [h]
  dsimp only
  rw [StateT.run_bind, hexecute]
  rfl

theorem run_of_error {words : List String} {request : Request} {f : Failure}
    (h : Request.ofWords words = .ok request)
    (hrun : resultOn (execute (Directory.access input) request) d = (.error f, d')) :
    (run (Directory.access input) words).run d = (.failed f, d') := by
  have hexecute : (execute (Directory.access input) request).run.run d = (.error f, d') := hrun
  unfold run
  rw [h]
  dsimp only
  rw [StateT.run_bind, hexecute]
  rfl

/-- A command line that fails changes nothing and prints nothing. -/
theorem run_failed {words : List String} {outcome : Outcome}
    (h : (run (Directory.access input) words).run d = (outcome, d')) (hcode : outcome.code ≠ 0) :
    outcome.printed = "" ∧ d' = d := by
  cases hrequest : Request.ofWords words with
  | error f =>
    rw [run, hrequest] at h
    cases h
    exact ⟨rfl, rfl⟩
  | ok request =>
    obtain ⟨r, d'', hrun⟩ :
        ∃ r d'', resultOn (execute (Directory.access input) request) d = (r, d'') := ⟨_, _, rfl⟩
    cases r with
    | ok output =>
      cases (run_of_ok hrequest hrun).symm.trans h
      exact absurd rfl hcode
    | error f =>
      cases (run_of_error hrequest hrun).symm.trans h
      exact ⟨rfl, execute_failed hrun⟩

/-- A command line that succeeds in rendering into a file puts what it renders into this file. -/
theorem run_done {words : List String} {template path shown : String} {data : Option String}
    {mode : SinkMode} {quiet : Bool} {options : SettingsOptions}
    (hrequest : Request.ofWords words = .ok (.render template data (some path) mode quiet options))
    (h : (run (Directory.access input) words).run d = (.done shown, d')) :
    ∃ output name old, resultOn (execute (Directory.access input)
        (.render template data none mode quiet options)) d = (.ok output, d) ∧
      d.target path = .ok name ∧ d.Holds path old ∧
      d' = d.put name (mode.combine old output.toUTF8) ∧ shown = if quiet then "" else output := by
  rcases execute_into_cases template path data mode quiet options with
    ⟨f, hrun⟩ | ⟨output, name, old, houtput, htarget, hold, hrun⟩
  · cases (run_of_error hrequest hrun).symm.trans h
  · cases (run_of_ok hrequest hrun).symm.trans h
    exact ⟨output, name, old, houtput, htarget, hold, rfl, rfl⟩

end Running

end Microtemplate.Command
