import Microtemplate.Command.Run
import Microtemplate.Files.Directory

/-!
Layers of settings. Changes act on settings one layer after the other, and a layer on top of another
one is the change that both make together, so it does not matter how layers are grouped. The options
of a command line are one more layer on top of the settings file. Settings and changes are equal here
only if their patterns are written in the same way.
-/

namespace Microtemplate

namespace Override

variable {α : Type}

theorem onTop_keep (a : Override α) : a.onTop keep = a := by cases a <;> rfl

theorem onTop_assoc (a b c : Override α) : (c.onTop b).onTop a = c.onTop (b.onTop a) := by
  cases c <;> rfl

theorem apply_onTop (a b : Override α) (old : Option α) :
    (b.onTop a).apply old = b.apply (a.apply old) := by
  cases b <;> rfl

/-- A change of the variable as settings take it: an empty name is none. -/
def named : Override String → Override String
  | keep => keep
  | off => off
  | set name => if name.isEmpty then off else set name

theorem named_onTop (a b : Override String) : (b.onTop a).named = b.named.onTop a.named := by
  cases b with
  | keep => rfl
  | off => rfl
  | set name =>
    simp only [onTop, named]
    split <;> rfl

end Override

namespace Settings

variable (s : Settings) (a b : Overrides)

/-- Each setting is changed on its own. -/
theorem merge_eq : s.merge a =
    ⟨fun r => (a.pattern r).apply (s.pattern r), a.variableName.named.apply s.variableName⟩ := by
  unfold merge
  cases hname : a.variableName with
  | keep => rfl
  | off => rfl
  | set name =>
    simp only [withVariable, Override.named, Option.filter]
    by_cases hempty : name.isEmpty = true
    · simp only [hempty, Bool.not_true, Bool.false_eq_true, if_false, if_true, Override.apply]
    · simp only [Bool.not_eq_true] at hempty
      simp only [hempty, Bool.not_false, Bool.false_eq_true, if_false, if_true, Override.apply]

theorem merge_merge : (s.merge a).merge b = s.merge (a.overlay b) := by
  simp only [merge_eq, Overrides.overlay, Override.apply_onTop, Override.named_onTop]

theorem merge_keepAll : s.merge .keepAll = s := by
  rw [merge_eq]
  rfl

end Settings

namespace Overrides

variable (a b c : Overrides)

theorem overlay_assoc : (a.overlay b).overlay c = a.overlay (b.overlay c) := by
  simp only [overlay, Override.onTop_assoc]

theorem keepAll_overlay : keepAll.overlay a = a := by
  simp only [overlay, keepAll, Override.onTop_keep]

theorem overlay_keepAll : a.overlay keepAll = a := rfl

theorem withPattern_self (r : Region) : a.withPattern r (a.pattern r) = a := by
  have hpattern : (fun q => if q = r then a.pattern r else a.pattern q) = a.pattern := by
    funext q
    split
    · rename_i hq
      rw [hq]
    · rfl
  rw [withPattern, hpattern]

end Overrides

namespace Command

namespace SettingsOptions

variable (o : SettingsOptions)

/-- The change of a region that the options ask for: an option that turns it off, or a pattern. -/
def patternChange (r : Region) : Override Pattern :=
  if o.isOff r then .off
  else match o.pattern r with
    | some p => .set p
    | none => .keep

/-- The changes that the options ask for, as a layer. -/
def changes : Overrides where
  pattern := o.patternChange
  variableName := match o.variableName with
    | some name => .set name
    | none => .keep

/-- Changes with the change of one region on top. -/
def withRegion (base : Overrides) (r : Region) : Overrides :=
  base.withPattern r ((o.patternChange r).onTop (base.pattern r))

theorem variableName_foldl (regions : List Region) (base : Overrides) :
    (regions.foldl o.withRegion base).variableName = base.variableName := by
  induction regions generalizing base with
  | nil => rfl
  | cons r regions ih => exact ih _

theorem pattern_foldl (regions : List Region) (base : Overrides) (r : Region) :
    (regions.foldl o.withRegion base).pattern r =
      if r ∈ regions then (o.patternChange r).onTop (base.pattern r) else base.pattern r := by
  induction regions generalizing base with
  | nil => rfl
  | cons q regions ih =>
    rw [List.foldl_cons, ih]
    by_cases hq : r = q
    · subst hq
      -- the change of a region on top of itself is the same change
      have htwice : (o.patternChange r).onTop ((o.patternChange r).onTop (base.pattern r)) =
          (o.patternChange r).onTop (base.pattern r) := by
        cases o.patternChange r <;> rfl
      simp [withRegion, Overrides.withPattern, htwice]
    · simp [withRegion, Overrides.withPattern, hq]

theorem foldl_all (base : Overrides) : Region.all.foldl o.withRegion base =
    ⟨fun r => (o.patternChange r).onTop (base.pattern r), base.variableName⟩ := by
  have hpattern : (Region.all.foldl o.withRegion base).pattern =
      fun r => (o.patternChange r).onTop (base.pattern r) := by
    funext r
    rw [pattern_foldl, if_pos r.mem_all]
  rw [← hpattern, ← o.variableName_foldl Region.all base]

/-- The options are a layer on top of the changes that they are given. -/
theorem apply_eq_overlay (base : Overrides) : o.apply base = base.overlay o.changes := by
  have hfold : ∀ step : Overrides → Region → Overrides,
      (∀ changes r, step changes r = o.withRegion changes r) →
      Region.all.foldl step base = Region.all.foldl o.withRegion base := fun step hstep => by
    rw [funext fun changes => funext (hstep changes)]
  unfold apply
  rw [hfold, foldl_all]
  · unfold Overrides.overlay changes
    cases o.variableName <;> rfl
  · intro changes r
    unfold withRegion patternChange
    split
    · rfl
    · cases o.pattern r with
      | some p => rfl
      | none => exact (changes.withPattern_self r).symm

end SettingsOptions

/-- The changes that the settings file asks for; without a file nothing is changed. -/
def fileChanges {m : Type → Type} [Monad m] (files : FileAccess m) :
    Option String → Running m Overrides
  | none => return .keepAll
  | some path => do
    let text ← attempt (files.text path) (.settingsInput path)
    settle (Overrides.ofJson text) (.settings path)

/-- A command puts its options on top of its settings file. -/
theorem changesOf_eq {m : Type → Type} [Monad m] [LawfulMonad m] (files : FileAccess m)
    (o : SettingsOptions) : changesOf files o =
      (fileChanges files o.file >>= fun f => pure (f.overlay o.changes)) := by
  unfold changesOf fileChanges
  cases o.file with
  | none => simp only [pure_bind, SettingsOptions.apply_eq_overlay]
  | some path => simp only [bind_assoc, SettingsOptions.apply_eq_overlay]

end Command

/-- Layers of changes act like one layer: on settings, on other layers, where changes that keep
everything are neutral, and from a settings file and the options of a command line. -/
theorem Overrides.layers_act_as_one :
    (∀ (s : Settings) (a b : Overrides), (s.merge a).merge b = s.merge (a.overlay b)) ∧
    (∀ a b c : Overrides, (a.overlay b).overlay c = a.overlay (b.overlay c)) ∧
    (∀ a : Overrides, Overrides.keepAll.overlay a = a ∧ a.overlay .keepAll = a) ∧
    (∀ s : Settings, s.merge .keepAll = s) ∧
    (∀ (f : Overrides) (o : Command.SettingsOptions), o.apply f = f.overlay o.changes) ∧
    ∀ (input : ByteArray) (o : Command.SettingsOptions),
      Command.changesOf (Directory.access input) o =
        (Command.fileChanges (Directory.access input) o.file >>= fun f =>
          pure (f.overlay o.changes)) :=
  ⟨Settings.merge_merge, Overrides.overlay_assoc,
    fun a => ⟨a.keepAll_overlay, a.overlay_keepAll⟩, Settings.merge_keepAll,
    fun f o => o.apply_eq_overlay f, fun _ o => Command.changesOf_eq _ o⟩

end Microtemplate
