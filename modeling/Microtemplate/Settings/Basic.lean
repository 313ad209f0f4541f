import Microtemplate.Settings.Pattern

/-!
Settings of a template: a pattern for each region or none, and the variable that holds the data if
its fields are not to be names themselves. `Overrides` change some settings and keep the others.
-/

namespace Microtemplate

/-- The settings of a template. -/
structure Settings where
  /-- The pattern of a region; a region without one is not recognised. -/
  pattern : Region → Option Pattern
  /-- The variable that holds the data; without one the fields of the data are names. -/
  variableName : Option String

namespace Settings

/-- The name of the data in programs whose settings give it none. -/
def defaultVariable : String := "obj"

/-- No region is recognised. -/
def literal : Settings := ⟨fun _ => none, none⟩

/-- The source of the pattern of a region in the default settings. -/
def defaultSource : Region → String
  | .escape => "<%-([\\s\\S]+?)%>"
  | .interpolate => "<%=([\\s\\S]+?)%>"
  | .evaluate => "<%([\\s\\S]+?)%>"

/-- The default settings. -/
def default : Settings := ⟨fun r => (Pattern.ofSource (defaultSource r)).toOption, none⟩

/-- The name that holds the data in programs. -/
def boundVariable (s : Settings) : String := s.variableName.getD defaultVariable

/-- Gives a region a pattern, or none. -/
def withPattern (s : Settings) (region : Region) (p : Option Pattern) : Settings :=
  { s with pattern := fun r => if r = region then p else s.pattern r }

/-- Gives the data a name; an empty name is none. -/
def withVariable (s : Settings) (name : Option String) : Settings :=
  { s with variableName := name.filter (!·.isEmpty) }

instance : BEq Settings :=
  ⟨fun a b => Region.all.all (fun r => a.pattern r == b.pattern r)
    && a.variableName == b.variableName⟩

end Settings

/-- A change of one setting. -/
inductive Override (α : Type) where
  | keep
  | off
  | set (value : α)
deriving BEq

namespace Override

/-- A setting after a change. -/
def apply {α : Type} : Override α → Option α → Option α
  | keep, old => old
  | off, _ => none
  | set value, _ => some value

/-- A change on top of another one. -/
def onTop {α : Type} : Override α → Override α → Override α
  | keep, lower => lower
  | upper, _ => upper

end Override

/-- Changes of settings. -/
structure Overrides where
  pattern : Region → Override Pattern
  variableName : Override String

namespace Overrides

/-- Everything is kept. -/
def keepAll : Overrides := ⟨fun _ => .keep, .keep⟩

/-- Changes the pattern of a region. -/
def withPattern (o : Overrides) (region : Region) (p : Override Pattern) : Overrides :=
  { o with pattern := fun r => if r = region then p else o.pattern r }

/-- Changes the variable. -/
def withVariable (o : Overrides) (name : Override String) : Overrides :=
  { o with variableName := name }

/-- Changes with others on top of them, which win where they change something. -/
def overlay (lower upper : Overrides) : Overrides :=
  ⟨fun r => (upper.pattern r).onTop (lower.pattern r), upper.variableName.onTop lower.variableName⟩

instance : BEq Overrides :=
  ⟨fun a b => Region.all.all (fun r => a.pattern r == b.pattern r)
    && a.variableName == b.variableName⟩

end Overrides

/-- Settings with changes. -/
def Settings.merge (s : Settings) (o : Overrides) : Settings :=
  let merged : Settings := { s with pattern := fun r => (o.pattern r).apply (s.pattern r) }
  match o.variableName with
  | .keep => merged
  | .off => merged.withVariable none
  | .set name => merged.withVariable (some name)

end Microtemplate
