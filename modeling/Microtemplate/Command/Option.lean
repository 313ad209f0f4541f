import Microtemplate.Settings.Region

/-!
The commands of the command line and their options.
-/

namespace Microtemplate.Command

/-- The commands. -/
inductive Verb where
  | render
  | source
deriving DecidableEq, Repr

/-- The command of a name. -/
def Verb.ofName? : String → Option Verb
  | "render" => some render
  | "source" => some source
  | _ => none

/-- The options of the commands. -/
inductive OptionName where
  | data
  | output
  | mode
  | quiet
  | settings
  | pattern (r : Region)
  | off (r : Region)
  | variableName
  | help
deriving DecidableEq, Repr

namespace OptionName

/-- The long name of an option. -/
def long : OptionName → String
  | data => "data"
  | output => "to"
  | mode => "mode"
  | quiet => "quiet"
  | settings => "settings"
  | pattern r => r.name
  | off r => "no-" ++ r.name
  | variableName => "variable"
  | help => "help"

/-- The short name of an option, if it has one. -/
def short? : OptionName → Option Char
  | data => some 'd'
  | output => some 'o'
  | quiet => some 'q'
  | help => some 'h'
  | _ => none

/-- Whether an option has a value. -/
def takesValue : OptionName → Bool
  | quiet | off _ | help => false
  | _ => true

/-- The options of a command. -/
def ofVerb (v : Verb) : List OptionName :=
  let shared := settings :: variableName :: help :: Region.all.flatMap fun r => [pattern r, off r]
  match v with
  | .render => [data, output, mode, quiet] ++ shared
  | .source => shared

end OptionName

end Microtemplate.Command
