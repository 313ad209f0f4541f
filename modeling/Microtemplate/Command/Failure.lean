import Microtemplate.Command.Sink
import Microtemplate.Report
import Microtemplate.Script.Store
import Microtemplate.Settings.Reader

/-!
Why a command fails, and how it says so: a title, and the cause behind it if there is one.
-/

namespace Microtemplate.Command

open Script

/-- Why a command fails. -/
inductive Failure where
  /-- Template and data cannot both be the standard input. -/
  | sharedInput
  | standardInput (f : FileFault)
  | input (path : String) (f : FileFault)
  | settingsInput (path : String) (f : FileFault)
  | settings (path : String) (f : SettingsFault)
  | program (path : String) (e : SyntaxError)
  | pattern (path : String) (e : PatternError)
  | data (path : String)
  | rendering (path : String) (h : Halt)
  | sink (path : String) (f : SinkFault)
deriving DecidableEq

namespace Failure

/-- The title of a failure. -/
def title : Failure → String
  | sharedInput => "The template and the data context cannot both be read from stdin"
  | standardInput _ => "Failed to read stdin"
  | input path _ => "Failed to read " ++ path
  | settingsInput path _ => "Failed to read settings file: " ++ path
  | settings path _ => "Invalid settings file: " ++ path
  | program path e => path ++ ": " ++ e.display
  | pattern path _ => "Failed to compile " ++ path
  | data path => "Invalid JSON data context: " ++ path
  | rendering path _ => "Failed to render " ++ path
  | sink path (.opening _) => "Failed to open " ++ path
  | sink path (.reading _) => "Failed to read " ++ path
  | sink path (.writing _) => "Failed to write " ++ path

/-- How a run that has ended early is explained. -/
def haltText : Halt → String
  | .failed e => e.display
  | .exhausted => "the program does not end"

/-- The wording of what is wrong with a settings file. -/
def settingsText : SettingsFault → String
  | .malformed => "malformed JSON"
  | f => f.message

/-- What is behind a failure. -/
def cause? : Failure → Option String
  | standardInput f | input _ f | settingsInput _ f => some f.message
  | settings _ f => some (settingsText f)
  | pattern _ e => some e.display
  | data _ => some "malformed JSON"
  | rendering _ h => some (haltText h)
  | sink _ (.opening f) | sink _ (.reading f) | sink _ (.writing f) => some f.message
  | sharedInput | program .. => none

/-- A text whose lines are indented. -/
def indent (cs : List Char) : List Char :=
  "    ".toList ++ cs.flatMap fun c => if c = '\n' then "\n    ".toList else [c]

/-- What is printed about a failure. -/
def explanation (f : Failure) : String :=
  let behind := match f.cause? with
    | some cause => "\nCaused by:\n".toList ++ indent cause.toList ++ ['\n']
    | none => []
  "Error: " ++ f.title ++ "\n" ++ String.ofList behind

/-- The report that comes before the explanation of a syntax error. -/
def report? : Failure → Option String
  | program _ e => some e.report
  | _ => none

end Failure

end Microtemplate.Command
