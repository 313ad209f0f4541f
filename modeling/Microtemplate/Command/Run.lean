import Microtemplate.Command.Failure
import Microtemplate.Command.Request
import Microtemplate.Json.Reader
import Microtemplate.Template.Compiled

/-!
Running commands. A command first reads all it needs and renders, and only then writes to a file;
its result is the text for the standard output, so nothing is printed if it fails.
-/

namespace Microtemplate.Command

open Script

variable {m : Type → Type} [Monad m]

/-- Commands while they run: they may fail. -/
abbrev Running (m : Type → Type) := ExceptT Failure m

/-- Goes on with what an operation gives, or fails. -/
def attempt {ε α : Type} (operation : m (Except ε α)) (failure : ε → Failure) : Running m α :=
  ExceptT.mk (return (← operation).mapError failure)

/-- Goes on with a result, or fails. -/
def settle {ε α : Type} (result : Except ε α) (failure : ε → Failure) : Running m α :=
  ExceptT.mk (return result.mapError failure)

/-- The text of a file or of the standard input. -/
def inputText (files : FileAccess m) (path : String) : Running m String :=
  if path = Request.standardInput then attempt files.standardText .standardInput
  else attempt (files.text path) (.input path)

/-- The changes of settings: those of the settings file, and those of the other options on top. -/
def changesOf (files : FileAccess m) (options : SettingsOptions) : Running m Overrides := do
  match options.file with
  | none => return options.apply .keepAll
  | some path =>
    let text ← attempt (files.text path) (.settingsInput path)
    let changes ← settle (Overrides.ofJson text) (.settings path)
    return options.apply changes

/-- Why a command fails whose template cannot be compiled. -/
def compileFailure (path : String) : CompileError → Failure
  | .program e => .program path e
  | .pattern e => .pattern path e
  | .file f => .input path f

/-- The compiled template. -/
def compiledOf (files : FileAccess m) (path : String) (options : SettingsOptions) :
    Running m Compiled := do
  let text ← inputText files path
  let changes ← changesOf files options
  settle (Compiled.ofText text changes) (compileFailure path)

/-- The data; an empty object if none is given. -/
def dataOf (files : FileAccess m) : Option String → Running m Json
  | none => return .object []
  | some path => do
    let text ← inputText files path
    match Json.ofText? text.toList with
    | some data => return data
    | none => throw (.data path)

/-- Runs a command; the result is what it prints. -/
def execute (files : FileAccess m) : Request → Running m String
  | .render template data sink mode quiet options => do
    if template = Request.standardInput ∧ data = some Request.standardInput then
      throw .sharedInput
    let compiled ← compiledOf files template options
    let data ← dataOf files data
    let output ← settle (compiled.render data) (.rendering template)
    match sink with
    | none => return output
    | some path =>
      attempt (mode.write files path output) (.sink path)
      return if quiet then "" else output
  | .source template options => do
    let compiled ← compiledOf files template options
    return compiled.source ++ "\n"
  | .version => return "jstemplate 0.1.0\n"
  | .help => return "Usage: jstemplate render|source TEMPLATE [OPTIONS]\n"

/-- How a command line ends. -/
inductive Outcome where
  | done (output : String)
  | failed (f : Failure)
  | refused (f : UsageFault)

/-- The exit code of an outcome. -/
def Outcome.code : Outcome → Nat
  | done _ => 0
  | failed _ => 1
  | refused _ => 2

/-- What an outcome prints on the standard output. -/
def Outcome.printed : Outcome → String
  | done output => output
  | failed _ | refused _ => ""

/-- Runs a command line. -/
def run (files : FileAccess m) (words : List String) : m Outcome := do
  match Request.ofWords words with
  | .error f => return .refused f
  | .ok request =>
    match ← (execute files request).run with
    | .ok output => return .done output
    | .error f => return .failed f

end Microtemplate.Command
