import Microtemplate.Files.Basic
import Microtemplate.Json.Entries
import Microtemplate.Script.Program
import Microtemplate.Template.Source

/-!
Compiled templates: the text of the program that a template becomes, and the program itself.
-/

namespace Microtemplate

open Script

/-- Why a template cannot be compiled. -/
inductive CompileError where
  | pattern (e : PatternError)
  | program (e : SyntaxError)
  | file (f : FileFault)
deriving DecidableEq

/-- The error in one line. -/
def CompileError.display : CompileError → String
  | pattern e => e.display
  | program e => e.display
  | file f => "I/O error: " ++ f.message

/-- A compiled template. -/
structure Compiled where
  source : String
  program : Function

namespace Compiled

/-- Compiles the text of a program. -/
def ofSource (source : String) : Except SyntaxError Compiled :=
  (Function.parse source).map fun f => ⟨source, f⟩

/-- The steps of a template. -/
def steps (text : List Char) (s : Settings) : Except PatternError (List Instruction) :=
  (Scanner.ofSettings s).map fun scanner => instructions text (scanner.scan text)

/-- Compiles a template. -/
def ofTemplate (text : String) (s : Settings) : Except CompileError Compiled :=
  match steps text.toList s with
  | .error e => .error (.pattern e)
  | .ok steps =>
    match ofSource (String.ofList (Source.ofInstructions s steps)) with
    | .error e => .error (.program e)
    | .ok c => .ok c

/-- The name that holds the data in the program. -/
def boundVariable (c : Compiled) : String := c.program.params.head?.getD Settings.defaultVariable

/-- Renders data in at most the given depth of steps. -/
def renderWithin (c : Compiled) (bound : Nat) (data : Json) : Except Halt String :=
  c.program.render bound data

/-- More steps than any run takes that ends in reasonable time. -/
def stepBound : Nat := Nat.pow 2 62

/-- Renders data. -/
def render (c : Compiled) (data : Json) : Except Halt String := c.renderWithin stepBound data

/-- Renders an object given by entries. -/
def renderEntries (c : Compiled) (entries : List (Json × Json)) : Except Halt String :=
  match Json.ofEntries? entries with
  | some data => c.render data
  | none => .error (.failed .dataKey)

/-- Compiles a template with changes of the default settings. -/
def ofText (text : String) (changes : Overrides) : Except CompileError Compiled :=
  ofTemplate text (Settings.default.merge changes)

/-- Compiles the template in a file with changes of the default settings. -/
def ofFile {m : Type → Type} [Monad m] (files : FileAccess m) (path : String)
    (changes : Overrides) : m (Except CompileError Compiled) := do
  match ← files.text path with
  | .error f => return .error (.file f)
  | .ok text => return ofText text changes

end Compiled

end Microtemplate
