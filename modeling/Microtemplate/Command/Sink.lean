import Microtemplate.Files.Basic

/-!
Writing output into a file: after its contents, in their place, or before them. A file that is
missing is created.
-/

namespace Microtemplate.Command

/-- How output is combined with the contents of a file. -/
inductive SinkMode where
  | append
  | replace
  | prepend
deriving DecidableEq, Repr

/-- The mode of a name. -/
def SinkMode.ofName? : String → Option SinkMode
  | "append" => some append
  | "replace" => some replace
  | "prepend" => some prepend
  | _ => none

/-- The step at which writing into a file failed. -/
inductive SinkFault where
  | opening (f : FileFault)
  | reading (f : FileFault)
  | writing (f : FileFault)
deriving DecidableEq, Repr

/-- The text of a file; nothing if it is missing. -/
def existingText {m : Type → Type} [Monad m] (files : FileAccess m) (path : String) :
    m (Except FileFault String) := do
  match ← files.text path with
  | .error .missing => return .ok ""
  | result => return result

/-- Replaces the contents of a file by a text. -/
def overwrite {m : Type → Type} [Monad m] (files : FileAccess m) (path text : String) :
    m (Except SinkFault Unit) :=
  return (← files.replace path text.toUTF8).mapError .writing

/-- Writes a text into a file. -/
def SinkMode.write {m : Type → Type} [Monad m] (mode : SinkMode) (files : FileAccess m)
    (path text : String) : m (Except SinkFault Unit) := do
  match mode with
  | append =>
    match ← files.append path text.toUTF8 with
    | .ok () => return .ok ()
    | .error (.opening f) => return .error (.opening f)
    | .error (.writing f) => return .error (.writing f)
  | replace => overwrite files path text
  | prepend =>
    match ← existingText files path with
    | .ok old => overwrite files path (text ++ old)
    | .error f => return .error (.reading f)

end Microtemplate.Command
