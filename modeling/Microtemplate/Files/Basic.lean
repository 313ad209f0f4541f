/-!
Files, seen from a program that reads and writes them: what can go wrong, the operations it needs,
and texts read from the bytes of files.
-/

namespace Microtemplate

/-- What can go wrong with a file. -/
inductive FileFault where
  | missing
  | isDirectory
  | notDirectory
  | nameTooLong
  /-- The bytes are no UTF-8. -/
  | notText
  /-- Another fault of the system, in its own words. -/
  | other (message : String)
deriving DecidableEq, Repr

/-- The wording of a fault. -/
def FileFault.message : FileFault → String
  | missing => "No such file or directory (os error 2)"
  | isDirectory => "Is a directory (os error 21)"
  | notDirectory => "Not a directory (os error 20)"
  | nameTooLong => "File name too long (os error 36)"
  | notText => "stream did not contain valid UTF-8"
  | other message => message

/-- The text that bytes are. -/
def textOfBytes (bytes : ByteArray) : Except FileFault String :=
  match String.fromUTF8? bytes with
  | some text => .ok text
  | none => .error .notText

/-- What can go wrong when something is added to a file. -/
inductive AppendFault where
  | opening (f : FileFault)
  | writing (f : FileFault)
deriving DecidableEq, Repr

/-- The operations on files that programs use. -/
structure FileAccess (m : Type → Type) where
  /-- The bytes of the standard input. -/
  standardInput : m (Except FileFault ByteArray)
  /-- The bytes of a file. -/
  contents : String → m (Except FileFault ByteArray)
  /-- Adds to the end of a file, which is created if it is missing. -/
  append : String → ByteArray → m (Except AppendFault Unit)
  /-- Replaces the contents of a file, which is created if it is missing. -/
  replace : String → ByteArray → m (Except FileFault Unit)

namespace FileAccess

variable {m : Type → Type} [Monad m]

/-- The text of a file. -/
def text (files : FileAccess m) (path : String) : m (Except FileFault String) :=
  return (← files.contents path) >>= textOfBytes

/-- The text of the standard input. -/
def standardText (files : FileAccess m) : m (Except FileFault String) :=
  return (← files.standardInput) >>= textOfBytes

end FileAccess

end Microtemplate
