import Microtemplate.Command.Run

/-!
The program: runs a command line on the files of the system.
-/

namespace Microtemplate

/-- What an error of the system says about a file. -/
def FileFault.ofError : IO.Error → FileFault
  | .noFileOrDirectory .. => .missing
  | e => .other (toString e)

namespace SystemFiles

/-- An operation that may fail. -/
def guarded {α : Type} (operation : IO α) : IO (Except FileFault α) := do
  try return .ok (← operation)
  catch e => return .error (FileFault.ofError e)

/-- All that is left of a stream. -/
partial def readAll (stream : IO.FS.Stream) (before : ByteArray) : IO ByteArray := do
  let bytes ← stream.read 65536
  if bytes.isEmpty then return before else readAll stream (before ++ bytes)

/-- Adds to the end of a file. -/
def append (path : String) (bytes : ByteArray) : IO (Except AppendFault Unit) := do
  match ← guarded (IO.FS.Handle.mk path .append) with
  | .error f => return .error (.opening f)
  | .ok handle => return (← guarded (handle.write bytes)).mapError .writing

/-- The files of the system. -/
def access : FileAccess IO where
  standardInput := do guarded (readAll (← IO.getStdin) ByteArray.empty)
  contents path := guarded (IO.FS.readBinFile path)
  append := append
  replace path bytes := guarded (IO.FS.writeBinFile path bytes)

end SystemFiles

end Microtemplate

/-- Runs the command line, prints what it gives, and ends with its exit code. -/
def main (words : List String) : IO UInt32 := do
  let outcome ← Microtemplate.Command.run Microtemplate.SystemFiles.access words
  IO.print outcome.printed
  match outcome with
  | .done _ => pure ()
  | .failed f =>
    if let some report := f.report? then IO.eprintln report
    IO.eprint f.explanation
  | .refused f => IO.eprintln ("error: " ++ f.message)
  return outcome.code.toUInt32
