import Microtemplate.Fields
import Microtemplate.Files.Basic

/-!
A directory of files as a value. A path is walked component by component: an empty one and `.` stay,
`..` goes up, and every component but the last has to be a directory. Of what is outside the
directory nothing is known but that it is there.
-/

namespace Microtemplate

/-- Files by their names; a name with slashes is that of a file in a directory inside. -/
structure Directory where
  files : Fields ByteArray

namespace Directory

/-- Cuts a path at its slashes. -/
def components : List Char → List (List Char)
  | [] => [[]]
  | c :: cs =>
    if c = '/' then [] :: components cs
    else match components cs with
      | [] => [[c]]
      | first :: rest => (c :: first) :: rest

/-- The name of what is reached by components. -/
def joined (parts : List (List Char)) : String :=
  String.ofList (['/'].intercalate parts)

/-- Whether components lead to a directory. -/
def hasDirectory (d : Directory) (parts : List (List Char)) : Bool :=
  parts.isEmpty || d.files.any fun f => ((joined parts).toList ++ ['/']).isPrefixOf f.1.toList

/-- The longest name of a file, in bytes. -/
def nameLimit : Nat := 255

/-- Where a walk has come to. -/
inductive Spot where
  /-- At a directory outside of this one. -/
  | outside
  /-- At a directory, given the components that lead to it. -/
  | directory (parts : List (List Char))
  /-- At the name of a file, which is there or is missing. -/
  | file (name : String) (present : Bool)
  /-- After the slash that follows the name of a missing file. -/
  | beyond
deriving DecidableEq

/-- Goes on by one component. -/
def walk (d : Directory) (part : List Char) : Spot → Except FileFault Spot
  | .outside =>
    if part = [] ∨ part = ['.'] ∨ part = ['.', '.'] then .ok .outside else .error .missing
  | .directory parts =>
    if part = [] ∨ part = ['.'] then .ok (.directory parts)
    else if part = ['.', '.'] then
      .ok (if parts.isEmpty then .outside else .directory parts.dropLast)
    else if nameLimit < (String.ofList part).utf8ByteSize then .error .nameTooLong
    else
      let parts := parts ++ [part]
      if d.files.has (joined parts) then .ok (.file (joined parts) true)
      else if d.hasDirectory parts then .ok (.directory parts)
      else .ok (.file (joined parts) false)
  | .file _ true => .error .notDirectory
  | .file _ false | .beyond => if part = [] then .ok .beyond else .error .missing

/-- Where a path leads to. -/
def spot (d : Directory) (path : String) : Except FileFault Spot :=
  match path.toList with
  | [] => .error .missing
  | '/' :: rest => (components rest).foldlM (fun s part => d.walk part s) .outside
  | cs => (components cs).foldlM (fun s part => d.walk part s) (.directory [])

/-- The bytes of a file. -/
def contents (d : Directory) (path : String) : Except FileFault ByteArray := do
  match ← d.spot path with
  | .file name _ =>
    match d.files.get? name with
    | some bytes => return bytes
    | none => throw .missing
  | .beyond => throw .missing
  | _ => throw .isDirectory

/-- The name of the file to which a path leads, if it can be written. -/
def target (d : Directory) (path : String) : Except FileFault String := do
  match ← d.spot path with
  | .file name _ => return name
  | _ => throw .isDirectory

/-- Replaces the contents of a file, which is created if it is missing. -/
def replace (d : Directory) (path : String) (bytes : ByteArray) : Except FileFault Directory := do
  return ⟨d.files.set (← d.target path) bytes⟩

/-- Adds to the end of a file, which is created if it is missing. -/
def append (d : Directory) (path : String) (bytes : ByteArray) : Except FileFault Directory := do
  let name ← d.target path
  return ⟨d.files.set name ((d.files.get? name).getD ByteArray.empty ++ bytes)⟩

/-- The operations on a directory, with the bytes of the standard input. -/
def access (input : ByteArray) : FileAccess (StateM Directory) where
  standardInput := return .ok input
  contents path := return (← get).contents path
  append path bytes := do
    match (← get).append path bytes with
    | .ok d => set d; return .ok ()
    | .error f => return .error (.opening f)
  replace path bytes := do
    match (← get).replace path bytes with
    | .ok d => set d; return .ok ()
    | .error f => return .error f

end Directory

end Microtemplate
