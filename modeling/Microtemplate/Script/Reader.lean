import Microtemplate.Script.Reader.Statement

/-!
Reading a program: one function with statements in it, nested at most `nestingLimit` deep.
-/

namespace Microtemplate.Script

namespace Reader

open Parse

variable (limit : Nat)

/-- The readers with a given number of levels left. -/
def nested : Nat → Nested
  | 0 =>
    let refused {α : Type} : Parse α := do refuse .nestedTooDeeply (← located)
    ⟨fun _ => refused, refused, refused⟩
  | levels + 1 =>
    let inner := nested levels
    ⟨statement limit inner, assignment limit inner, unary limit inner⟩

/-- A whole program: one function, then the end of input. -/
def program : Parse Function := do
  let f ← function limit (nested limit nestingLimit) true
  if (← token) = .endOfInput then return f else unexpected

end Reader

/-- Reads a program text. -/
def Function.ofText? (text : List Char) : Except Fault Function := do
  match ← Lexer.tokens text with
  | [] => Except.error ⟨.unexpected .endOfInput, []⟩
  | first :: more =>
    let (f, _) ← (Reader.program (more.length + 1)).run ⟨first, more⟩
    return f

/-- Reads a program text; a refusal says where and why. -/
def Function.parse (text : String) : Except SyntaxError Function :=
  match Function.ofText? text.toList with
  | .ok f => .ok f
  | .error fault => .error (.ofFault text fault)

end Microtemplate.Script
