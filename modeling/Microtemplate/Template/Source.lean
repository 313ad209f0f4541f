import Microtemplate.Template.Instruction

/-!
The program of a template as text: one function that appends to `__p` what the template produces and
returns it. Unless the data has a variable of its own, the statements stand inside `with`, so that
the fields of the data are names.
-/

namespace Microtemplate

namespace Source

/-- How a character is written in a string with single quotes. -/
def literalChar : Char → List Char
  | '\'' => ['\\', '\'']
  | '\\' => ['\\', '\\']
  | '\r' => ['\\', 'r']
  | '\n' => ['\\', 'n']
  | '\u2028' => "\\u2028".toList
  | '\u2029' => "\\u2029".toList
  | c => [c]

/-- A text as it is written between single quotes. -/
def escapeLiteral (text : List Char) : List Char := text.flatMap literalChar

/-- The text of a step, which stands inside a string that is being appended. -/
def step : Instruction → List Char
  | .literal text => escapeLiteral text
  | .escaped code =>
    "'+\n((__t=(".toList ++ code ++ "))==null?'':_.escape(__t))+\n'".toList
  | .raw code => "'+\n((__t=(".toList ++ code ++ "))==null?'':__t)+\n'".toList
  | .execute code => "';\n".toList ++ code ++ "\n__p+='".toList

/-- The statements of the steps. -/
def statements (steps : List Instruction) : List Char :=
  "__p+='".toList ++ steps.flatMap step ++ "';\n".toList

/-- The declarations at the start of a program. -/
def header : List Char :=
  "var __t,__p='',print=function(...__a)\x7b__p+=__a.join('');\x7d;\n".toList

/-- What stands between the outer braces of a program. -/
def body (steps : List Instruction) (variableName : Option String) : List Char :=
  let inner := statements steps
  let inner := match variableName with
    | none => "with(obj||\x7b\x7d)\x7b\n".toList ++ inner ++ "\x7d\n".toList
    | some _ => inner
  header ++ inner ++ "return __p;\n".toList

/-- The text of a program with a parameter. -/
def program (parameter body : List Char) : List Char :=
  "function(".toList ++ parameter ++ ")\x7b\n".toList ++ body ++ ['\x7d']

/-- The text of the program of a template. -/
def ofInstructions (s : Settings) (steps : List Instruction) : List Char :=
  program s.boundVariable.toList (body steps s.variableName)

end Source

end Microtemplate
