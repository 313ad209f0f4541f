import Microtemplate.Script.Token
import Microtemplate.Text.Position

/-!
What can be wrong with a program text. A fault is a cause and a place; a `SyntaxError` is what a
fault becomes once it is reported: a message and an offset into the program it was found in.
-/

namespace Microtemplate.Script

/-- The causes of a refusal. -/
inductive Cause where
  | unterminatedComment
  | unterminatedString
  | invalidEscape
  | invalidUnicodeEscape
  | unicodeEscapeOutOfRange
  | octalEscape
  | invalidHexadecimal
  | missingExponent
  | identifierAfterNumber
  | unexpectedCharacter (c : Char)
  | unexpected (found : Token)
  | expected (wanted : Punctuator) (found : Token)
  | expectedFunction (found : Token)
  | expectedIdentifier (found : Token)
  | expectedTerminator (found : Token)
  | expectedPropertyName (found : Token)
  | missingColon
  | missingInitializer
  | breakOutsideLoop
  | continueOutsideLoop
  | invalidAssignmentTarget
  | invalidUpdateTarget
  | nestedTooDeeply
deriving DecidableEq

/-- The wording of a cause. -/
def Cause.message : Cause → String
  | unterminatedComment => "unterminated comment"
  | unterminatedString => "unterminated string literal"
  | invalidEscape => "invalid escape sequence"
  | invalidUnicodeEscape => "invalid Unicode escape sequence"
  | unicodeEscapeOutOfRange => "Unicode escape out of range"
  | octalEscape => "octal escape sequences are not allowed"
  | invalidHexadecimal => "invalid hexadecimal literal"
  | missingExponent => "missing exponent in number literal"
  | identifierAfterNumber => "identifier starts immediately after number"
  | unexpectedCharacter c => "unexpected character `" ++ c.toString ++ "`"
  | unexpected found => "unexpected " ++ found.description
  | expected wanted found => "expected `" ++ wanted.text ++ "` but found " ++ found.description
  | expectedFunction found => "expected `function` but found " ++ found.description
  | expectedIdentifier found => "expected identifier but found " ++ found.description
  | expectedTerminator found => "expected `;` but found " ++ found.description
  | expectedPropertyName found => "expected property name but found " ++ found.description
  | missingColon => "expected `:` after property name"
  | missingInitializer => "missing initializer in const declaration"
  | breakOutsideLoop => "illegal break statement"
  | continueOutsideLoop => "illegal continue statement"
  | invalidAssignmentTarget => "invalid assignment target"
  | invalidUpdateTarget => "invalid update target"
  | nestedTooDeeply => "program is nested too deeply"

/-- A cause and the text that is left where it was found. -/
structure Fault where
  cause : Cause
  text : List Char

/-- The refusal of a program text, with the byte offset where it was found. -/
structure SyntaxError where
  message : String
  offset : Nat
  program : String
deriving DecidableEq, Repr

namespace SyntaxError

/-- The error for a fault found in a program. -/
def ofFault (program : String) (fault : Fault) : SyntaxError :=
  ⟨fault.cause.message, Text.byteLength program.toList - Text.byteLength fault.text, program⟩

/-- The line and the column of the error. -/
def place (e : SyntaxError) : Text.Place := Text.placeAt e.offset e.program.toList

/-- The error in one line. -/
def display (e : SyntaxError) : String :=
  "Template syntax error: " ++ e.message ++ " (offset " ++ toString e.offset
    ++ " of the generated program)"

end SyntaxError

end Microtemplate.Script
