import Microtemplate.Decimal.Notation
import Microtemplate.Json.Basic

/-!
Writing JSON. `quote` writes a string; quotes, backslashes and control characters are escaped and
all else stands as it is. `render` writes a value without blanks.
-/

namespace Microtemplate.Json

/-- A small hexadecimal digit. -/
def hexChar (d : Nat) : Char := Decimal.digitChar d

/-- How a character is written inside a string. -/
def quoteChar (c : Char) : List Char :=
  match c with
  | '"' => ['\\', '"']
  | '\\' => ['\\', '\\']
  | '\x08' => ['\\', 'b']
  | '\x0c' => ['\\', 'f']
  | '\n' => ['\\', 'n']
  | '\r' => ['\\', 'r']
  | '\t' => ['\\', 't']
  | c =>
    if c.toNat < 0x20 then
      ['\\', 'u', '0', '0', hexChar (c.toNat / 16), hexChar (c.toNat % 16)]
    else [c]

/-- A text as a JSON string. -/
def quote (cs : List Char) : List Char := '"' :: cs.flatMap quoteChar ++ ['"']

/-- A number in JSON; what JSON has no number for is null. -/
def numberChars : JsonNumber → List Char
  | .whole i => if i < 0 then '-' :: Decimal.figures i.natAbs else Decimal.figures i.natAbs
  | .double x => match Decimal.Binary.ofFloat x with
    | .finite .. => (Decimal.signedText .compact "0.0" x).toList
    | _ => "null".toList

mutual

/-- A value without blanks. -/
def chars : Json → List Char
  | null => "null".toList
  | boolean b => (if b then "true" else "false").toList
  | number n => numberChars n
  | string s => quote s.toList
  | array [] => ['[', ']']
  | array (first :: rest) => '[' :: chars first ++ charsOfItems rest ++ [']']
  | object [] => ['\x7b', '\x7d']
  | object ((name, value) :: rest) =>
    '\x7b' :: quote name.toList ++ ':' :: chars value ++ charsOfFields rest ++ ['\x7d']

/-- Further items, each after a comma. -/
def charsOfItems : List Json → List Char
  | [] => []
  | item :: rest => ',' :: chars item ++ charsOfItems rest

/-- Further fields, each after a comma. -/
def charsOfFields : List (String × Json) → List Char
  | [] => []
  | (name, value) :: rest => ',' :: quote name.toList ++ ':' :: chars value ++ charsOfFields rest

end

/-- The text of a value without blanks. -/
def render (j : Json) : String := String.ofList j.chars

end Microtemplate.Json
