import Microtemplate.Decimal.Numeral
import Microtemplate.Json.Basic
import Microtemplate.Unicode.CaseRun

/-!
Reading JSON. Each reader takes the text that is left and gives what is left after it. Arrays and
objects may stand inside each other at most `levelLimit` deep.
-/

namespace Microtemplate.Json

namespace Reader

/-- Goes over blanks. -/
def skipBlanks (cs : List Char) : List Char :=
  cs.dropWhile fun c => c = ' ' || c = '\n' || c = '\t' || c = '\r'

/-- Four hexadecimal digits. -/
def hexFour? : List Char → Option (Nat × List Char)
  | a :: b :: c :: d :: rest => do
    let a ← Unicode.hexDigit? a
    let b ← Unicode.hexDigit? b
    let c ← Unicode.hexDigit? c
    let d ← Unicode.hexDigit? d
    return (((a * 16 + b) * 16 + c) * 16 + d, rest)
  | _ => none

/-- A code point after `\u`. A high surrogate has to be followed by a low one, in an escape
sequence of its own; a low one may not come first. -/
def unicode? (cs : List Char) : Option (Char × List Char) := do
  let (code, rest) ← hexFour? cs
  if 0xD800 ≤ code ∧ code < 0xDC00 then
    match rest with
    | '\\' :: 'u' :: rest =>
      let (low, rest) ← hexFour? rest
      if 0xDC00 ≤ low ∧ low < 0xE000 then
        return (Char.ofNat (0x10000 + (code - 0xD800) * 1024 + (low - 0xDC00)), rest)
      else none
    | _ => none
  else if 0xDC00 ≤ code ∧ code < 0xE000 then none
  else return (Char.ofNat code, rest)

/-- An escape sequence after its backslash. -/
def escape? : List Char → Option (Char × List Char)
  | '"' :: rest => some ('"', rest)
  | '\\' :: rest => some ('\\', rest)
  | '/' :: rest => some ('/', rest)
  | 'b' :: rest => some ('\x08', rest)
  | 'f' :: rest => some ('\x0c', rest)
  | 'n' :: rest => some ('\n', rest)
  | 'r' :: rest => some ('\r', rest)
  | 't' :: rest => some ('\t', rest)
  | 'u' :: rest => unicode? rest
  | _ => none

/-- The rest of a string after its opening quote; each round goes over at least one character. -/
def stringBody? : Nat → List Char → Option (List Char × List Char)
  | 0, _ => none
  | _ + 1, [] => none
  | bound + 1, c :: cs =>
    if c = '"' then some ([], cs)
    else if c = '\\' then do
      let (e, rest) ← escape? cs
      let (more, rest) ← stringBody? bound rest
      return (e :: more, rest)
    else if c.toNat < 0x20 then none
    else do
      let (more, rest) ← stringBody? bound cs
      return (c :: more, rest)

/-- A string after its opening quote. -/
def string? (cs : List Char) : Option (String × List Char) := do
  let (chars, rest) ← stringBody? cs.length cs
  return (String.ofList chars, rest)

/-- The whole part of a number: figures that start with no superfluous zero. -/
def wholePart? (cs : List Char) : Option (List Char × List Char) :=
  match cs.span Char.isDigit with
  | ([], _) => none
  | ('0' :: _ :: _, _) => none
  | parts => some parts

/-- The fraction of a number, if there is a point. -/
def fraction? : List Char → Option (List Char × List Char)
  | '.' :: cs =>
    match cs.span Char.isDigit with
    | ([], _) => none
    | parts => some parts
  | cs => some ([], cs)

/-- The exponent of a number, if there is one. -/
def exponent? (cs : List Char) : Option (Option Int × List Char) :=
  match cs with
  | [] => some (none, [])
  | c :: after =>
    if c = 'e' || c = 'E' then
      let (negative, after) := match after with
        | '-' :: after => (true, after)
        | '+' :: after => (false, after)
        | _ => (false, after)
      match after.span Char.isDigit with
      | ([], _) => none
      | (ds, rest) =>
        let n : Int := Decimal.figuresValue ds
        some (some (if negative then -n else n), rest)
    else some (none, cs)

/-- A number without its sign. A double beyond the largest one is refused. -/
def unsigned? (negative : Bool) (cs : List Char) : Option (JsonNumber × List Char) := do
  let (whole, rest) ← wholePart? cs
  let (fraction, rest) ← fraction? rest
  let (power, rest) ← exponent? rest
  let n := Decimal.figuresValue whole
  if fraction.isEmpty && power.isNone &&
      (if negative then 0 < n && n ≤ Nat.pow 2 63 else n < Nat.pow 2 64) then
    return (.whole (if negative then -(n : Int) else n), rest)
  else
    let x := (Decimal.Numeral.ofParts whole fraction (power.getD 0)).toFloat negative
    if x = Decimal.infinity negative then none
    return (.double x, rest)

/-- A number. -/
def number? : List Char → Option (JsonNumber × List Char)
  | '-' :: cs => unsigned? true cs
  | cs => unsigned? false cs

/-- A word that has to be here. -/
def word? (word cs : List Char) : Option (List Char) :=
  if word.isPrefixOf cs then some (cs.drop word.length) else none

/-- Readers of values. -/
abbrev ValueReader := List Char → Option (Json × List Char)

/-- Items separated by commas up to the closing bracket; there is at least one. -/
def items? (value : ValueReader) : Nat → List Char → Option (List Json × List Char)
  | 0, _ => none
  | bound + 1, cs => do
    let (item, rest) ← value cs
    match skipBlanks rest with
    | ',' :: rest =>
      let (more, rest) ← items? value bound rest
      return (item :: more, rest)
    | ']' :: rest => return ([item], rest)
    | _ => none

/-- A name and its value. -/
def pair? (value : ValueReader) (cs : List Char) : Option ((String × Json) × List Char) := do
  match skipBlanks cs with
  | '"' :: cs =>
    let (name, rest) ← string? cs
    match skipBlanks rest with
    | ':' :: rest =>
      let (j, rest) ← value rest
      return ((name, j), rest)
    | _ => none
  | _ => none

/-- Pairs separated by commas up to the closing brace; there is at least one. -/
def pairs? (value : ValueReader) :
    Nat → List Char → Option (List (String × Json) × List Char)
  | 0, _ => none
  | bound + 1, cs => do
    let (p, rest) ← pair? value cs
    match skipBlanks rest with
    | ',' :: rest =>
      let (more, rest) ← pairs? value bound rest
      return (p :: more, rest)
    | '\x7d' :: rest => return ([p], rest)
    | _ => none

/-- A value that holds no other values. -/
def scalar? (cs : List Char) : Option (Json × List Char) :=
  match cs with
  | '"' :: cs => (string? cs).map fun (s, rest) => (.string s, rest)
  | 'n' :: _ => (word? "null".toList cs).map fun rest => (.null, rest)
  | 't' :: _ => (word? "true".toList cs).map fun rest => (.boolean true, rest)
  | 'f' :: _ => (word? "false".toList cs).map fun rest => (.boolean false, rest)
  | _ => (number? cs).map fun (n, rest) => (.number n, rest)

/-- A value with arrays and objects at most the given number of levels deep. -/
def value? : Nat → ValueReader
  | 0, cs =>
    match skipBlanks cs with
    | '[' :: _ => none
    | '\x7b' :: _ => none
    | cs => scalar? cs
  | levels + 1, cs =>
    match skipBlanks cs with
    | '[' :: cs =>
      match skipBlanks cs with
      | ']' :: rest => some (.array [], rest)
      | cs => (items? (value? levels) cs.length cs).map fun (items, rest) => (.array items, rest)
    | '\x7b' :: cs =>
      match skipBlanks cs with
      | '\x7d' :: rest => some (.object [], rest)
      | cs => (pairs? (value? levels) cs.length cs).map fun (pairs, rest) =>
          (.object (Fields.ofPairs pairs), rest)
    | cs => scalar? cs

end Reader

/-- How deep arrays and objects may stand inside each other. -/
def levelLimit : Nat := 127

/-- Reads a text that is one JSON value. -/
def ofText? (cs : List Char) : Option Json := do
  let (j, rest) ← Reader.value? levelLimit cs
  if (Reader.skipBlanks rest).isEmpty then return j else none

end Microtemplate.Json
