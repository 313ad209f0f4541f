import Microtemplate.Decimal.Numeral
import Microtemplate.Script.Fault
import Microtemplate.Unicode.CaseRun
import Microtemplate.Unicode.Letter

/-!
Cutting a program text into tokens. Between tokens there are gaps of blanks and comments; every
reader takes the text that is left and gives back what is left after it.
-/

namespace Microtemplate.Script

/-- The characters that end a line. -/
def isLineEnd (c : Char) : Bool := c = '\n' || c = '\r' || c = '\u2028' || c = '\u2029'

/-- The characters that may start an identifier. -/
def isIdentifierStart (c : Char) : Bool := c = '$' || c = '_' || Unicode.isAlphabetic c

/-- The characters that may follow in an identifier. -/
def isIdentifierPart (c : Char) : Bool := isIdentifierStart c || Unicode.isAlphanumeric c

/-- Hexadecimal digits. -/
def isHexDigit (c : Char) : Bool := (Unicode.hexDigit? c).isSome

namespace Lexer

open Decimal (signOf fractionOf)

/-- Where a gap is: among blanks, in a comment that ends with its line, or in a comment in
brackets, with the text from its opening on. -/
inductive Gap where
  | blank
  | line
  | block (opened : List Char)

/-- Goes over blanks and comments. The flag says whether a line has ended on the way. -/
def skipGap : Gap → Bool → List Char → Except Fault (Bool × List Char)
  | .blank, newline, [] => .ok (newline, [])
  | .blank, newline, '/' :: '/' :: cs => skipGap .line newline cs
  | .blank, newline, '/' :: '*' :: cs => skipGap (.block ('/' :: '*' :: cs)) newline cs
  | .blank, newline, c :: cs =>
    if isLineEnd c then skipGap .blank true cs
    else if Unicode.isBlank c || c = '\ufeff' then skipGap .blank newline cs
    else .ok (newline, c :: cs)
  | .line, newline, [] => .ok (newline, [])
  | .line, newline, c :: cs =>
    if isLineEnd c then skipGap .blank true cs else skipGap .line newline cs
  | .block opened, _, [] => .error ⟨.unterminatedComment, opened⟩
  | .block _, newline, '*' :: '/' :: cs => skipGap .blank newline cs
  | .block opened, newline, c :: cs => skipGap (.block opened) (newline || isLineEnd c) cs

/-- No identifier and no figure may follow a number directly. -/
def endNumber (start : List Char) (value : Float) (rest : List Char) :
    Except Fault (Float × List Char) :=
  match rest with
  | c :: _ =>
    if isIdentifierStart c || c.isDigit then .error ⟨.identifierAfterNumber, start⟩
    else .ok (value, rest)
  | [] => .ok (value, rest)

/-- The digits of a hexadecimal number: at least one, with a value below `2 ^ 64`. -/
def hexadecimal (start cs : List Char) : Except Fault (Float × List Char) :=
  let (ds, rest) := cs.span isHexDigit
  let value := Unicode.hexValue ds
  if ds.isEmpty || Nat.pow 2 64 ≤ value then .error ⟨.invalidHexadecimal, start⟩
  else endNumber start (Decimal.ofNat value) rest

/-- The exponent of a number, if there is one. -/
def exponent (cs : List Char) : Except Fault (Int × List Char) :=
  match cs with
  | [] => .ok (0, [])
  | c :: after =>
    if c = 'e' || c = 'E' then
      let (negative, after) := signOf after
      let (ds, rest) := after.span Char.isDigit
      if ds.isEmpty then .error ⟨.missingExponent, cs⟩
      else .ok (if negative then -(Decimal.figuresValue ds : Int) else Decimal.figuresValue ds, rest)
    else .ok (0, cs)

/-- A decimal number. -/
def decimal (start : List Char) : Except Fault (Float × List Char) := do
  let (whole, rest) := start.span Char.isDigit
  let (fraction, rest) := fractionOf rest
  let (power, rest) ← exponent rest
  endNumber start ((Decimal.Numeral.ofParts whole fraction power).toFloat false) rest

/-- A number, at its first character. -/
def number (start : List Char) : Except Fault (Float × List Char) :=
  match start with
  | '0' :: 'x' :: cs => hexadecimal start cs
  | '0' :: 'X' :: cs => hexadecimal start cs
  | _ => decimal start

/-- A given count of hexadecimal digits, in the escape sequence that starts at `start`. -/
def hexDigits (count : Nat) (start cs : List Char) : Except Fault (Nat × List Char) :=
  let ds := cs.take count
  if ds.length = count ∧ ds.all isHexDigit then .ok (Unicode.hexValue ds, cs.drop count)
  else .error ⟨.invalidEscape, start⟩

/-- The number after `\u`: four digits, or any count of digits in braces. -/
def unicodeEscape (start : List Char) : List Char → Except Fault (Nat × List Char)
  | '\x7b' :: cs =>
    let (ds, rest) := cs.span isHexDigit
    match rest with
    | '\x7d' :: rest =>
      if ds.isEmpty then .error ⟨.invalidUnicodeEscape, start⟩
      else if Unicode.hexValue ds ≤ 0x10FFFF then .ok (Unicode.hexValue ds, rest)
      else .error ⟨.unicodeEscapeOutOfRange, start⟩
    | _ => .error ⟨.invalidUnicodeEscape, start⟩
  | cs => hexDigits 4 start cs

/-- The character with a code point; surrogates have none and become U+FFFD. -/
def charOfCode (code : Nat) : Char :=
  if h : code.isValidChar then Char.ofNatAux code h else '\ufffd'

/-- Joins a high surrogate with a low one that follows as an escape sequence of its own. Where none
follows, the code stands alone. -/
def pairSurrogates (start : List Char) (code : Nat) (cs : List Char) :
    Except Fault (Char × List Char) := do
  if 0xD800 ≤ code ∧ code < 0xDC00 then
    match cs with
    | '\\' :: 'u' :: after =>
      let (low, rest) ← unicodeEscape start after
      if 0xDC00 ≤ low ∧ low < 0xE000 then
        return (charOfCode (0x10000 + (code - 0xD800) * 1024 + (low - 0xDC00)), rest)
      else return (charOfCode code, cs)
    | _ => return (charOfCode code, cs)
  else return (charOfCode code, cs)

/-- An escape sequence after its backslash, which stands at `start`; a line that is continued gives
no character. -/
def escape (start : List Char) : List Char → Except Fault (List Char × List Char)
  | [] => .error ⟨.unterminatedString, start⟩
  | 'n' :: cs => .ok (['\n'], cs)
  | 'r' :: cs => .ok (['\r'], cs)
  | 't' :: cs => .ok (['\t'], cs)
  | 'b' :: cs => .ok (['\x08'], cs)
  | 'f' :: cs => .ok (['\x0c'], cs)
  | 'v' :: cs => .ok (['\x0b'], cs)
  | 'x' :: cs => do
    let (code, rest) ← hexDigits 2 start cs
    return ([charOfCode code], rest)
  | 'u' :: cs => do
    let (code, rest) ← unicodeEscape start cs
    let (c, rest) ← pairSurrogates start code rest
    return ([c], rest)
  | '\r' :: '\n' :: cs => .ok ([], cs)
  | '0' :: c :: cs =>
    if c.isDigit then .error ⟨.octalEscape, start⟩ else .ok (['\x00'], c :: cs)
  | ['0'] => .ok (['\x00'], [])
  | c :: cs =>
    if isLineEnd c then .ok ([], cs)
    else if c.isDigit then .error ⟨.octalEscape, start⟩
    else .ok ([c], cs)

/-- The rest of a string after its opening quote, which stands at `start`. Each round goes over at
least one character, so a bound of as many rounds as there are characters is never met before the
end of the text. -/
def stringBody (quote : Char) (start : List Char) :
    Nat → List Char → Except Fault (List Char × List Char)
  | 0, _ => .error ⟨.unterminatedString, start⟩
  | _ + 1, [] => .error ⟨.unterminatedString, start⟩
  | bound + 1, c :: cs =>
    if c = quote then .ok ([], cs)
    else if c = '\n' || c = '\r' then .error ⟨.unterminatedString, start⟩
    else if c = '\\' then do
      let (chars, rest) ← escape (c :: cs) cs
      let (more, rest) ← stringBody quote start bound rest
      return (chars ++ more, rest)
    else do
      let (more, rest) ← stringBody quote start bound cs
      return (c :: more, rest)

/-- Whether a number starts here: a figure, or a point with a figure after it. -/
def startsNumber : List Char → Bool
  | '.' :: c :: _ => c.isDigit
  | c :: _ => c.isDigit
  | [] => false

/-- The token that an identifier or keyword is. -/
def word (name : String) : Token :=
  match Keyword.ofText? name with
  | some k => .keyword k
  | none => .identifier name

/-- The token at the start of a text that is not empty and starts with no gap, and what is left
after it. -/
def token (start : List Char) : Except Fault (Token × List Char) :=
  match start with
  | [] => .ok (.endOfInput, [])
  | c :: cs =>
    if isIdentifierStart c then
      let (name, rest) := start.span isIdentifierPart
      .ok (word (String.ofList name), rest)
    else if startsNumber start then do
      let (value, rest) ← number start
      return (.number value, rest)
    else if c = '\'' || c = '"' then do
      let (chars, rest) ← stringBody c start start.length cs
      return (.string (String.ofList chars), rest)
    else match Punctuator.starting? start with
      | some p => .ok (.punctuator p, start.drop p.chars.length)
      | none => .error ⟨.unexpectedCharacter c, start⟩

/-- The tokens of a text, the end of input last. Each round goes over at least one character. -/
def tokensWithin : Nat → List Char → Except Fault (List Located)
  | 0, _ => .ok [⟨.endOfInput, true, []⟩]
  | bound + 1, cs => do
    let (newline, start) ← skipGap .blank false cs
    if start.isEmpty then return [⟨.endOfInput, true, []⟩]
    let (t, rest) ← token start
    let more ← tokensWithin bound rest
    return ⟨t, newline, start⟩ :: more

/-- Cuts a program text into its tokens. -/
def tokens (cs : List Char) : Except Fault (List Located) := tokensWithin (cs.length + 1) cs

end Lexer

end Microtemplate.Script
