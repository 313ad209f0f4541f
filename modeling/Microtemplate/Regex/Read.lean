import Microtemplate.Decimal.Numeral
import Microtemplate.Regex.Basic
import Microtemplate.Regex.NamedClass

/-!
The state in which a regular expression is read, and the readers of its smallest parts. Flags hold
from where they are set to the end of the group. All refusals are alike, so a reader that refuses
gives nothing.
-/

namespace Microtemplate.Regex

/-- The flags. -/
structure Flags where
  ignoreCase : Bool
  multiLine : Bool
  dotAll : Bool
  swapGreed : Bool
  unicode : Bool
  crlf : Bool
  verbose : Bool
deriving DecidableEq, Repr

/-- The flags at the start. -/
def Flags.initial : Flags := ⟨false, false, false, false, true, false, false⟩

/-- What is left to read, the flags that hold, the number of capture groups so far and their
names. -/
structure ReadState where
  rest : List Char
  flags : Flags
  groups : Nat
  names : List String

/-- Readers. -/
abbrev Read := StateT ReadState Option

namespace Read

/-- Refuses. -/
def refuse {α : Type} : Read α := fun _ => none

/-- The text that is left. -/
def rest : Read (List Char) := return (← get).rest

/-- The flags that hold. -/
def flags : Read Flags := return (← get).flags

/-- Sets the text that is left. -/
def setRest (cs : List Char) : Read Unit := modify fun s => { s with rest := cs }

/-- Sets the flags. -/
def setFlags (f : Flags) : Read Unit := modify fun s => { s with flags := f }

/-- Goes over blanks and comments; the flag says whether a comment has begun. -/
def skipVerbose : Bool → List Char → List Char
  | _, [] => []
  | false, c :: cs =>
    if Unicode.isBlank c then skipVerbose false cs
    else if c = '#' then skipVerbose true cs
    else c :: cs
  | true, c :: cs => if c = '\n' then skipVerbose false cs else skipVerbose true cs

/-- Goes over what the verbose flag allows between parts. -/
def space : Read Unit := do
  if (← flags).verbose then setRest (skipVerbose false (← rest))

/-- Goes over some characters. -/
def drop (n : Nat) : Read Unit := do setRest ((← rest).drop n)

/-- Goes over one character and the space after it. -/
def step : Read Unit := do
  drop 1
  space

/-- The next character, which has to be there. -/
def peek : Read Char := do
  match ← rest with
  | c :: _ => return c
  | [] => refuse

/-- Goes over a text if it comes next, and says whether it did. -/
def eat (t : String) : Read Bool := do
  if t.toList.isPrefixOf (← rest) then
    drop t.length
    return true
  else return false

/-- As many characters of a kind as there are, with the space between them. -/
def collect (keep : Char → Bool) : Nat → Read (List Char)
  | 0 => return []
  | bound + 1 => do
    match ← rest with
    | c :: _ =>
      if keep c then
        step
        let more ← collect keep bound
        return c :: more
      else return []
    | [] => return []

/-- All characters up to a closing brace, which is left; the opening one comes next. -/
def braced : Read (List Char) := do
  step
  let cs ← collect (· != '\x7d') (← rest).length
  if (← peek) = '\x7d' then return cs else refuse

/-- A number of a repetition, with blanks around it; less than `2 ^ 32`. -/
def count : Read Nat := do
  setRest ((← rest).dropWhile Unicode.isBlank)
  let ds ← collect Char.isDigit (← rest).length
  setRest ((← rest).dropWhile Unicode.isBlank)
  space
  let n := Decimal.figuresValue ds
  if ds.isEmpty || Nat.pow 2 32 ≤ n then refuse else return n

/-- The character with a code point in hexadecimal digits. -/
def charOfHex (ds : List Char) : Read Char :=
  let n := Unicode.hexValue ds
  if ds.isEmpty || !ds.all (fun c => (Unicode.hexDigit? c).isSome) then refuse
  else if n.isValidChar then return Char.ofNat n
  else refuse

/-- A given count of hexadecimal digits. -/
def hexDigits : Nat → Read (List Char)
  | 0 => return []
  | n + 1 => do
    let c ← peek
    step
    let more ← hexDigits n
    return c :: more

/-- A character given by its code point, at the letter that says how many digits it has; the flag
tells whether it is a single byte. -/
def hexEscape (kind : Char) : Read (Char × Bool) := do
  step
  if (← peek) = '\x7b' then
    let ds ← braced
    step
    return (← charOfHex ds, false)
  else
    let ds ← hexDigits (if kind = 'x' then 2 else if kind = 'u' then 4 else 8)
    return (← charOfHex ds, kind = 'x')

/-- The position of a mark in a text. -/
def cutAtMark (mark : List Char) : List Char → Option (List Char × List Char)
  | [] => none
  | c :: cs =>
    if mark.isPrefixOf (c :: cs) then some ([], (c :: cs).drop mark.length)
    else (cutAtMark mark cs).map fun (a, b) => (c :: a, b)

/-- The set of a property named between braces. -/
def propertySet? (name : List Char) : Option (CharSet × Bool) :=
  match cutAtMark ['!', '='] name with
  | some (property, value) => (NamedClass.valued? property value).map (·, true)
  | none =>
    match (cutAtMark [':'] name).or (cutAtMark ['='] name) with
    | some (property, value) => (NamedClass.valued? property value).map (·, false)
    | none => (NamedClass.named? name).map (·, false)

/-- A set as the flags want it: without regard to case, and negated. -/
def adjust (f : Flags) (negated : Bool) (s : CharSet) : CharSet :=
  let s := CharSet.canonical s
  let s := if f.ignoreCase then if f.unicode then s.foldCase else s.foldAsciiCase else s
  if negated then CharSet.complement (if f.unicode then CharSet.lastCode else 0xFF) s else s

/-- A property after its letter, which comes next. -/
def property (negated : Bool) : Read CharSet := do
  let f ← flags
  step
  let name ←
    if (← peek) = '\x7b' then do
      let name ← braced
      drop 1
      pure name
    else do
      let c ← peek
      if c = '\\' then refuse
      step
      pure [c]
  match propertySet? name with
  | some (s, unequal) => if f.unicode then return adjust f (negated != unequal) s else refuse
  | none => refuse

/-- What an escape sequence stands for. -/
inductive Escaped where
  | char (c : Char)
  | set (s : CharSet)
  | look (l : Look)

/-- The word characters under the flags. -/
def wordSet (f : Flags) : CharSet := if f.unicode then NamedClass.word else NamedClass.asciiWord

/-- The class that a letter stands for: digits, blanks or word characters. -/
def letterClass (f : Flags) (c : Char) : CharSet :=
  let s :=
    if c.toLower = 'd' then if f.unicode then NamedClass.digits else NamedClass.asciiDigits
    else if c.toLower = 's' then if f.unicode then NamedClass.blanks else NamedClass.asciiBlanks
    else wordSet f
  if c.isUpper then CharSet.complement (if f.unicode then CharSet.lastCode else 0xFF)
    (CharSet.canonical s)
  else s

/-- The condition on words after its letter, which may have a name in braces. -/
def wordBoundary : Read WordCondition := do
  let before ← get
  let isName := fun c : Char => c.isAlpha || c = '-'
  match ← rest with
  | '\x7b' :: _ =>
    step
    if isName (← peek) then
      let name ← collect isName (← rest).length
      if (← peek) = '\x7d' then drop 1 else refuse
      match String.ofList name with
      | "start" => return .start
      | "end" => return .stop
      | "start-half" => return .startHalf
      | "end-half" => return .stopHalf
      | _ => refuse
    else
      set before
      return .boundary
  | _ => return .boundary

/-- The characters that have a meaning of their own. -/
def isMeta (c : Char) : Bool := "\\.+*?()|[]\x7b\x7d^$#&-~".toList.contains c

/-- Whether a backslash before a character makes it stand for itself. -/
def isEscapable (c : Char) : Bool :=
  isMeta c || (c.toNat < 128 && !c.isAlphanum && c != '<' && c != '>')

/-- The control characters that letters stand for. -/
def controlChar? (c : Char) : Option Char :=
  match c with
  | 'a' => some '\x07'
  | 'f' => some '\x0c'
  | 't' => some '\t'
  | 'n' => some '\n'
  | 'r' => some '\r'
  | 'v' => some '\x0b'
  | _ => none

/-- An escape sequence, at its backslash. -/
def escape : Read Escaped := do
  let f ← flags
  drop 1
  let c ← peek
  if c = 'x' || c = 'u' || c = 'U' then
    let (c, isByte) ← hexEscape c
    if isByte && !f.unicode && 0x7F < c.toNat then refuse
    return .char c
  else if c = 'p' || c = 'P' then return .set (← property (c = 'P'))
  else
    drop 1
    if "dswDSW".toList.contains c then return .set (letterClass f c)
    else if isEscapable c then return .char c
    else match controlChar? c with
      | some control => return .char control
      | none =>
        match c with
        | 'A' => return .look .textStart
        | 'z' => return .look .textEnd
        | 'b' => return .look (.word (wordSet f) (← wordBoundary))
        | 'B' => return .look (.word (wordSet f) .notBoundary)
        | '<' => return .look (.word (wordSet f) .start)
        | '>' => return .look (.word (wordSet f) .stop)
        | _ => refuse

end Read

end Microtemplate.Regex
