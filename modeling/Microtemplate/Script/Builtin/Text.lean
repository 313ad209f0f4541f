import Microtemplate.Script.Argument
import Microtemplate.Script.Property
import Microtemplate.Text.Search
import Microtemplate.Unicode.Case

/-!
The methods of strings. Positions and lengths count characters.
-/

namespace Microtemplate.Script

/-- What calls a value with arguments. -/
abbrev Caller := Value → List Value → Run Value

namespace TextMethod

/-- No string becomes longer than this by repetition, in bytes. -/
def byteLimit : Nat := Nat.pow 2 29 - 24

/-- Puts the matched text in place of each `$&`, then a dollar sign in place of each `$$`. -/
def expand (matched replacement : List Char) : List Char :=
  Text.replaceAll ['$', '$'] ['$'] (Text.replaceAll ['$', '&'] matched replacement)

/-- A truth value about the position that an argument gives. -/
def position (s : Store) (args : List Value) (length default : Nat) : Nat :=
  s.clampedPosition length default (argument args 1)

/-- The text that the first argument asks for. -/
def wanted (s : Store) (args : List Value) : List Char := (s.text (argument args 0)).toList

/-- Where the wanted text occurs at or after the start position. -/
def search (s : Store) (cs : List Char) (args : List Value) : Option Nat :=
  Text.occurrenceFrom? (wanted s args) (position s args cs.length 0) cs

/-- The characters from one position up to another. -/
def slice (s : Store) (cs : List Char) (args : List Value) : List Char :=
  let start := s.relativePosition cs.length 0 (argument args 0)
  let stop := s.relativePosition cs.length cs.length (argument args 1)
  (cs.take stop).drop start

/-- The character at a position; the empty text beyond the ends. -/
def charAt (s : Store) (cs : List Char) (args : List Value) : List Char :=
  match s.whole (argument args 0) with
  | .int i => if i < 0 then [] else cs[i.toNat]?.toList
  | _ => []

/-- The text written several times. -/
def repeated (s : Store) (t : String) (args : List Value) : Except RenderError String :=
  match s.whole (argument args 0) with
  | .below => .error (.repeatCount (Decimal.numberText (Decimal.infinity true)))
  | .above => .error (.repeatCount (Decimal.numberText (Decimal.infinity false)))
  | .int i =>
    if i < 0 then .error (.repeatCount (Decimal.numberText (Decimal.ofInt i)))
    else if t.isEmpty then .ok ""
    else if byteLimit < i.toNat * t.utf8ByteSize then .error .stringLength
    else .ok (String.join (List.replicate i.toNat t))

/-- At most how many parts are asked for; none if all are. -/
def limit? (s : Store) (args : List Value) : Option Nat :=
  match argument args 1 with
  | .undefined => none
  | v => match s.whole v with
    | .below => some 0
    | .above => none
    | .int i => some i.toNat

/-- The parts between the occurrences of the separator. -/
def split (s : Store) (t : String) (args : List Value) : List String :=
  let parts := match argument args 0 with
    | .undefined => [t]
    | v => (Text.split (s.text v).toList t.toList).map String.ofList
  match limit? s args with
  | none => parts
  | some n => parts.take n

/-- Replaces the first occurrence of the wanted text by a text, or by what a function gives for it. -/
def replace (call : Caller) (t : String) (args : List Value) : Run Value := do
  let pattern ← Run.read (wanted · args)
  let cs := t.toList
  match Text.occurrence? pattern cs with
  | none => return .string t
  | some i =>
    let replacement ←
      if (argument args 1).isCallable then do
        let result ← call (argument args 1)
          [.string (String.ofList pattern), .number (Decimal.ofNat i), .string t]
        pure (← Run.text result).toList
      else do
        let new ← Run.text (argument args 1)
        pure (expand pattern new.toList)
    return .string (String.ofList (cs.take i ++ replacement ++ cs.drop (i + pattern.length)))

/-- Calls a method of a string. -/
def run (call : Caller) (t : String) (m : Method) (args : List Value) : Run Value := do
  let cs := t.toList
  match m with
  | .toUpperCase => return .string (Unicode.toUpper t)
  | .toLowerCase => return .string (Unicode.toLower t)
  | .trim => return .string (String.ofList (Unicode.trim cs))
  | .toString => return .string t
  | .indexOf =>
    Run.read fun s => .number (((search s cs args).map Decimal.ofNat).getD (-1.0))
  | .includes => Run.read fun s => .boolean (search s cs args).isSome
  | .startsWith =>
    Run.read fun s =>
      .boolean ((wanted s args).isPrefixOf (cs.drop (position s args cs.length 0)))
  | .endsWith =>
    Run.read fun s =>
      .boolean ((wanted s args).isSuffixOf (cs.take (position s args cs.length cs.length)))
  | .slice => Run.read fun s => .string (String.ofList (slice s cs args))
  | .charAt => Run.read fun s => .string (String.ofList (charAt s cs args))
  | .repeated =>
    match ← Run.read (repeated · t args) with
    | .ok text => return .string text
    | .error e => Run.fail e
  | .split =>
    let parts ← Run.read (split · t args)
    Run.add (·.addArray (parts.map Value.string).toArray)
  | .replace => replace call t args
  | _ => Run.fail (.notFunction m.name)

end TextMethod

end Microtemplate.Script
