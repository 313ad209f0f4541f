import Microtemplate.Unicode.CharRange

/-!
Runs of a case mapping, and the text form in which the case tables are written:
`first-last/step>target`, where a missing last code point is the first and a missing step is one.
-/

namespace Microtemplate.Unicode

/-- The code points `first`, `first + step`, … up to `last`; the first is sent to `target` and the
others to equal distances from it. -/
structure CaseRun where
  first : Nat
  last : Nat
  step : Nat
  target : Nat
deriving DecidableEq, Repr

/-- The value of a text of hexadecimal digits; other characters count as no digit. -/
def hexValue (digits : List Char) : Nat :=
  digits.foldl (fun n c => match hexDigit? c with
    | some d => n * 16 + d
    | none => n) 0

/-- Cuts a text at every occurrence of a character. -/
def cutAt (mark : Char) : List Char → List (List Char)
  | [] => [[]]
  | c :: cs =>
    match cutAt mark cs with
    | [] => [[c]]
    | word :: words => if c = mark then [] :: word :: words else (c :: word) :: words

/-- The words of a table, which blanks and line ends separate. -/
def wordsOfTable (table : String) : List (List Char) :=
  (cutAt ' ' (table.toList.map fun c => if c = '\n' then ' ' else c)).filter (!·.isEmpty)

namespace CaseRun

private def ofWord (word : List Char) : CaseRun :=
  match cutAt '>' word with
  | source :: target :: _ =>
    match cutAt '/' source with
    | span :: more =>
      let step := match more with
        | s :: _ => hexValue s
        | [] => 1
      match cutAt '-' span with
      | a :: b :: _ => ⟨hexValue a, hexValue b, step, hexValue target⟩
      | a :: [] => ⟨hexValue a, hexValue a, step, hexValue target⟩
      | [] => ⟨0, 0, step, hexValue target⟩
    | [] => ⟨0, 0, 1, hexValue target⟩
  | _ => ⟨0, 0, 1, 0⟩

/-- The runs written in a table. -/
def listOfText (table : String) : List CaseRun :=
  (wordsOfTable table).map ofWord

/-- Where the run sends a code point, if it holds it. -/
def send? (r : CaseRun) (n : Nat) : Option Nat :=
  if r.first ≤ n ∧ n ≤ r.last ∧ (n - r.first) % r.step = 0 then some (n - r.first + r.target)
  else none

/-- The code points of the run, each with where it is sent. -/
def pairs (r : CaseRun) : List (Nat × Nat) :=
  (List.range ((r.last - r.first) / r.step + 1)).map fun i =>
    (r.first + i * r.step, r.target + i * r.step)

example : listOfText "61-7A>41 101-12F/2>100" = [⟨0x61, 0x7A, 1, 0x41⟩, ⟨0x101, 0x12F, 2, 0x100⟩] := by
  decide +kernel

end CaseRun

/-- The expansions written in a table of words `source>target,target,…`. -/
def expansionsOfText (table : String) : List (Nat × List Nat) :=
  (wordsOfTable table).map fun word =>
    match cutAt '>' word with
    | source :: targets :: _ => (hexValue source, (cutAt ',' targets).map hexValue)
    | _ => (0, [])

end Microtemplate.Unicode
