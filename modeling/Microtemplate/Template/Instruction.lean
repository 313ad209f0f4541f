import Microtemplate.Template.Scanner
import Microtemplate.Text.Position

/-!
What a template does, step by step: texts between the regions are appended as they are, and each
region appends a value or executes statements. A region with nothing inside does nothing.
-/

namespace Microtemplate

/-- A step of a template. -/
inductive Instruction where
  /-- Appends a text. -/
  | literal (text : List Char)
  /-- Appends the escaped value of an expression. -/
  | escaped (code : List Char)
  /-- Appends the value of an expression. -/
  | raw (code : List Char)
  /-- Executes statements. -/
  | execute (code : List Char)
deriving DecidableEq, Repr

namespace Instruction

/-- The step of a region with some code inside. -/
def ofRegion : Region → List Char → Instruction
  | .escape => escaped
  | .interpolate => raw
  | .evaluate => execute

/-- The step that appends a text; none if it is empty. -/
def ofGap (text : List Char) : List Instruction := if text.isEmpty then [] else [literal text]

/-- The step of a match; none if there is nothing inside. -/
def ofMatch : Match → List Instruction
  | .region r _ _ inner => if inner.isEmpty then [] else [ofRegion r inner]
  | .stop _ => []

/-- The steps of a text that is left at an offset, given the matches that are left. -/
def ofMatches : Nat → List Char → List Match → List Instruction
  | _, _, [] => []
  | offset, rest, m :: more =>
    let gap := Text.beforeOffset (m.start - offset) rest
    ofGap gap ++ ofMatch m
      ++ ofMatches (m.start + Text.byteLength m.text) (rest.drop (gap.length + m.text.length)) more

end Instruction

/-- The steps of a template, given its matches. -/
def instructions (text : List Char) (found : List Match) : List Instruction :=
  Instruction.ofMatches 0 text found

end Microtemplate
