import Microtemplate.Regex.Matching
import Microtemplate.Settings.Basic
import Microtemplate.Text.Position

/-!
Finding the regions of a template. The patterns of the regions are combined into one expression, in
the order of the regions and followed by the end of the text; a region that is off has a pattern
which never matches. The scan gives every region in the order of the text and one last match at the
end of it.
-/

namespace Microtemplate

/-- A match in a template: a region with the text inside its delimiters, or the end. Offsets count
bytes. -/
inductive Match where
  | region (r : Region) (start : Nat) (text inner : List Char)
  | stop (start : Nat)
deriving DecidableEq, Repr

namespace Match

/-- Where a match starts. -/
def start : Match → Nat
  | region _ start _ _ => start
  | stop start => start

/-- The matched text, delimiters included. -/
def text : Match → List Char
  | region _ _ text _ => text
  | stop _ => []

end Match

/-- What finds the regions of templates. -/
structure Scanner where
  regex : Regex

namespace Scanner

/-- The source of a pattern that never matches and has one capture group. -/
def offSource : String := "(.)^"

/-- The source of the pattern of a region, if it can be used: it scans for every match and has one
capture group. -/
def branchSource (s : Settings) (r : Region) : Except PatternError String :=
  match s.pattern r with
  | none => .ok offSource
  | some p =>
    if !p.isGlobal then .error ⟨some r, p.text, .notGlobal⟩
    else if p.groupCount ≠ 1 then .error ⟨some r, p.text, .groupCount p.groupCount⟩
    else .ok p.source

/-- The source of several expressions of which the first that matches counts, and the end of the
text after them. -/
def combine (sources : List String) : String :=
  "|".intercalate (sources.map fun s => "(?:" ++ s ++ ")") ++ "|$"

/-- The scanner for settings. -/
def ofSettings (s : Settings) : Except PatternError Scanner := do
  let sources ← Region.all.mapM (branchSource s)
  let source := combine sources
  match Regex.ofText? source.toList with
  | none => throw ⟨none, source, .notRegular⟩
  | some regex =>
    if regex.groupCount ≠ Region.all.length then throw ⟨none, source, .combinedGroups⟩
    else return ⟨regex⟩

/-- The first region whose group took part in a match, with what the group has matched. -/
def regionOf? (f : Regex.Found) : Option (Region × List Char) :=
  Region.all.zipIdx.findSome? fun (r, i) => (f.group? (i + 1)).map (r, ·)

/-- The regions up to the first match that is none. -/
def regions : List Regex.Found → List Match
  | [] => []
  | f :: rest =>
    match regionOf? f with
    | some (r, inner) => .region r f.start.offset f.text inner :: regions rest
    | none => []

/-- All regions of a text in order, and the end. -/
def scan (s : Scanner) (text : List Char) : List Match :=
  regions (s.regex.allMatches text) ++ [.stop (Text.byteLength text)]

end Scanner

end Microtemplate
