/-!
The kinds of regions in a template.
-/

namespace Microtemplate

/-- The kinds of regions: values that are escaped, values as they are, and statements. -/
inductive Region where
  | escape
  | interpolate
  | evaluate
deriving DecidableEq, Repr

namespace Region

/-- All regions, in the order in which their patterns are tried. -/
def all : List Region := [escape, interpolate, evaluate]

/-- The name of a region. -/
def name : Region → String
  | escape => "escape"
  | interpolate => "interpolate"
  | evaluate => "evaluate"

/-- The region with a name. -/
def ofName? (name : String) : Option Region := all.find? (·.name == name)

theorem mem_all (r : Region) : r ∈ all := by cases r <;> decide

end Region

end Microtemplate
