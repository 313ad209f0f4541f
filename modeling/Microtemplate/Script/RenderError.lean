/-!
What can go wrong while a program runs. The constructors are causes; `message` words them.
-/

namespace Microtemplate.Script

/-- The kinds of errors of a run. -/
inductive ErrorKind where
  | reference
  | type
  | range
  | data
deriving DecidableEq, Repr

/-- The errors of a run. -/
inductive RenderError where
  | notDefined (name : String)
  /-- A property of a value that has none is read. -/
  | cannotRead (value key : String)
  /-- A property of a value that has none is written. -/
  | cannotWrite (value key : String)
  | constantAssigned
  | notFunction (described : String)
  | notIterable (described : String)
  | notAssignable (described : String)
  | notObject
  | circular
  | callDepth
  | arrayLength
  | repeatCount (count : String)
  | stringLength
  | fixedPlaces
  | radix
  | dataKey
deriving DecidableEq, Repr

namespace RenderError

/-- The kind of an error. -/
def kind : RenderError → ErrorKind
  | notDefined _ => .reference
  | callDepth | arrayLength | repeatCount _ | stringLength | fixedPlaces | radix => .range
  | dataKey => .data
  | _ => .type

/-- The wording of an error, without its kind. -/
def message : RenderError → String
  | notDefined name => name ++ " is not defined"
  | cannotRead value key => "Cannot read properties of " ++ value ++ " (reading '" ++ key ++ "')"
  | cannotWrite value key => "Cannot set properties of " ++ value ++ " (setting '" ++ key ++ "')"
  | constantAssigned => "Assignment to constant variable."
  | notFunction described => described ++ " is not a function"
  | notIterable described => described ++ " is not iterable"
  | notAssignable described => described ++ " is not assignable"
  | notObject => "Cannot convert undefined or null to object"
  | circular => "Converting circular structure to JSON"
  | callDepth => "Maximum call stack size exceeded"
  | arrayLength => "Invalid array length"
  | repeatCount count => "Invalid count value: " ++ count
  | stringLength => "Invalid string length"
  | fixedPlaces => "toFixed() digits argument must be between 0 and 100"
  | radix => "toString() radix must be between 2 and 36"
  | dataKey => "key must be a string"

/-- What stands before the wording. -/
def title (e : RenderError) : String :=
  match e.kind with
  | .reference => "ReferenceError"
  | .type => "TypeError"
  | .range => "RangeError"
  | .data => "Invalid data context"

/-- The error in one line. -/
def display (e : RenderError) : String := e.title ++ ": " ++ e.message

end RenderError

end Microtemplate.Script
