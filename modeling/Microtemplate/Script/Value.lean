/-!
The values of programs. Arrays, objects, functions and bound methods are addresses in a store, so
that values which share one see each other's changes; all other values are plain data.
-/

namespace Microtemplate.Script

/-- A place in a store. -/
abbrev Address := Nat

/-- The functions that every program finds in its global frame. -/
inductive Builtin where
  /-- Appends to the text that the program produces. -/
  | print
  /-- The escaped text of a value. -/
  | escape
  /-- Calls a function for each element or field. -/
  | each
  | string
  | number
  /-- The JSON text of a value. -/
  | stringify
deriving DecidableEq, Repr

/-- The name of a builtin function. -/
def Builtin.name : Builtin → String
  | print => "print"
  | escape => "escape"
  | each => "each"
  | string => "String"
  | number => "Number"
  | stringify => "stringify"

/-- The methods of strings, arrays, numbers and booleans. -/
inductive Method where
  | toUpperCase
  | toLowerCase
  | trim
  | startsWith
  | endsWith
  | split
  | repeated
  | charAt
  | replace
  | indexOf
  | includes
  | slice
  | toString
  | join
  | push
  | pop
  | forEach
  | map
  | filter
  | toFixed
deriving DecidableEq, Repr

namespace Method

/-- The name of a method. -/
def name : Method → String
  | toUpperCase => "toUpperCase"
  | toLowerCase => "toLowerCase"
  | trim => "trim"
  | startsWith => "startsWith"
  | endsWith => "endsWith"
  | split => "split"
  | repeated => "repeat"
  | charAt => "charAt"
  | replace => "replace"
  | indexOf => "indexOf"
  | includes => "includes"
  | slice => "slice"
  | toString => "toString"
  | join => "join"
  | push => "push"
  | pop => "pop"
  | forEach => "forEach"
  | map => "map"
  | filter => "filter"
  | toFixed => "toFixed"

end Method

/-- The values of programs. -/
inductive Value where
  | undefined
  | null
  | boolean (b : Bool)
  | number (x : Float)
  | string (s : String)
  | array (place : Address)
  | object (place : Address)
  | function (place : Address)
  | builtin (b : Builtin)
  /-- A method together with the value it was read from. -/
  | method (place : Address)
deriving DecidableEq

namespace Value

instance : Inhabited Value := ⟨undefined⟩

/-- The values that stand for nothing. -/
def isNullish : Value → Bool
  | undefined | null => true
  | _ => false

/-- The values that can be called. -/
def isCallable : Value → Bool
  | function _ | builtin _ | method _ => true
  | _ => false

/-- Whether a value counts as true. -/
def truthy : Value → Bool
  | undefined | null => false
  | boolean b => b
  | number x => x != 0.0 && x == x
  | string s => !s.isEmpty
  | _ => true

/-- The name of the type of a value. -/
def typeName : Value → String
  | undefined => "undefined"
  | null | array _ | object _ => "object"
  | boolean _ => "boolean"
  | number _ => "number"
  | string _ => "string"
  | function _ | builtin _ | method _ => "function"

end Value

end Microtemplate.Script
