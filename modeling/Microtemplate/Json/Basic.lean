import Microtemplate.Decimal.Binary
import Microtemplate.Fields

/-!
JSON values. Objects keep the order of their names. A number is whole if it is written without
point and exponent and fits into sixty-four bits; others are doubles.
-/

namespace Microtemplate

/-- A JSON number. -/
inductive JsonNumber where
  | whole (i : Int)
  | double (x : Float)
deriving DecidableEq

/-- The double nearest to a number. -/
def JsonNumber.toFloat : JsonNumber → Float
  | whole i => Decimal.ofInt i
  | double x => x

/-- A JSON value. -/
inductive Json where
  | null
  | boolean (b : Bool)
  | number (n : JsonNumber)
  | string (s : String)
  | array (items : List Json)
  | object (fields : List (String × Json))

namespace Json

instance : Inhabited Json := ⟨null⟩

/-- The value of a field of an object. -/
def field? : Json → String → Option Json
  | object fields, name => Fields.get? fields name
  | _, _ => none

/-- The text of a string. -/
def text? : Json → Option String
  | string s => some s
  | _ => none

/-- The items of an array. -/
def items? : Json → Option (List Json)
  | array items => some items
  | _ => none

end Json

end Microtemplate
