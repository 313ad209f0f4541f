import Microtemplate.Decimal.Notation
import Microtemplate.Script.Store
import Microtemplate.Unicode.CaseRun
import Microtemplate.Unicode.Letter

/-!
Values as texts, numbers and primitive values. An array is written as its elements with commas
between them. An array inside itself is written as nothing, and so is one below a thousand others.
-/

namespace Microtemplate.Script

/-- The number that a text spells; the empty text is zero, and what spells no number is not a
number. -/
def numberOfText (text : String) : Float :=
  let cs := Unicode.trim text.toList
  let isHex := match cs with
    | '0' :: c :: _ => c = 'x' || c = 'X'
    | _ => false
  if cs.isEmpty then 0.0
  else if cs = "Infinity".toList || cs = "+Infinity".toList then Decimal.infinity false
  else if cs = "-Infinity".toList then Decimal.infinity true
  else if isHex then
    let ds := match cs.drop 2 with
      | '+' :: ds => ds
      | ds => ds
    let value := Unicode.hexValue ds
    if ds.isEmpty || !ds.all (fun c => (Unicode.hexDigit? c).isSome) || Nat.pow 2 64 ≤ value then
      Decimal.nan
    else Decimal.ofNat value
  else match Decimal.Numeral.ofText? cs with
    | some (negative, n) => n.toFloat negative
    | none => Decimal.nan

/-- How deep arrays are written inside each other. -/
def textDepth : Nat := 1000

namespace Store

/-- The text of a function. -/
def functionText (name code : String) : String :=
  "function " ++ name ++ "() \x7b [" ++ code ++ "] \x7d"

/-- The text of a value that is no array. -/
def plainText (s : Store) : Value → String
  | .undefined => "undefined"
  | .null => "null"
  | .boolean b => if b then "true" else "false"
  | .number x => Decimal.numberText x
  | .string t => t
  | .array _ => ""
  | .object _ => "[object Object]"
  | .function a => functionText ((s.functions[a]?.bind (·.code.name)).getD "") "code"
  | .builtin b => functionText b.name "native code"
  | .method a => functionText ((s.methods[a]?.map (·.method.name)).getD "") "native code"

/-- Texts of values with a separator between them; what stands for nothing has the empty text. -/
def joinWith (text : Value → String) (separator : String) (items : List Value) : String :=
  separator.intercalate (items.map fun v => if v.isNullish then "" else text v)

/-- The text of a value. The first argument is how many levels of arrays are still written, the
second the arrays that are being written. -/
def textWithin (s : Store) : Nat → List Address → Value → String
  | 0, _, .array _ => ""
  | levels + 1, writing, .array a =>
    if a ∈ writing then ""
    else joinWith (textWithin s levels (a :: writing)) "," (s.elements a).toList
  | _, _, v => s.plainText v

/-- The text of a value. -/
def text (s : Store) (v : Value) : String := s.textWithin textDepth [] v

/-- The elements of an array with a separator between them. -/
def joinArray (s : Store) (a : Address) (separator : String) : String :=
  joinWith (s.textWithin (textDepth - 1) [a]) separator (s.elements a).toList

/-- Values with a separator between them. -/
def joinValues (s : Store) (separator : String) (items : List Value) : String :=
  joinWith s.text separator items

/-- The number that a value stands for. -/
def number (s : Store) : Value → Float
  | .undefined => Decimal.nan
  | .null => 0.0
  | .boolean b => if b then 1.0 else 0.0
  | .number x => x
  | .string t => numberOfText t
  | .array a => numberOfText (s.text (.array a))
  | .object a => numberOfText (s.text (.object a))
  | .function _ | .builtin _ | .method _ => Decimal.nan

/-- A value as one that is no container and no function: those become their texts. -/
def primitive (s : Store) (v : Value) : Value :=
  match v with
  | .array _ | .object _ | .function _ | .builtin _ | .method _ => .string (s.text v)
  | _ => v

end Store

end Microtemplate.Script
