import Microtemplate.Json.Printer
import Microtemplate.Script.Conversion

/-!
The JSON text of a value. What JSON cannot say is left out of objects and null in arrays; a
container inside itself is refused.
-/

namespace Microtemplate.Script

/-- A written form of containers: what stands at the start of each line, once per level. Without it
everything is on one line. -/
structure Indentation where
  unit : String

namespace Indentation

/-- The start of a line some levels deep. -/
def line (i : Indentation) (levels : Nat) : String :=
  "\n" ++ String.join (List.replicate levels i.unit)

/-- The parts of a container between its brackets, `levels` containers deep. -/
def wrap (i : Indentation) (opening closing : String) (levels : Nat) (parts : List String) :
    String :=
  if parts.isEmpty then opening ++ closing
  else if i.unit.isEmpty then opening ++ ",".intercalate parts ++ closing
  else
    opening ++ i.line (levels + 1) ++ ("," ++ i.line (levels + 1)).intercalate parts
      ++ i.line levels ++ closing

/-- What stands between a name and its value. -/
def colon (i : Indentation) : String := if i.unit.isEmpty then ":" else ": "

end Indentation

/-- A text as a JSON string. -/
def quoted (t : String) : String := String.ofList (Json.quote t.toList)

namespace Store

/-- The JSON text of a value inside the containers that are being written. The first argument is
how many more containers there are at most. -/
def jsonWithin (s : Store) (i : Indentation) :
    Nat → List Value → Value → Except RenderError (Option String)
  | _, _, .null => .ok (some "null")
  | _, _, .boolean b => .ok (some (if b then "true" else "false"))
  | _, _, .number x =>
    .ok (some (match Decimal.Binary.ofFloat x with
      | .finite .. => Decimal.numberText x
      | _ => "null"))
  | _, _, .string t => .ok (some (quoted t))
  | 0, _, .array _ => .error .circular
  | 0, _, .object _ => .error .circular
  | more + 1, writing, .array a => do
    if .array a ∈ writing then throw .circular
    let parts ← (s.elements a).toList.mapM fun v => do
      return (← jsonWithin s i more (.array a :: writing) v).getD "null"
    return some (i.wrap "[" "]" writing.length parts)
  | more + 1, writing, .object a => do
    if .object a ∈ writing then throw .circular
    let parts ← (s.fields a).mapM fun (name, v) => do
      return (← jsonWithin s i more (.object a :: writing) v).map fun text =>
        quoted name ++ i.colon ++ text
    return some (i.wrap "\x7b" "\x7d" writing.length (parts.filterMap id))
  | _, _, _ => .ok none

/-- The JSON text of a value; none if JSON cannot say it. No value is inside more containers than
there are. -/
def json (s : Store) (i : Indentation) (v : Value) : Except RenderError (Option String) :=
  s.jsonWithin i (s.containerCount + 1) [] v

end Store

end Microtemplate.Script
