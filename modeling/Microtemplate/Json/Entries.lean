import Microtemplate.Decimal.Notation
import Microtemplate.Json.Basic

/-!
Objects made of entries whose names are JSON values themselves. Strings, numbers and truth values
are names; the first entry of a name gives its position and the last one its value.
-/

namespace Microtemplate.Json

/-- A number as a name; doubles keep their fraction. -/
def numberName : JsonNumber → String
  | .whole i => toString i
  | .double x => Decimal.signedText .compact "0.0" x

/-- A value as a name. -/
def name? : Json → Option String
  | string s => some s
  | number n => some (numberName n)
  | boolean b => some (if b then "true" else "false")
  | _ => none

/-- The object with the given entries, if all their names can be names. -/
def ofEntries? (entries : List (Json × Json)) : Option Json :=
  let pairs? := entries.mapM fun (key, value) => key.name?.map fun name => (name, value)
  pairs?.map fun pairs => object (Fields.ofPairs pairs)

end Microtemplate.Json
