import Microtemplate.Decimal.Notation
import Microtemplate.Json.Reader
import Microtemplate.Settings.Basic
import Microtemplate.Text.Debug

/-!
Reading changes of settings from JSON text: an object whose fields are the names of the regions and
`variable`, or an array of those values in this order. A missing value keeps a setting, null turns
it off. The text is read from left to right, and the first fault is the one reported.
-/

namespace Microtemplate

/-- What is wrong with a settings text. -/
inductive SettingsFault where
  /-- The text is no JSON, or is not at its end after the value. -/
  | malformed
  | wrongType (found expected : String)
  | unknownField (name : String)
  | duplicateField (name : String)
  | badPattern (e : PatternError)
deriving DecidableEq

/-- The wording of a fault; malformed text has none. -/
def SettingsFault.message : SettingsFault → String
  | malformed => ""
  | wrongType found expected => "invalid type: " ++ found ++ ", expected " ++ expected
  | unknownField name =>
    "unknown field `" ++ name
      ++ "`, expected one of `escape`, `interpolate`, `evaluate`, `variable`"
  | duplicateField name => "duplicate field `" ++ name ++ "`"
  | badPattern e => e.display

namespace Settings.Reader

/-- Readers of a text. -/
abbrev Read (α : Type) := List Char → Except SettingsFault (α × List Char)

/-- What a JSON reader gives. -/
def ofJson {α : Type} (result : Option (α × List Char)) : Except SettingsFault (α × List Char) :=
  match result with
  | some r => .ok r
  | none => .error .malformed

/-- How a value that is not of the expected type is called. Of arrays and objects only the opening
bracket is looked at. -/
def foundType (cs : List Char) : Except SettingsFault String :=
  match cs with
  | '[' :: _ => .ok "sequence"
  | '\x7b' :: _ => .ok "map"
  | _ =>
    match Json.Reader.scalar? cs with
    | some (.null, _) => .ok "null"
    | some (.boolean b, _) => .ok (if b then "boolean `true`" else "boolean `false`")
    | some (.number (.whole i), _) => .ok ("integer `" ++ toString i ++ "`")
    | some (.number (.double x), _) =>
      .ok ("floating point `" ++ Decimal.signedText .positional "0.0" x ++ "`")
    | some (.string t, _) => .ok ("string " ++ Text.shown t)
    | _ => .error .malformed

/-- A change of one setting, whose value is made from a text. -/
def change {α : Type} (make : String → Except SettingsFault α) : Read (Override α) := fun cs => do
  match Json.Reader.skipBlanks cs with
  | 'n' :: cs =>
    match Json.Reader.word? "ull".toList cs with
    | some rest => return (.off, rest)
    | none => throw .malformed
  | '"' :: cs =>
    let (t, rest) ← ofJson (Json.Reader.string? cs)
    return (.set (← make t), rest)
  | cs => throw (.wrongType (← foundType cs) "a string")

/-- The pattern that a text is. -/
def makePattern (t : String) : Except SettingsFault Pattern :=
  match Pattern.ofText t with
  | .ok p => .ok p
  | .error e => .error (.badPattern e)

/-- What a name or a position in a settings text stands for. -/
inductive Slot where
  | region (r : Region)
  | variableName
deriving DecidableEq

/-- The slots, in the order of arrays. -/
def slots : List Slot := [.region .escape, .region .interpolate, .region .evaluate, .variableName]

/-- The slot with a name. -/
def slot? (name : String) : Option Slot :=
  if name = "variable" then some .variableName else (Region.ofName? name).map .region

/-- Reads the value of a slot. -/
def slotValue (o : Overrides) (slot : Slot) : Read Overrides := fun cs => do
  match slot with
  | .region r =>
    let (p, rest) ← change makePattern cs
    return (o.withPattern r p, rest)
  | .variableName =>
    let (name, rest) ← change .ok cs
    return (o.withVariable name, rest)

/-- Reads the values of an array up to its closing bracket. -/
def elements : List Slot → Overrides → Read Overrides
  | [], o, cs =>
    match Json.Reader.skipBlanks cs with
    | ']' :: rest => .ok (o, rest)
    | _ => .error .malformed
  | slot :: more, o, cs => do
    let (o, rest) ← slotValue o slot cs
    match Json.Reader.skipBlanks rest with
    | ']' :: rest => return (o, rest)
    | ',' :: rest => if more.isEmpty then throw .malformed else elements more o rest
    | _ => throw .malformed

/-- Reads a field, given the names read before it. -/
def field (seen : List Slot) (o : Overrides) : Read (List Slot × Overrides) := fun cs => do
  match Json.Reader.skipBlanks cs with
  | '"' :: cs =>
    let (name, rest) ← ofJson (Json.Reader.string? cs)
    match slot? name with
    | none => throw (.unknownField name)
    | some slot =>
      if slot ∈ seen then throw (.duplicateField name)
      match Json.Reader.skipBlanks rest with
      | ':' :: rest =>
        let (o, rest) ← slotValue o slot rest
        return ((slot :: seen, o), rest)
      | _ => throw .malformed
  | _ => throw .malformed

/-- Reads the fields of an object up to its closing brace. There are at most as many as slots, so
the bound is met only at one too many. -/
def fields : Nat → List Slot → Overrides → Read Overrides
  | 0, _, _, _ => .error .malformed
  | bound + 1, seen, o, cs => do
    let ((seen, o), rest) ← field seen o cs
    match Json.Reader.skipBlanks rest with
    | '\x7d' :: rest => return (o, rest)
    | ',' :: rest => fields bound seen o rest
    | _ => throw .malformed

/-- Reads the whole value. -/
def value : Read Overrides := fun cs =>
  match Json.Reader.skipBlanks cs with
  | '[' :: cs =>
    match Json.Reader.skipBlanks cs with
    | ']' :: rest => .ok (.keepAll, rest)
    | cs => elements slots .keepAll cs
  | '\x7b' :: cs =>
    match Json.Reader.skipBlanks cs with
    | '\x7d' :: rest => .ok (.keepAll, rest)
    | cs => fields (slots.length + 1) [] .keepAll cs
  | cs => do throw (.wrongType (← foundType cs) "struct SettingsOverrides")

end Settings.Reader

/-- Reads changes of settings from JSON text. -/
def Overrides.ofJson (text : String) : Except SettingsFault Overrides := do
  let (o, rest) ← Settings.Reader.value text.toList
  if (Json.Reader.skipBlanks rest).isEmpty then return o else throw .malformed

end Microtemplate
