import Microtemplate.Script.Conversion
import Microtemplate.Text.Units

/-!
Equality, order and arithmetic of values.
-/

namespace Microtemplate.Script

/-- Equality without conversion: numbers by value, texts by contents, all else by address. -/
def Value.strictEquals : Value → Value → Bool
  | .undefined, .undefined => true
  | .null, .null => true
  | .boolean a, .boolean b => a == b
  | .number a, .number b => a == b
  | .string a, .string b => a == b
  | .array a, .array b => a == b
  | .object a, .object b => a == b
  | .function a, .function b => a == b
  | .builtin a, .builtin b => a == b
  | .method a, .method b => a == b
  | _, _ => false

/-- Strict equality in which what is no number equals itself. -/
def Value.sameValue : Value → Value → Bool
  | .number a, .number b => a == b || (a != a && b != b)
  | a, b => a.strictEquals b

/-- Booleans as numbers. -/
def Value.withoutBoolean : Value → Value
  | .boolean b => .number (if b then 1.0 else 0.0)
  | v => v

/-- Equality of numbers and texts with each other, a text counting as the number it spells. -/
def Value.scalarEquals : Value → Value → Bool
  | .number x, .string t => x == numberOfText t
  | .string t, .number x => numberOfText t == x
  | a, b => a.strictEquals b

namespace Store

/-- Equality with conversion. What stands for nothing equals itself only; booleans count as
numbers; a container against a number or a text counts as its text. -/
def looseEquals (s : Store) (a b : Value) : Bool :=
  if a.isNullish || b.isNullish then a.isNullish && b.isNullish
  else
    match a.withoutBoolean, b.withoutBoolean with
    | .number x, .array p => Value.scalarEquals (.number x) (.string (s.text (.array p)))
    | .number x, .object p => Value.scalarEquals (.number x) (.string (s.text (.object p)))
    | .string t, .array p => Value.scalarEquals (.string t) (.string (s.text (.array p)))
    | .string t, .object p => Value.scalarEquals (.string t) (.string (s.text (.object p)))
    | .array p, .number x => Value.scalarEquals (.string (s.text (.array p))) (.number x)
    | .object p, .number x => Value.scalarEquals (.string (s.text (.object p))) (.number x)
    | .array p, .string t => Value.scalarEquals (.string (s.text (.array p))) (.string t)
    | .object p, .string t => Value.scalarEquals (.string (s.text (.object p))) (.string t)
    | a, b => Value.scalarEquals a b

/-- The order of two values: two texts by their code units, all else as numbers. None if one of
those is not a number. -/
def order? (s : Store) (a b : Value) : Option Ordering :=
  match s.primitive a, s.primitive b with
  | .string x, .string y => some (Text.compareUnits (Text.units x.toList) (Text.units y.toList))
  | a, b =>
    let x := s.number a
    let y := s.number b
    if x < y then some .lt
    else if x == y then some .eq
    else if y < x then some .gt
    else none

/-- The sum of two values: texts are joined if one of the two is a text. -/
def sum (s : Store) (a b : Value) : Value :=
  match s.primitive a, s.primitive b with
  | .string x, .string y => .string (x ++ y)
  | .string x, b => .string (x ++ s.text b)
  | a, .string y => .string (s.text a ++ y)
  | a, b => .number (s.number a + s.number b)

/-- The result of a binary operator. -/
def binary (s : Store) (op : BinaryOp) (a b : Value) : Value :=
  match op with
  | .add => s.sum a b
  | .subtract => .number (s.number a - s.number b)
  | .multiply => .number (s.number a * s.number b)
  | .divide => .number (s.number a / s.number b)
  | .remainder => .number (Decimal.remainder (s.number a) (s.number b))
  | .less => .boolean (s.order? a b == some .lt)
  | .lessEqual => .boolean (s.order? a b == some .lt || s.order? a b == some .eq)
  | .greater => .boolean (s.order? a b == some .gt)
  | .greaterEqual => .boolean (s.order? a b == some .gt || s.order? a b == some .eq)
  | .equal => .boolean (s.looseEquals a b)
  | .notEqual => .boolean (!s.looseEquals a b)
  | .strictEqual => .boolean (a.strictEquals b)
  | .strictNotEqual => .boolean (!a.strictEquals b)

end Store

end Microtemplate.Script
