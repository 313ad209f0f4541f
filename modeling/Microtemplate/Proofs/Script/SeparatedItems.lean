import Microtemplate.Script.Reader.Statement

/-!
Items that are separated by commas. The items of an array, the arguments of a call and the properties
of an object stand between commas up to a closing punctuator, and the further parts of a sequence or of
a declaration stand after a comma each. So whatever is said of the readers of lists is said once of
these two, for any reader of one item.
-/

namespace Microtemplate.Script

namespace Parse

variable {α : Type} (item : Parse α)

/-- Items separated by commas up to a closing punctuator; a comma may stand before it. -/
def separated (close : Punctuator) : Nat → Parse (List α)
  | 0 => unexpected
  | bound + 1 => do
    if ← eatPunctuator close then return []
    let x ← item
    if ← eatPunctuator .comma then
      let more ← separated close bound
      return x :: more
    else
      expect close
      return [x]

/-- Items each of which stands after a comma. -/
def afterCommas : Nat → Parse (List α)
  | 0 => return []
  | bound + 1 => do
    if ← eatPunctuator .comma then
      let x ← item
      let more ← afterCommas bound
      return x :: more
    else return []

end Parse

namespace Reader

open Parse

variable (limit : Nat) (inner : Nested)

theorem list_eq_separated (close : Punctuator) (k : Nat) :
    list inner close k = separated inner.assignment close k := by
  induction k with
  | zero => rfl
  | succ k ih => rw [list, separated, ih]

theorem properties_eq_separated (k : Nat) :
    properties inner k = separated (property inner) .rightBrace k := by
  induction k with
  | zero => rfl
  | succ k ih => rw [properties, separated, ih]

theorem commaRest_eq_afterCommas (k : Nat) : commaRest inner k = afterCommas inner.assignment k := by
  induction k with
  | zero => rfl
  | succ k ih => rw [commaRest, afterCommas, ih]

/-- A declared name with its value. -/
def declarator (kind : DeclarationKind) : Parse Declarator := do
  let l ← located
  let name ← identifier
  declaratorOf inner kind l name

theorem declaratorsRest_eq_afterCommas (kind : DeclarationKind) (k : Nat) :
    declaratorsRest inner kind k = afterCommas (declarator inner kind) k := by
  induction k with
  | zero => rfl
  | succ k ih =>
    rw [declaratorsRest, afterCommas, ih]
    simp only [declarator, bind_assoc]

theorem declarators_eq (kind : DeclarationKind) : declarators limit inner kind = (do
    let d ← declarator inner kind
    let more ← declaratorsRest inner kind limit
    return d :: more) := by
  simp only [declarators, declarator, bind_assoc]

end Reader

end Microtemplate.Script
