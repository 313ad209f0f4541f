import Microtemplate.Script.Token
import Microtemplate.Script.Tree

/-!
Which tokens are operators, and how tightly the infix ones bind.
-/

namespace Microtemplate.Script

/-- The operators between two operands that form chains. -/
inductive Infix where
  | binary (op : BinaryOp)
  | logical (op : LogicalOp)
deriving DecidableEq, Repr

namespace Infix

/-- The infix operator that a punctuator is. -/
def ofPunctuator? : Punctuator → Option Infix
  | .star => some (.binary .multiply)
  | .slash => some (.binary .divide)
  | .percent => some (.binary .remainder)
  | .plus => some (.binary .add)
  | .minus => some (.binary .subtract)
  | .less => some (.binary .less)
  | .lessEqual => some (.binary .lessEqual)
  | .greater => some (.binary .greater)
  | .greaterEqual => some (.binary .greaterEqual)
  | .equal => some (.binary .equal)
  | .notEqual => some (.binary .notEqual)
  | .strictEqual => some (.binary .strictEqual)
  | .strictNotEqual => some (.binary .strictNotEqual)
  | .andAnd => some (.logical .and)
  | .orOr => some (.logical .or)
  | .questionQuestion => some (.logical .nullish)
  | _ => none

/-- How loosely an operator binds: operands are chains of operators that bind more tightly. -/
def looseness : Infix → Nat
  | binary .multiply | binary .divide | binary .remainder => 1
  | binary .add | binary .subtract => 2
  | binary .less | binary .lessEqual | binary .greater | binary .greaterEqual => 3
  | binary .equal | binary .notEqual | binary .strictEqual | binary .strictNotEqual => 4
  | logical .and => 5
  | logical .or => 6
  | logical .nullish => 7

/-- The looseness of the operators that bind least. -/
def loosest : Nat := 7

/-- The expression of an operator between two operands. -/
def join : Infix → Expr → Expr → Expr
  | binary op => .binary op
  | logical op => .logical op

theorem looseness_pos (o : Infix) : 0 < o.looseness := by
  rcases o with op | op <;> cases op <;> decide

theorem looseness_le_loosest (o : Infix) : o.looseness ≤ loosest := by
  rcases o with op | op <;> cases op <;> decide

end Infix

/-- The unary operator that a token is. -/
def UnaryOp.ofToken? : Token → Option UnaryOp
  | .punctuator .bang => some .not
  | .punctuator .minus => some .negate
  | .punctuator .plus => some .toNumber
  | .keyword .typeofWord => some .typeof
  | _ => none

/-- The update operator that a token is. -/
def UpdateOp.ofToken? : Token → Option UpdateOp
  | .punctuator .plusPlus => some .increment
  | .punctuator .minusMinus => some .decrement
  | _ => none

/-- The assignment that a token stands for: a plain one, or one with a binary operator. -/
def assignmentOfToken? : Token → Option (Option BinaryOp)
  | .punctuator .assign => some none
  | .punctuator .plusAssign => some (some .add)
  | .punctuator .minusAssign => some (some .subtract)
  | .punctuator .starAssign => some (some .multiply)
  | .punctuator .slashAssign => some (some .divide)
  | .punctuator .percentAssign => some (some .remainder)
  | _ => none

/-- The kind of declaration that a token starts. -/
def DeclarationKind.ofToken? : Token → Option DeclarationKind
  | .keyword .varWord => some .functionWide
  | .keyword .letWord => some .blockWide
  | .keyword .constWord => some .constant
  | _ => none

end Microtemplate.Script
