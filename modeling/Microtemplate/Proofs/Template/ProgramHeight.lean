import Microtemplate.Proofs.Script.TreeHeight
import Microtemplate.Proofs.Template.ProgramTree

/-!
The height of the programs of templates. Each slot of a template is one more operand of the sum that
its program appends, so that no limit on nesting bounds how high the sum is.
-/

namespace Microtemplate

open Script

namespace ProgramText

theorem length_lt_height_sum (v : Option String) (lead : List Char) (slots : List Slot) :
    slots.length < (sum v lead slots).height 1 := by
  have hfold : ∀ e : Expr, e.height 1 + slots.length ≤ (slots.foldl (Slot.join v) e).height 1 := by
    induction slots with
    | nil => intro e; exact Nat.le_refl _
    | cons s slots ih =>
      intro e
      have hmore := ih (Slot.join v e s)
      have hjoin : e.height 1 + 1 ≤ (Slot.join v e s).height 1 := by
        simp only [Slot.join, Expr.height]
        omega
      rw [List.length_cons, List.foldl_cons]
      omega
  have hsum := hfold (.string (String.ofList lead))
  simp only [Expr.height] at hsum
  exact Nat.lt_of_lt_of_le (by omega) hsum

/-- The tree of a program is higher than its template has slots. -/
theorem length_lt_height_tree (v : Option String) (lead : List Char) (slots : List Slot) :
    slots.length < (tree v lead slots).height 1 := by
  have hsum := length_lt_height_sum v lead slots
  have happend : (sum v lead slots).height 1 < (append v lead slots).height 1 := by
    simp only [append, Stmt.height, Expr.height]
    omega
  rw [FunctionOf.height_eq]
  cases v <;> simp only [tree, inScope, heightBody, Stmt.height] <;> omega

end ProgramText

end Microtemplate
