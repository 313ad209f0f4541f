import Microtemplate.Proofs.Template.ProgramText

/-!
The tree of a program whose template shows fields: the sum of its texts and slots, in the order of
the template, however many there are.
-/

namespace Microtemplate

open Script
open Reader (nested)

namespace Script

/-- The tokens of some located ones and then those of a state. -/
def Tokens.before : List Located → Tokens → Tokens
  | [], t => t
  | l :: ls, t => ⟨l, ls ++ t.current :: t.following⟩

theorem Tokens.before_append (ls ls' : List Located) (t : Tokens) :
    before (ls ++ ls') t = before ls (before ls' t) := by
  cases ls with
  | nil => rfl
  | cons l ls => cases ls' <;> simp [before]

/-- The state in front of pieces and further ones. -/
theorem Tokens.before_locate (ps qs : List Piece) (rest : List Char) (t : Tokens) :
    before (Piece.locate (ps ++ qs) rest) t =
      before (Piece.locate ps (Piece.print qs ++ rest)) (before (Piece.locate qs rest) t) := by
  rw [Piece.locate_append, before_append]

theorem Parse.pure_apply {α : Type} (a : α) (t : Tokens) : (pure a : Parse α) t = .ok (a, t) := rfl

/-- Statements up to a closing brace, the first of which is read. -/
theorem statements_cons {inner : Nested} {inLoop : Bool} {n : Nat} {t u w : Tokens} {s : Stmt}
    {ss : List Stmt} (hbrace : t.current.token ≠ .punctuator .rightBrace)
    (hend : t.current.token ≠ .endOfInput) (hfirst : inner.statement inLoop t = .ok (s, u))
    (hmore : Reader.statements inner inLoop n u = .ok (ss, w)) :
    Reader.statements inner inLoop (n + 1) t = .ok (s :: ss, w) := by
  simp only [Reader.statements, Parse.eatPunctuator, Parse.eat, Parse.token, bind, StateT.bind,
    Except.bind, Parse.pure_apply, hbrace, if_false, Bool.false_eq_true, hend, hfirst, hmore]

/-- A chain without operators of the next looseness. -/
theorem chain_succ {k looseness : Nat} {inner : Nested} {t u : Tokens} {e : Expr}
    (h : Reader.chain (k + 1) inner looseness t = .ok (e, u))
    (hnone : Reader.infixAt? (looseness + 1) u.current.token = none) :
    Reader.chain (k + 1) inner (looseness + 1) t = .ok (e, u) := by
  simp only [Reader.chain, bind, StateT.bind, Except.bind, h, Reader.chainRest, Parse.token, hnone,
    Parse.pure_apply]

/-- A sign of addition joins the next operand to a sum. -/
theorem chainRest_plus {operand : Parse Expr} {n : Nat} {sum e : Expr} {spacing : Spacing}
    {x : Piece} {xs : List Piece} {rest : List Char} {t u : Tokens}
    (h : operand (.before (Piece.locate (x :: xs) rest) t) = .ok (e, u)) :
    Reader.chainRest 2 operand (n + 1) sum
      (.before (Piece.locate (⟨spacing, .mark .plus⟩ :: x :: xs) rest) t) =
    Reader.chainRest 2 operand n (.binary .add sum e) u := by
  change Except.bind (operand (.before (Piece.locate (x :: xs) rest) t)) _ = _
  rw [h]
  rfl

/-- An assignment that adds to a name, given how the value is read. -/
theorem assignment_plusAssign {k levels : Nat} {name : String} {e : Expr} {spacing : Spacing}
    {x : Piece} {xs : List Piece} {rest : List Char} {t u : Tokens}
    (h : Reader.assignment (k + 4) (nested (k + 4) levels) (.before (Piece.locate (x :: xs) rest) t) =
      .ok (e, u)) :
    Reader.assignment (k + 4) (nested (k + 4) (levels + 1))
      (.before (Piece.locate (⟨spacing, .identifier name⟩ :: ⟨.tight, .mark .plusAssign⟩ :: x :: xs)
        rest) t) =
    .ok (.assign (some .add) (.identifier name) e, u) := by
  change Except.bind (Reader.assignment (k + 4) (nested (k + 4) levels)
    (.before (Piece.locate (x :: xs) rest) t)) _ = _
  rw [h]
  rfl

/-- A statement that starts with a name is an expression up to its semicolon. -/
theorem statement_of_assignment {k levels : Nat} {name : String} {e : Expr} {spacing : Spacing}
    {xs : List Piece} {rest : List Char} {t : Tokens} {inLoop : Bool}
    (h : Reader.assignment (k + 4) (nested (k + 4) levels)
      (.before (Piece.locate (⟨spacing, .identifier name⟩ :: xs) rest) t) =
        .ok (e, .before (Piece.locate [⟨.tight, .mark .semicolon⟩] rest) t)) :
    Reader.statement (k + 4) (nested (k + 4) (levels + 1)) inLoop
      (.before (Piece.locate (⟨spacing, .identifier name⟩ :: xs) rest) t) = .ok (.expression e, t) := by
  change Except.bind (Except.bind (Reader.assignment (k + 4) (nested (k + 4) levels)
    (.before (Piece.locate (⟨spacing, .identifier name⟩ :: xs) rest) t)) _) _ = _
  rw [h]
  rfl

end Script

namespace Slot

/-- The expression that names a field. -/
def referenceExpr : Option String → String → Expr
  | none, name => .identifier name
  | some v, name => .member (.identifier v) name

/-- The expression of the value that a slot appends. -/
def valueExpr : Bool → Expr
  | true => .call (.member (.identifier "_") "escape") [.identifier "__t"]
  | false => .identifier "__t"

/-- The expression of a slot. -/
def expr (v : Option String) (s : Slot) : Expr :=
  .conditional (.binary .equal (.assign none (.identifier "__t") (referenceExpr v s.name)) .null)
    (.string "") (valueExpr s.escaped)

/-- A sum that goes on with a slot and the text after it. -/
def join (v : Option String) (sum : Expr) (s : Slot) : Expr :=
  .binary .add (.binary .add sum (s.expr v)) (.string (String.ofList s.after))

variable (v : Option String) (s : Slot) (k levels : Nat) (following : List Piece)
  (rest : List Char) (t : Tokens)

/-- The pieces of a slot between the two signs of addition around it. -/
def operandPieces : List Piece :=
  opening.tail ++ (reference v s.name ++ (test ++ (value s.escaped ++ closing.take 1)))

/-- A slot is read as one operand of a sum. -/
theorem chain_operand :
    Reader.chain (k + 4) (nested (k + 4) (levels + 6)) 1
      (.before (Piece.locate (s.operandPieces v ++ ⟨.tight, .mark .plus⟩ :: following) rest) t) =
    .ok (s.expr v, .before (Piece.locate (⟨.tight, .mark .plus⟩ :: following) rest) t) := by
  obtain ⟨escaped, name, after⟩ := s
  cases v <;> cases escaped <;> rfl

/-- A text is read as one operand of a sum. -/
theorem chain_quoted (text : List Char) (spacing next : Spacing) {p : Punctuator}
    (hp : p = .plus ∨ p = .semicolon) :
    Reader.chain (k + 4) (nested (k + 4) (levels + 6)) 1
      (.before (Piece.locate (⟨spacing, .quoted text⟩ :: ⟨next, .mark p⟩ :: following) rest) t) =
    .ok (.string (String.ofList text),
      .before (Piece.locate (⟨next, .mark p⟩ :: following) rest) t) := by
  rcases hp with rfl | rfl <;> rfl

/-- The slots of a sum are read one after the other, up to the end of the statement. -/
theorem chainRest_slots (slots : List Slot) (n : Nat) (hn : 2 * slots.length < n) (sum : Expr) :
    Reader.chainRest 2 (Reader.chain (k + 4) (nested (k + 4) (levels + 6)) 1) n sum
      (.before (Piece.locate (slots.flatMap (pieces v) ++ ⟨.tight, .mark .semicolon⟩ :: following)
        rest) t) =
    .ok (slots.foldl (join v) sum,
      .before (Piece.locate (⟨.tight, .mark .semicolon⟩ :: following) rest) t) := by
  induction slots generalizing n sum with
  | nil =>
    cases n with
    | zero => cases hn
    | succ n => rfl
  | cons s slots ih =>
    obtain ⟨n, rfl⟩ : ∃ m, n = m + 2 := ⟨n - 2, by rw [List.length_cons] at hn; omega⟩
    have hmore := ih n (by rw [List.length_cons] at hn; omega) (join v sum s)
    -- the sign after the text is that of the next slot or ends the statement
    obtain ⟨next, p, more, hp, hnext⟩ : ∃ next p more, (p = .plus ∨ p = .semicolon) ∧
        slots.flatMap (pieces v) ++ ⟨.tight, .mark .semicolon⟩ :: following =
          (⟨next, .mark p⟩ : Piece) :: more := by
      cases slots with
      | nil => exact ⟨_, _, _, Or.inr rfl, rfl⟩
      | cons s' slots => exact ⟨_, _, _, Or.inl rfl, rfl⟩
    have htext := chain_quoted k levels more rest t s.after .line next hp
    have hslot := chain_operand v s k levels
      (⟨.line, .quoted s.after⟩ :: ⟨next, .mark p⟩ :: more) rest t
    rw [hnext] at hmore
    have hsplit : (s :: slots).flatMap (pieces v) ++ ⟨.tight, .mark .semicolon⟩ :: following =
        ⟨.tight, .mark .plus⟩ :: (s.operandPieces v ++ ⟨.tight, .mark .plus⟩ ::
          ⟨.line, .quoted s.after⟩ :: ⟨next, .mark p⟩ :: more) := by
      rw [List.flatMap_cons, List.append_assoc, hnext]
      simp [pieces, operandPieces, opening, closing]
    rw [hsplit]
    refine (chainRest_plus hslot).trans ?_
    refine (chainRest_plus htext).trans ?_
    exact hmore

end Slot

namespace ProgramText

/-- The sum of a text and slots. -/
def sum (v : Option String) (lead : List Char) (slots : List Slot) : Expr :=
  slots.foldl (Slot.join v) (.string (String.ofList lead))

/-- The tree of the statement that appends a text and slots. -/
def append (v : Option String) (lead : List Char) (slots : List Slot) : Stmt :=
  .expression (.assign (some .add) (.identifier "__p") (sum v lead slots))

/-- The tree of the declarations at the start of a program. -/
def declaration : Stmt :=
  .declaration .functionWide
    [⟨"__t", none⟩, ⟨"__p", some (.string "")⟩,
      ⟨"print", some (.function ⟨none, [], some "__a",
        [.expression (.assign (some .add) (.identifier "__p")
          (.call (.member (.identifier "__a") "join") [.string ""]))]⟩)⟩]

/-- The tree of statements in the scope of the data. -/
def inScope (body : List Stmt) : Stmt :=
  .within (.logical .or (.identifier "obj") (.object [])) (.block body)

/-- The tree of the statement that gives the text. -/
def result : Stmt := .returning (some (.identifier "__p"))

/-- The tree of a program. -/
def tree (v : Option String) (lead : List Char) (slots : List Slot) : Function where
  name := none
  params := [v.getD Settings.defaultVariable]
  rest := none
  body :=
    match v with
    | none => [declaration, inScope [append v lead slots], result]
    | some _ => [declaration, append v lead slots, result]

variable (v : Option String) (lead : List Char) (slots : List Slot) (k levels : Nat)
  (rest : List Char) (t : Tokens)

/-- A sum is read up to the end of the statement. -/
theorem assignment_sum (hk : 2 * slots.length < k + 4) :
    Reader.assignment (k + 4) (nested (k + 4) (levels + 6))
      (.before (Piece.locate (⟨.tight, .quoted lead⟩ ::
        (slots.flatMap (Slot.pieces v) ++ [⟨.tight, .mark .semicolon⟩])) rest) t) =
    .ok (sum v lead slots, .before (Piece.locate [⟨.tight, .mark .semicolon⟩] rest) t) := by
  obtain ⟨next, p, more, hp, hnext⟩ : ∃ next p more, (p = .plus ∨ p = .semicolon) ∧
      slots.flatMap (Slot.pieces v) ++ [⟨.tight, .mark .semicolon⟩] =
        (⟨next, .mark p⟩ : Piece) :: more := by
    cases slots with
    | nil => exact ⟨_, _, _, Or.inr rfl, rfl⟩
    | cons s' slots => exact ⟨_, _, _, Or.inl rfl, rfl⟩
  have hfirst := Slot.chain_quoted k levels more rest t lead .tight next hp
  have hslots := Slot.chainRest_slots v k levels [] rest t slots (k + 4) hk
    (.string (String.ofList lead))
  rw [hnext] at hslots ⊢
  have hchain : Reader.chain (k + 4) (nested (k + 4) (levels + 6)) 2
      (.before (Piece.locate (⟨.tight, .quoted lead⟩ :: ⟨next, .mark p⟩ :: more) rest) t) =
      .ok (sum v lead slots, .before (Piece.locate [⟨.tight, .mark .semicolon⟩] rest) t) := by
    change Except.bind (Reader.chain (k + 4) (nested (k + 4) (levels + 6)) 1 _) _ = _
    rw [hfirst]
    exact hslots
  have hloosest := chain_succ (chain_succ (chain_succ (chain_succ (chain_succ hchain rfl) rfl) rfl)
    rfl) rfl
  change Except.bind (Except.bind (Reader.chain (k + 4) (nested (k + 4) (levels + 6)) 7 _) _) _ = _
  rw [hloosest]
  rfl

/-- The statement that appends a text and slots is read. -/
theorem statement_append (hk : 2 * slots.length < k + 4) (inLoop : Bool) :
    Reader.statement (k + 4) (nested (k + 4) (levels + 8)) inLoop
      (.before (Piece.locate (statement v lead slots) rest) t) =
    .ok (append v lead slots, t) :=
  statement_of_assignment (assignment_plusAssign (assignment_sum v lead slots k levels rest t hk))

set_option maxRecDepth 2000 in
/-- The declarations at the start of a program are read. -/
theorem statement_declarations : Reader.statement (k + 4) (nested (k + 4) (levels + 8)) false
    (.before (Piece.locate declarations rest) t) = .ok (declaration, t) := rfl

/-- The last statement of a program is read. -/
theorem statement_foot : Reader.statement (k + 4) (nested (k + 4) (levels + 8)) false
      (.before (Piece.locate foot rest) t) =
    .ok (result, .before (Piece.locate [⟨.line, .mark .rightBrace⟩] rest) t) := rfl

/-- The scope of the data is a statement around those up to its brace. -/
theorem statement_entering : Reader.statement (k + 4) (nested (k + 4) (levels + 8)) false
      (.before (Piece.locate entering rest) t) =
    (Reader.statements (nested (k + 4) (levels + 7)) false (k + 4) t).map
      fun p => (inScope p.1, p.2) := by
  change Except.bind (Except.bind
    (Reader.statements (nested (k + 4) (levels + 7)) false (k + 4) t) _) _ = _
  cases Reader.statements (nested (k + 4) (levels + 7)) false (k + 4) t <;> rfl

/-- A program is a function around its statements. -/
theorem function_head (parameter : String) :
    Reader.function (k + 4) (nested (k + 4) (levels + 8)) true
      (.before (Piece.locate (head parameter) rest) t) =
    (Reader.statements (nested (k + 4) (levels + 8)) false (k + 4) t).map
      fun p => (⟨none, [parameter], none, p.1⟩, p.2) := by
  change Except.bind (Reader.statements (nested (k + 4) (levels + 8)) false (k + 4) t) _ = _
  cases Reader.statements (nested (k + 4) (levels + 8)) false (k + 4) t <;> rfl

/-- The statements in the scope of the data are read. -/
theorem statements_inScope (hk : 2 * slots.length < k + 4) :
    Reader.statements (nested (k + 4) (levels + 9)) false (k + 4)
      (.before (Piece.locate (statement v lead slots ++ leaving) rest) t) =
    .ok ([append v lead slots], t) := by
  rw [Tokens.before_locate]
  refine statements_cons ?_ ?_ (statement_append v lead slots k levels _ _ hk false) rfl
  · exact Token.noConfusion
  · exact Token.noConfusion

/-- The statements of a program are read. -/
theorem statements_tree (hk : 2 * slots.length < k + 4) :
    Reader.statements (nested (k + 4) (levels + 11)) false (k + 4)
      (.before (Piece.locate (declarations ++ body v lead slots) rest) t) =
    .ok ((tree v lead slots).body, t) := by
  have hfoot : ∀ levels, Reader.statements (nested (k + 4) (levels + 9)) false (k + 2)
      (.before (Piece.locate foot rest) t) = .ok ([result], t) := fun levels =>
    statements_cons Token.noConfusion Token.noConfusion (statement_foot k levels rest t) rfl
  rw [Tokens.before_locate]
  cases v with
  | none =>
    refine statements_cons ?_ ?_ (statement_declarations k (levels + 2) _ _) ?_
    · exact Token.noConfusion
    · exact Token.noConfusion
    · rw [body, ← List.append_assoc (statement none lead slots), Tokens.before_locate entering,
        Tokens.before_locate (statement none lead slots ++ leaving)]
      refine statements_cons ?_ ?_ ((statement_entering k (levels + 2) _ _).trans ?_)
        (hfoot (levels + 2))
      · exact Token.noConfusion
      · exact Token.noConfusion
      · rw [statements_inScope none lead slots k levels _ _ hk]
        rfl
  | some w =>
    refine statements_cons ?_ ?_ (statement_declarations k (levels + 2) _ _) ?_
    · exact Token.noConfusion
    · exact Token.noConfusion
    · rw [body, Tokens.before_locate]
      refine statements_cons ?_ ?_
        (statement_append (some w) lead slots k (levels + 2) _ _ hk false) (hfoot (levels + 2))
      · exact Token.noConfusion
      · exact Token.noConfusion

theorem length_lt_pieces : 2 * slots.length + 4 ≤ (pieces v lead slots).length := by
  have hslots : 2 * slots.length ≤ (slots.flatMap (Slot.pieces v)).length := by
    induction slots with
    | nil => exact Nat.le_refl _
    | cons s slots ih =>
      simp only [List.flatMap_cons, Slot.pieces, Slot.opening, List.length_append,
        List.length_cons] at ih ⊢
      omega
  cases v <;>
    simp only [pieces, body, head, declarations, statement, List.length_append, List.length_cons] <;>
    omega

/-- A program is read from the text of its pieces if its function is read from them. -/
theorem ofText?_of_function {ps : List Piece} {f : Function} (hps : ps ≠ [])
    (hfit : Piece.fit ps none = true)
    (hread : ∀ t, Reader.function (ps.length + 1) (nested (ps.length + 1) nestingLimit) true
      (.before (Piece.locate ps []) t) = .ok (f, t)) :
    Function.ofText? (Piece.print ps) = .ok f := by
  let final : Tokens := ⟨⟨.endOfInput, true, []⟩, []⟩
  have htokens := Piece.tokens_print hfit
  have hcount := Piece.length_locate ps []
  have hfunction := hread final
  cases hlocated : Piece.locate ps [] with
  | nil =>
    rw [hlocated, List.length_nil] at hcount
    exact absurd (List.length_eq_zero_iff.mp hcount.symm) hps
  | cons first more =>
    rw [hlocated] at htokens hfunction hcount
    have hmore : (more ++ [final.current]).length = ps.length := by
      rw [List.length_append, List.length_singleton, ← hcount, List.length_cons]
    rw [Function.ofText?, htokens]
    change Except.bind (Except.bind (Reader.function ((more ++ [final.current]).length + 1)
      (nested ((more ++ [final.current]).length + 1) nestingLimit) true ⟨first, more ++ [final.current]⟩)
        _) _ = _
    rw [hmore]
    change Except.bind (Except.bind (Reader.function (ps.length + 1)
      (nested (ps.length + 1) nestingLimit) true (.before (first :: more) final)) _) _ = _
    rw [hfunction]
    rfl

/-- The program of a text and slots is read as their tree. -/
theorem ofText?_print {v : Option String} (hv : ∀ w, v = some w → isIdentifier w = true)
    (lead : List Char) {slots : List Slot} (h : ∀ s ∈ slots, s.Named) :
    Function.ofText? (Piece.print (pieces v lead slots)) = .ok (tree v lead slots) := by
  have hlength := length_lt_pieces v lead slots
  obtain ⟨k, hk⟩ : ∃ k, (pieces v lead slots).length + 1 = k + 4 :=
    ⟨(pieces v lead slots).length - 3, by omega⟩
  have hne : pieces v lead slots ≠ [] := by
    intro hnil
    rw [hnil, List.length_nil] at hlength
    omega
  refine ofText?_of_function hne (fit_pieces hv lead h) fun t => ?_
  have hbody := statements_tree v lead slots k 117 [] t (by omega)
  rw [hk, pieces, Tokens.before_locate]
  refine (function_head k 120 _ _ _).trans ?_
  rw [hbody]
  rfl

end ProgramText

end Microtemplate
