import Microtemplate.Proofs.Script.StatementFollowing
import Microtemplate.Proofs.Template.ProgramTree

/-!
The parts of a template as code of any shape: texts, expressions whose values are shown, and
statements. Each piece of code is read on its own, and the program of the template is put together
from the trees: one sum is appended for every run of texts and values, and the statements stand
between the runs.
-/

namespace Microtemplate

open Script
open Source (escapeLiteral)

namespace Script

namespace Reader

open Parse

/-- What a reader takes from a text if nothing is left after it. -/
def whole {α : Type} (p : Parse α) : Parse α := do
  let a ← p
  if (← token) = .endOfInput then return a else unexpected

/-- Statements up to the end of the input, outside all loops. They are read as those in braces are,
with the end of the input where the closing brace would be. -/
def statementsToEnd (inner : Nested) : Nat → Parse (List Stmt)
  | 0 => unexpected
  | bound + 1 => do
    if ← eatPunctuator .rightBrace then unexpected
    else if (← token) = .endOfInput then return []
    else
      let first ← inner.statement false
      let more ← statementsToEnd inner bound
      return first :: more

/-- Reads a text on its own; the reader is told how many tokens there are. -/
def alone {α : Type} (reader : Nat → Parse α) (text : List Char) : Except Fault α := do
  match ← Lexer.tokens text with
  | [] => Except.error ⟨.unexpected .endOfInput, []⟩
  | first :: more =>
    let (a, _) ← (reader (more.length + 1)).run ⟨first, more⟩
    return a

end Reader

/-- Reads a text as one expression with so many levels of nesting left. -/
def Expr.ofText? (levels : Nat) (text : List Char) : Except Fault Expr :=
  Reader.alone (fun limit => Reader.whole (Reader.expression limit (Reader.nested limit levels))) text

/-- Reads a text as statements with so many levels of nesting left. -/
def Stmt.listOfText? (levels : Nat) (text : List Char) : Except Fault (List Stmt) :=
  Reader.alone (fun limit => Reader.statementsToEnd (Reader.nested limit levels) limit) text

end Script

/-- An expression whose value a template shows, as it is written and as it is read. -/
structure Shown where
  escaped : Bool
  code : List Char
  expr : Expr

namespace Shown

/-- The step that shows a value. -/
def step (x : Shown) : Instruction := if x.escaped then .escaped x.code else .raw x.code

/-- The tree of the text that is appended for a value: nothing if there is none. -/
def tree (x : Shown) : Expr :=
  .conditional (.binary .equal (.assign none (.identifier "__t") x.expr) .null) (.string "")
    (Slot.valueExpr x.escaped)

/-- A sum that goes on with a value and the text after it. -/
def join (sum : Expr) (x : Shown × List Char) : Expr :=
  .binary .add (.binary .add sum x.1.tree) (.string (String.ofList x.2))

end Shown

/-- A part of a template. -/
inductive Part where
  | literal (text : List Char)
  | shown (x : Shown)
  | statements (code : List Char) (trees : List Stmt)

namespace Part

/-- The step that a part is. -/
def step : Part → Instruction
  | literal text => .literal text
  | shown x => x.step
  | statements code _ => .execute code

/-- How many levels of nesting are left for the statements of a template: the function around them
takes none, and the scope of the data takes two. -/
def levels : Option String → Nat
  | none => nestingLimit - 2
  | some _ => nestingLimit

/-- The code of a part, taken alone, is read as the trees of the part. Six levels around an
expression are those of the statement that appends it. -/
def Reads (v : Option String) : Part → Prop
  | literal _ => True
  | shown x =>
    Lexer.endsInComment x.code = false ∧ Expr.ofText? (levels v - 6) x.code = .ok x.expr
  | statements code trees => Stmt.listOfText? (levels v) code = .ok trees

end Part

/-- Texts and values without statements between them: a text, and values each with the text after
it. The texts may be empty. -/
structure Run where
  lead : List Char
  values : List (Shown × List Char)

namespace Run

/-- The sum of a run, from left to right. -/
def sum (r : Run) : Expr := r.values.foldl Shown.join (.string (String.ofList r.lead))

/-- The statement that appends a run. -/
def tree (r : Run) : Stmt := .expression (.assign (some .add) (.identifier "__p") r.sum)

end Run

/-- Statements with their code, and the run after them. -/
structure Block where
  code : List Char
  trees : List Stmt
  run : Run

/-- The runs of a template without statements, and the statements between them. -/
structure Layout where
  first : Run
  blocks : List Block

namespace Layout

/-- The layout of parts: runs are as long as they can be. -/
def ofParts : List Part → Layout
  | [] => ⟨⟨[], []⟩, []⟩
  | .literal text :: ps =>
    let l := ofParts ps
    ⟨⟨text ++ l.first.lead, l.first.values⟩, l.blocks⟩
  | .shown x :: ps =>
    let l := ofParts ps
    ⟨⟨[], (x, l.first.lead) :: l.first.values⟩, l.blocks⟩
  | .statements code trees :: ps =>
    let l := ofParts ps
    ⟨⟨[], []⟩, ⟨code, trees, l.first⟩ :: l.blocks⟩

/-- The statements of a layout: those that append the runs, and those of the template in between. -/
def trees (l : Layout) : List Stmt :=
  l.first.tree :: l.blocks.flatMap fun b => b.trees ++ [b.run.tree]

/-- The statements of a program between its declarations and its result. Where no variable holds the
data, they stand in the scope of the data. -/
def body : Option String → Layout → List Stmt
  | none, l => [ProgramText.inScope l.trees]
  | some _, l => l.trees

/-- The tree of the program of a template. -/
def program (v : Option String) (l : Layout) : Function where
  name := none
  params := [v.getD Settings.defaultVariable]
  rest := none
  body := ProgramText.declaration :: (l.body v ++ [ProgramText.result])

end Layout

namespace Shown

/-- How a value stands in the program, with the text after it. -/
def text (x : Shown) (after : List Char) : List Char :=
  Piece.print Slot.opening ++ (x.code ++
    ')' :: Piece.print (Slot.test.tail ++ (Slot.value x.escaped ++
      (Slot.closing ++ [⟨.line, .quoted after⟩]))))

end Shown

namespace Run

/-- The values of a run as they stand in the program, and the end of the statement. -/
def tail (r : Run) : List Char :=
  r.values.flatMap (fun x => x.1.text x.2) ++ Piece.print [⟨.tight, .mark .semicolon⟩]

/-- The pieces of a run up to the end of its first text. -/
def opening (r : Run) : List Piece :=
  [⟨.line, .identifier "__p"⟩, ⟨.tight, .mark .plusAssign⟩] ++ [⟨.tight, .quoted r.lead⟩]

/-- How a run stands in the program, from the end of a line on. -/
def text (r : Run) : List Char := Piece.print r.opening ++ r.tail

end Run

/-- How statements and the run after them stand in the program. -/
def Block.text (b : Block) : List Char := '\n' :: (b.code ++ b.run.text)

/-- How the statements of a template stand in its program. -/
def Layout.text (l : Layout) : List Char := l.first.text ++ l.blocks.flatMap Block.text

/-- The step of a value, and the text after it up to the end of its string. -/
theorem Shown.step_append (x : Shown) (after more : List Char) :
    Source.step x.step ++ (escapeLiteral after ++ '\'' :: more) = '\'' :: (x.text after ++ more) := by
  have hopening : "'+\n((__t=(".toList = '\'' :: Piece.print Slot.opening := rfl
  have hescaped : "))==null?'':_.escape(__t))+\n'".toList =
      ')' :: (Piece.print (Slot.test.tail ++ (Slot.value true ++ Slot.closing)) ++ ['\n', '\'']) :=
    rfl
  have hraw : "))==null?'':__t)+\n'".toList =
      ')' :: (Piece.print (Slot.test.tail ++ (Slot.value false ++ Slot.closing)) ++
        ['\n', '\'']) := rfl
  have hstep : Source.step x.step = '\'' :: (Piece.print Slot.opening ++ (x.code ++
      ')' :: (Piece.print (Slot.test.tail ++ (Slot.value x.escaped ++ Slot.closing)) ++
        ['\n', '\'']))) := by
    obtain ⟨escaped, code, expr⟩ := x
    cases escaped with
    | true =>
      change "'+\n((__t=(".toList ++ code ++ "))==null?'':_.escape(__t))+\n'".toList = _
      rw [← hescaped, hopening, List.append_assoc, List.cons_append]
    | false =>
      change "'+\n((__t=(".toList ++ code ++ "))==null?'':__t)+\n'".toList = _
      rw [← hraw, hopening, List.append_assoc, List.cons_append]
  rw [hstep, Shown.text, Piece.print_append, Piece.print_append, Piece.print_append,
    Piece.print_append, Piece.print_append, Piece.print_quoted]
  simp only [Spacing.chars, List.append_assoc, List.cons_append, List.nil_append]

/-- A run as it stands in the program. -/
theorem Run.text_eq (r : Run) :
    r.text = "\n__p+='".toList ++ (escapeLiteral r.lead ++ '\'' :: r.tail) := by
  have hopening : "\n__p+='".toList =
      Piece.print [⟨.line, .identifier "__p"⟩, ⟨.tight, .mark .plusAssign⟩] ++ ['\''] := rfl
  rw [Run.text, Run.opening, Piece.print_append, Piece.print_quoted, hopening]
  simp only [Spacing.chars, List.append_assoc, List.cons_append, List.nil_append]

/-- The steps of parts, inside the string that is being appended. -/
theorem Layout.flatMap_step (ps : List Part) :
    (ps.map Part.step).flatMap Source.step ++
        '\'' :: (Piece.print [⟨.tight, .mark .semicolon⟩] ++ ['\n']) =
      escapeLiteral (ofParts ps).first.lead ++ '\'' :: ((ofParts ps).first.tail ++
        ((ofParts ps).blocks.flatMap Block.text ++ ['\n'])) := by
  induction ps with
  | nil => rfl
  | cons p ps ih =>
    rw [List.map_cons, List.flatMap_cons, List.append_assoc, ih]
    cases p with
    | literal text =>
      change escapeLiteral text ++ (escapeLiteral _ ++ _) = escapeLiteral (text ++ _) ++ _
      rw [escapeLiteral, escapeLiteral, escapeLiteral, List.flatMap_append, List.append_assoc]
      rfl
    | shown x =>
      rw [Part.step, Shown.step_append]
      simp only [ofParts, Run.tail, List.flatMap_cons, List.append_assoc]
      rfl
    | statements code trees =>
      have hclose : "';\n".toList = '\'' :: (Piece.print [⟨.tight, .mark .semicolon⟩] ++ ['\n']) :=
        rfl
      have htail : Run.tail ⟨[], []⟩ = Piece.print [⟨.tight, .mark .semicolon⟩] := rfl
      change "';\n".toList ++ code ++ "\n__p+='".toList ++ _ = '\'' :: (Run.tail ⟨[], []⟩ ++ _)
      rw [hclose, htail, ofParts, List.flatMap_cons, Block.text, Run.text_eq]
      simp only [List.append_assoc, List.cons_append, List.nil_append]

/-- The statements of a template as its layout has them. -/
theorem Layout.statements_eq (ps : List Part) :
    '\n' :: Source.statements (ps.map Part.step) = (ofParts ps).text ++ ['\n'] := by
  rw [ProgramText.statements_eq, Layout.flatMap_step, Layout.text, Run.text, Run.opening,
    Piece.print_append, Piece.print_quoted]
  simp only [Spacing.chars, List.append_assoc, List.cons_append, List.nil_append]

/-- What stands between the declarations of a program and its last statement. -/
def Layout.innerText (v : Option String) (l : Layout) : List Char :=
  match v with
  | none => Piece.print ProgramText.entering ++ (l.text ++ Piece.print ProgramText.leaving)
  | some _ => l.text

/-- The program of a template is the text of its layout with the head and the foot around it. -/
theorem Layout.ofInstructions_eq (s : Settings) (ps : List Part) :
    Source.ofInstructions s (ps.map Part.step) =
      Piece.print (ProgramText.head s.boundVariable ++ ProgramText.declarations) ++
        ((ofParts ps).innerText s.variableName ++ Piece.print ProgramText.foot) := by
  have hstatements := Layout.statements_eq ps
  cases hv : s.variableName with
  | none =>
    have hscope := ProgramText.line_append ProgramText.print_entering
      (Source.statements (ps.map Part.step) ++ "\x7d\n".toList)
    rw [ProgramText.line_append hstatements, ProgramText.print_leaving, ← List.append_assoc,
      ← List.append_assoc, ← List.append_assoc] at hscope
    rw [Source.ofInstructions, hv]
    refine (ProgramText.program_eq s.boundVariable hscope).trans ?_
    rw [innerText, List.append_assoc (Piece.print ProgramText.entering)]
  | some v =>
    rw [Source.ofInstructions, hv]
    exact ProgramText.program_eq s.boundVariable hstatements

end Microtemplate
