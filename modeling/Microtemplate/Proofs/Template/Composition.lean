import Microtemplate.Proofs.Template.PartReading

/-!
The program of a template is put together from the trees of its parts. Whatever the code of the parts
is, as long as each part is read alone, the template compiles, and its program has the trees of the
parts where the template has the parts.
-/

namespace Microtemplate

open Script
open Reader (nested statements Splices)
open Lexer (Cuts)

/-- A program text is read as one function up to the end of its tokens. -/
theorem Script.Function.ofText?_eq_ok {cs : List Char} {s u : Tokens} {f : Function} {n : Nat}
    (h : Cuts cs s) (hn : s.left + 1 = n)
    (hread : Reader.function n (nested n nestingLimit) true s = .ok (f, u))
    (hend : u.current.token = .endOfInput) : Function.ofText? cs = .ok f := by
  subst hn
  rw [Function.ofText?, Lexer.tokens_eq_ok_iff.mpr ⟨s, h, rfl⟩]
  change Except.bind (Except.bind (Reader.function (s.left + 1)
    (nested (s.left + 1) nestingLimit) true s) _) _ = _
  rw [hread]
  change Except.bind ((if u.current.token = .endOfInput then pure f else Parse.unexpected) u) _ = _
  rw [if_pos hend]
  rfl

variable {levels : Nat}

/-- The code of statements and of the run after them is read with so many levels of nesting, six of
which are around the values of the run. -/
structure Block.Reads (levels : Nat) (b : Block) : Prop where
  code : Stmt.listOfText? (levels + 6) b.code = .ok b.trees
  run : b.run.Reads levels

namespace Layout

/-- The code of a layout is read with so many levels of nesting. -/
structure Reads (levels : Nat) (l : Layout) : Prop where
  first : l.first.Reads levels
  blocks : ∀ b ∈ l.blocks, b.Reads levels

/-- The layout of parts is read if each part is. -/
theorem reads_ofParts {v : Option String} {ps : List Part} (h : ∀ p ∈ ps, p.Reads v) :
    (ofParts ps).Reads (Part.levels v - 6) := by
  have hlevels : Part.levels v - 6 + 6 = Part.levels v := by cases v <;> rfl
  have hempty : ∀ lead, (⟨lead, []⟩ : Run).Reads (Part.levels v - 6) := fun lead x hx => by cases hx
  induction ps with
  | nil => exact ⟨hempty [], fun b hb => by cases hb⟩
  | cons p ps ih =>
    obtain ⟨hp, hps⟩ := List.forall_mem_cons.mp h
    obtain ⟨hfirst, hblocks⟩ := ih hps
    cases p with
    | literal text => exact ⟨hfirst, hblocks⟩
    | shown x => exact ⟨List.forall_mem_cons.mpr ⟨hp, hfirst⟩, hblocks⟩
    | statements code trees =>
      refine ⟨hempty [], List.forall_mem_cons.mpr ⟨⟨?_, hfirst⟩, hblocks⟩⟩
      rw [hlevels]
      exact hp

/-- Blocks in front of a line are read as their statements. -/
theorem exists_splices_blocks {blocks : List Block} (h : ∀ b ∈ blocks, b.Reads levels)
    {rest : List Char} {t : Tokens} (ht : Cuts ('\n' :: rest) t) :
    ∃ s more, blocks.flatMap Block.text ++ '\n' :: rest = '\n' :: more ∧ Cuts ('\n' :: more) s ∧
      Splices (levels + 6) (blocks.flatMap fun b => b.trees ++ [b.run.tree]) s t := by
  induction blocks with
  | nil => exact ⟨t, rest, rfl, ht, .nil⟩
  | cons b blocks ih =>
    obtain ⟨hb, hblocks⟩ := List.forall_mem_cons.mp h
    obtain ⟨s, more, hmore, hs, hsplices⟩ := ih hblocks
    obtain ⟨u, hu, hname, hline, hleft, hrun⟩ := Run.exists_splices hb.run hs
    obtain ⟨cs, hcs⟩ : ∃ cs, b.run.text = '\n' :: cs := ⟨_, rfl⟩
    rw [hcs, List.cons_append] at hu
    obtain ⟨w, hw, hcode⟩ := Reader.exists_cuts_of_statements hb.code hu hname hline (by omega)
    refine ⟨w, _, ?_, hw, ?_⟩
    · rw [List.flatMap_cons, List.append_assoc, hmore, Block.text, hcs]
      simp only [List.append_assoc, List.cons_append]
    · rw [List.flatMap_cons, List.append_assoc]
      exact hcode.append (hrun.append hsplices)

/-- The text of a layout in front of a line is read as its statements. -/
theorem exists_splices {l : Layout} (h : l.Reads levels) {rest : List Char} {t : Tokens}
    (ht : Cuts ('\n' :: rest) t) :
    ∃ s, Cuts (l.text ++ '\n' :: rest) s ∧ Splices (levels + 6) l.trees s t := by
  obtain ⟨u, more, hmore, hu, hblocks⟩ := exists_splices_blocks h.blocks ht
  obtain ⟨s, hs, -, -, -, hfirst⟩ := Run.exists_splices h.first hu
  refine ⟨s, ?_, hfirst.append hblocks⟩
  rw [text, List.append_assoc, hmore]
  exact hs

/-- The statements between the declarations of a program and its result, in front of a line. -/
theorem exists_splices_body {v : Option String} {l : Layout} (h : l.Reads (Part.levels v - 6))
    {rest : List Char} {t : Tokens} (ht : Cuts ('\n' :: rest) t) :
    ∃ s, Cuts (l.innerText v ++ '\n' :: rest) s ∧ Splices nestingLimit (l.body v) s t := by
  cases v with
  | some v => exact exists_splices h ht
  | none =>
    have hentering : Piece.fit ProgramText.entering (some '\n') = true := rfl
    have hleaving : Piece.fit ProgramText.leaving (some '\n') = true := rfl
    obtain ⟨s, hs, hsplices⟩ := exists_splices h (ht.print hleaving)
    have hle := hsplices.left
    rw [Tokens.left_before_locate] at hle
    change l.trees.length + (1 + t.left) ≤ s.left at hle
    have hcuts : Cuts (Piece.print ProgramText.entering ++ _) _ := hs.print hentering
    rw [innerText, List.append_assoc, List.append_assoc]
    refine ⟨_, hcuts, .single Token.noConfusion Token.noConfusion ?_ fun k hk => ?_⟩
    · rw [Tokens.left_before_locate]
      omega
    · rw [Tokens.left_before_locate] at hk
      obtain ⟨n, hn⟩ : ∃ n, k + 4 = l.trees.length + (n + 1) := ⟨k + 3 - l.trees.length, by omega⟩
      have hread := hsplices.read k (by omega) (n + 1)
      rw [← hn] at hread
      have hclose : statements (nested (k + 4) 126) false (n + 1)
          (.before (Piece.locate ProgramText.leaving ('\n' :: rest)) t) = .ok ([], t) := rfl
      refine (ProgramText.statement_entering k 119 _ _).trans ?_
      change (statements (nested (k + 4) 126) false (k + 4) s).map _ = _
      change statements (nested (k + 4) 126) false (k + 4) s = _ at hread
      rw [hread]
      change Except.ok (ProgramText.inScope (l.trees ++ []), t) = _
      rw [List.append_nil]

/-- A program is read, given its statements between the declarations and the result. -/
theorem function_program {v : Option String} {l : Layout} {s t : Tokens} {cs cs' rest : List Char}
    (h : Splices nestingLimit (l.body v) s (.before (Piece.locate ProgramText.foot rest) t))
    {k : Nat} (hk : s.left < k + 4) :
    Reader.function (k + 4) (nested (k + 4) nestingLimit) true
      (.before (Piece.locate (ProgramText.head (v.getD Settings.defaultVariable)) cs)
        (.before (Piece.locate ProgramText.declarations cs') s)) = .ok (l.program v, t) := by
  have hle := h.left
  rw [Tokens.left_before_locate] at hle
  change (l.body v).length + (4 + t.left) ≤ s.left at hle
  obtain ⟨n, hn⟩ : ∃ n, k + 3 = (l.body v).length + (n + 2) := ⟨k + 1 - (l.body v).length, by omega⟩
  have hfoot : statements (nested (k + 4) nestingLimit) false (n + 2)
      (.before (Piece.locate ProgramText.foot rest) t) = .ok ([ProgramText.result], t) :=
    statements_cons Token.noConfusion Token.noConfusion (ProgramText.statement_foot k 119 rest t) rfl
  have hbody := h.read k (Nat.le_of_lt hk) (n + 2)
  rw [← hn, hfoot] at hbody
  have hall : statements (nested (k + 4) nestingLimit) false (k + 4)
      (.before (Piece.locate ProgramText.declarations cs') s) = .ok ((l.program v).body, t) :=
    statements_cons Token.noConfusion Token.noConfusion
      (ProgramText.statement_declarations k 119 cs' s) hbody
  refine (ProgramText.function_head k 120 _ _ _).trans ?_
  change (statements (nested (k + 4) nestingLimit) false (k + 4) _).map _ = _
  rw [hall]
  rfl

/-- The text of a program is read as the tree of its layout. -/
theorem ofText?_program {v : Option String} (hv : ∀ w, v = some w → isIdentifier w = true)
    {l : Layout} (h : l.Reads (Part.levels v - 6)) :
    Function.ofText? (Piece.print (ProgramText.head (v.getD Settings.defaultVariable) ++
      ProgramText.declarations) ++ (l.innerText v ++ Piece.print ProgramText.foot)) =
        .ok (l.program v) := by
  have hhead := ProgramText.fit_head (ProgramText.isIdentifier_getD hv)
  have hdeclarations : Piece.fit ProgramText.declarations (some '\n') = true := rfl
  have hfoot : Piece.fit ProgramText.foot none = true := rfl
  obtain ⟨last, hlast⟩ : ∃ last, Piece.print ProgramText.foot = '\n' :: last := ⟨_, rfl⟩
  obtain ⟨inner, hinner⟩ : ∃ inner, l.innerText v = '\n' :: inner := by
    cases v <;> exact ⟨_, rfl⟩
  have hend : Cuts ('\n' :: last) (.before (Piece.locate ProgramText.foot []) .finished) := by
    have hprint : Cuts (Piece.print ProgramText.foot ++ []) _ := (Cuts.stop rfl).print hfoot
    rw [List.append_nil, hlast] at hprint
    exact hprint
  obtain ⟨s, hs, hbody⟩ := exists_splices_body h hend
  rw [hinner] at hs
  have hcuts : Cuts (Piece.print (ProgramText.head _) ++ (Piece.print ProgramText.declarations ++ _)) _ :=
    (hs.print hdeclarations).print hhead
  rw [hinner, hlast, Piece.print_append, List.append_assoc]
  refine Function.ofText?_eq_ok hcuts ?_ (function_program (k := 28 + s.left) hbody (by omega)) rfl
  rw [Tokens.left_before_locate, Tokens.left_before_locate]
  change 5 + (26 + s.left) + 1 = 28 + s.left + 4
  omega

end Layout

namespace Compiled

/-- A template compiles if each of its parts is read alone, and its program is put together from the
trees of the parts. With the default patterns every template is some steps. -/
theorem ofTemplate_parts (text : String) (s : Settings) :
    (s.HasDefaultPatterns → ∃ found, steps text.toList s = .ok found) ∧
    ∀ ps : List Part, (∀ v, s.variableName = some v → isIdentifier v = true) →
      steps text.toList s = .ok (ps.map Part.step) → (∀ p ∈ ps, p.Reads s.variableName) →
      ∃ c, ofTemplate text s = .ok c ∧ c.program = (Layout.ofParts ps).program s.variableName := by
  constructor
  · intro hpatterns
    rw [steps, hpatterns.ofSettings]
    exact ⟨_, rfl⟩
  · intro ps hv hsteps hreads
    have hread := Layout.ofText?_program hv (Layout.reads_ofParts hreads)
    have hsource : Function.parse (String.ofList (Source.ofInstructions s (ps.map Part.step))) =
        .ok ((Layout.ofParts ps).program s.variableName) := by
      rw [Function.parse, String.toList_ofList, Layout.ofInstructions_eq, Settings.boundVariable,
        hread]
    refine ⟨⟨String.ofList (Source.ofInstructions s (ps.map Part.step)),
      (Layout.ofParts ps).program s.variableName⟩, ?_, rfl⟩
    rw [ofTemplate, hsteps]
    dsimp only
    rw [ofSource, hsource]
    rfl

/-- A sequence of expressions keeps its grouping, and a call ends before the text that is appended
after it. -/
theorem ofTemplate_parts_sequence :
    ∃ c, ofTemplate "Hi <%- a, b %>!<% x() %>" Settings.default = .ok c ∧
      c.program = ⟨none, ["obj"], none, [ProgramText.declaration,
        ProgramText.inScope [
          .expression (.assign (some .add) (.identifier "__p") (.binary .add (.binary .add
            (.string "Hi ") (Shown.tree ⟨true, " a, b ".toList,
              .sequence [.identifier "a", .identifier "b"]⟩)) (.string "!"))),
          .expression (.call (.identifier "x") []),
          .expression (.assign (some .add) (.identifier "__p") (.string ""))],
        ProgramText.result]⟩ := by
  have hsteps : steps "Hi <%- a, b %>!<% x() %>".toList Settings.default =
      .ok [.literal "Hi ".toList, .escaped " a, b ".toList, .literal ['!'],
        .execute " x() ".toList] := by
    decide +kernel
  let shown : Shown := ⟨true, " a, b ".toList, .sequence [.identifier "a", .identifier "b"]⟩
  let ps : List Part := [.literal "Hi ".toList, .shown shown, .literal ['!'],
    .statements " x() ".toList [.expression (.call (.identifier "x") [])]]
  have htokens : Lexer.tokens " a, b ".toList = .ok [⟨.identifier "a", false, "a, b ".toList⟩,
      ⟨.punctuator .comma, false, ", b ".toList⟩, ⟨.identifier "b", false, "b ".toList⟩,
      ⟨.endOfInput, true, []⟩] := rfl
  have hshown : Part.Reads none (.shown shown) :=
    ⟨by decide +kernel, by rw [Expr.ofText?, Reader.alone, htokens]; rfl⟩
  have hstatements : Stmt.listOfText? (Part.levels none) " x() ".toList =
      .ok [.expression (.call (.identifier "x") [])] := rfl
  have hreads : ∀ p ∈ ps, p.Reads none := List.forall_mem_cons.mpr ⟨trivial,
    List.forall_mem_cons.mpr ⟨hshown, List.forall_mem_cons.mpr ⟨trivial,
      List.forall_mem_singleton.mpr hstatements⟩⟩⟩
  exact (ofTemplate_parts _ _).2 ps (fun v hv => by cases hv) hsteps hreads

end Compiled

end Microtemplate
