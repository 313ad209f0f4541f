import Microtemplate.Proofs.Template.ProgramTree

/-!
Templates in which one region opens a loop over the field `items` and another one closes it. The
program of such a template appends the body of the loop inside it.
-/

namespace Microtemplate

open Script
open Reader (nested)
open Source (escapeLiteral)

/-- The ways to go through the elements of the field. -/
inductive Loop where
  | forOf
  | each
  | forEach

namespace Loop

/-- The code of the region that opens the loop. -/
def opening : Loop → String
  | forOf => " for (var x of items) \x7b "
  | each => " _.each(items, function(x) \x7b "
  | forEach => " items.forEach(function(x) \x7b "

/-- The code of the region that closes the loop. -/
def closing : Loop → String
  | forOf => " \x7d "
  | each => " \x7d) "
  | forEach => " \x7d); "

/-- A template whose loop shows each element between two texts. -/
def template (l : Loop) (before after : String) : String :=
  "<%" ++ l.opening ++ "%>" ++ before ++ "<%- x %>" ++ after ++ "<%" ++ l.closing ++ "%>"

/-- The place in the loop where the element is shown. -/
def slot (after : List Char) : Slot := ⟨true, "x", after⟩

/-- The regions of the template with the texts after them. -/
def inserts (l : Loop) (before after : List Char) : List Insert :=
  [⟨.evaluate, l.opening.toList, before⟩, (slot after).insert none,
    ⟨.evaluate, l.closing.toList, []⟩]

/-- The pieces that open the loop. -/
def openingPieces : Loop → List Piece
  | forOf => [⟨.lineBlank, .keyword .forWord⟩, ⟨.blank, .mark .leftParen⟩,
      ⟨.tight, .keyword .varWord⟩, ⟨.blank, .identifier "x"⟩, ⟨.blank, .identifier "of"⟩,
      ⟨.blank, .identifier "items"⟩, ⟨.tight, .mark .rightParen⟩, ⟨.blank, .mark .leftBrace⟩]
  | each => [⟨.lineBlank, .identifier "_"⟩, ⟨.tight, .mark .dot⟩, ⟨.tight, .identifier "each"⟩,
      ⟨.tight, .mark .leftParen⟩, ⟨.tight, .identifier "items"⟩, ⟨.tight, .mark .comma⟩,
      ⟨.blank, .keyword .functionWord⟩, ⟨.tight, .mark .leftParen⟩, ⟨.tight, .identifier "x"⟩,
      ⟨.tight, .mark .rightParen⟩, ⟨.blank, .mark .leftBrace⟩]
  | forEach => [⟨.lineBlank, .identifier "items"⟩, ⟨.tight, .mark .dot⟩,
      ⟨.tight, .identifier "forEach"⟩, ⟨.tight, .mark .leftParen⟩,
      ⟨.tight, .keyword .functionWord⟩, ⟨.tight, .mark .leftParen⟩, ⟨.tight, .identifier "x"⟩,
      ⟨.tight, .mark .rightParen⟩, ⟨.blank, .mark .leftBrace⟩]

/-- The pieces that close the loop. -/
def closingPieces : Loop → List Piece
  | forOf => [⟨.lineBlank, .mark .rightBrace⟩]
  | each => [⟨.lineBlank, .mark .rightBrace⟩, ⟨.tight, .mark .rightParen⟩]
  | forEach =>
    [⟨.lineBlank, .mark .rightBrace⟩, ⟨.tight, .mark .rightParen⟩, ⟨.tight, .mark .semicolon⟩]

/-- The first pieces of a statement that appends. -/
def appending (spacing : Spacing) : List Piece :=
  [⟨spacing, .identifier "__p"⟩, ⟨.tight, .mark .plusAssign⟩]

/-- The pieces of a statement that appends nothing. -/
def appendingNothing (spacing : Spacing) : List Piece :=
  appending spacing ++ [⟨.tight, .quoted []⟩, ⟨.tight, .mark .semicolon⟩]

/-- The pieces of the body of the loop. -/
def bodyPieces (before after : List Char) : List Piece :=
  appending .blankLine ++ (⟨.tight, .quoted before⟩ ::
    ((slot after).pieces none ++ [⟨.tight, .mark .semicolon⟩]))

/-- The pieces of the loop. -/
def loopPieces (l : Loop) (before after : List Char) : List Piece :=
  l.openingPieces ++ (bodyPieces before after ++ l.closingPieces)

/-- The pieces of the program of the template. -/
def pieces (l : Loop) (before after : List Char) : List Piece :=
  ProgramText.head Settings.defaultVariable ++ (ProgramText.declarations ++
    (ProgramText.entering ++ (appendingNothing .line ++ (l.loopPieces before after ++
      (appendingNothing .blankLine ++ (ProgramText.leaving ++ ProgramText.foot))))))

/-- The body of the loop. -/
def body (before after : List Char) : Stmt := ProgramText.append none before [slot after]

/-- The function that is called for each element. -/
def callback (before after : List Char) : Function := ⟨none, ["x"], none, [body before after]⟩

/-- The statement that is the loop. -/
def stmt (before after : List Char) : Loop → Stmt
  | forOf => .loopOf (.declare .functionWide "x") (.identifier "items") (.block [body before after])
  | each => .expression (.call (.member (.identifier "_") "each")
      [.identifier "items", .function (callback before after)])
  | forEach => .expression (.call (.member (.identifier "items") "forEach")
      [.function (callback before after)])

/-- The tree of the program of the template. -/
def tree (l : Loop) (before after : List Char) : Function where
  name := none
  params := [Settings.defaultVariable]
  rest := none
  body := [ProgramText.declaration, ProgramText.inScope [ProgramText.append none [] [],
    l.stmt before after, ProgramText.append none [] []], ProgramText.result]

/-- The code of a region that opens or closes a loop begins with a blank and is plain. -/
theorem insert_plain {code after : List Char} (hfirst : code.head? = some ' ')
    (hpercent : '%' ∉ code) (hafter : ¬ ['<', '%'] <:+: after) :
    (⟨.evaluate, code, after⟩ : Insert).Plain where
  region _ := by simp [hfirst]
  code := by
    rintro rfl
    cases hfirst
  percent := hpercent
  after := hafter

theorem opening_plain (l : Loop) :
    l.opening.toList.head? = some ' ' ∧ '%' ∉ l.opening.toList := by
  cases l <;> decide +kernel

theorem closing_plain (l : Loop) :
    l.closing.toList.head? = some ' ' ∧ '%' ∉ l.closing.toList := by
  cases l <;> decide +kernel

theorem isIdentifier_x : isIdentifier "x" = true := by decide +kernel

variable (l : Loop) (before after : List Char)

/-- The template is made of its regions and texts. -/
theorem toList_template (before after : String) : (l.template before after).toList =
    (l.inserts before.toList after.toList).flatMap Insert.text := by
  have hshown : "<%- x %>".toList = Region.escape.opening ++ (Piece.print (Slot.reference none "x") ++
      [' '] ++ ['%', '>']) := by decide +kernel
  have hopen : "<%".toList = Region.evaluate.opening := by decide +kernel
  have hclose : "%>".toList = ['%', '>'] := by decide +kernel
  simp only [template, String.toList_append, hshown, hopen, hclose]
  simp [inserts, Insert.text, Insert.tag, Slot.insert, slot]

/-- The regions are found as they stand. -/
theorem inserts_plain (hbefore : ¬ ['<', '%'] <:+: before) (hafter : ¬ ['<', '%'] <:+: after) :
    ∀ i ∈ l.inserts before after, i.Plain := by
  have hslot : (slot after).Named := ⟨isIdentifier_x, hafter⟩
  intro i hi
  simp only [inserts, List.mem_cons, List.not_mem_nil, or_false] at hi
  obtain rfl | rfl | rfl := hi
  · exact insert_plain l.opening_plain.1 l.opening_plain.2 hbefore
  · exact Slot.insert_plain (fun w hw => by cases hw) hslot
  · exact insert_plain l.closing_plain.1 l.closing_plain.2 (by decide)

/-- The texts of the body with the shown element between them, in quotes. -/
theorem print_shown : Piece.print (⟨.tight, .quoted before⟩ :: (slot after).pieces none) =
    '\'' :: (escapeLiteral before ++ (((slot after).insert none).steps.flatMap Source.step ++
      ['\''])) := by
  have hcons : Piece.print (⟨.tight, .quoted before⟩ :: (slot after).pieces none) =
      Piece.print [⟨.tight, .quoted before⟩] ++ Piece.print ((slot after).pieces none) :=
    Piece.print_append [_] _
  rw [hcons, ← Slot.print_pieces, Piece.print_quoted]
  simp [Spacing.chars]

/-- The statements in the scope of the data. -/
theorem statements_inserts : Source.statements ((l.inserts before after).flatMap Insert.steps) =
    "__p+='".toList ++ (Source.step (.execute l.opening.toList) ++ (escapeLiteral before ++
      (((slot after).insert none).steps.flatMap Source.step ++
        (Source.step (.execute l.closing.toList) ++ "';\n".toList)))) := by
  have hsteps : ((l.inserts before after).flatMap Insert.steps).flatMap Source.step =
      Source.step (.execute l.opening.toList) ++ (escapeLiteral before ++
        (((slot after).insert none).steps.flatMap Source.step ++
          Source.step (.execute l.closing.toList))) := by
    have hgap := Slot.flatMap_step_ofGap before
    have hnothing : Instruction.ofGap [] = [] := rfl
    simp [inserts, Insert.steps, Instruction.ofRegion, hgap, hnothing]
  have hassoc : ∀ first opened text shown closed last : List Char,
      first ++ (opened ++ (text ++ (shown ++ closed))) ++ last =
        first ++ (opened ++ (text ++ (shown ++ (closed ++ last)))) := by
    intro first opened text shown closed last
    simp only [List.append_assoc]
  exact (congrArg ("__p+='".toList ++ · ++ "';\n".toList) hsteps).trans (hassoc _ _ _ _ _ _)

/-- The program of the template is the text of its pieces. -/
theorem ofInstructions_eq_print : Source.ofInstructions Settings.default
    ((l.inserts before after).flatMap Insert.steps) = Piece.print (l.pieces before after) := by
  have hopen : '\n' :: ("with(obj||\x7b\x7d)\x7b\n".toList ++ ("__p+='".toList ++
      Source.step (.execute l.opening.toList))) =
        Piece.print (ProgramText.entering ++ (appendingNothing .line ++ (l.openingPieces ++
          appending .blankLine))) ++ ['\''] := by
    cases l <;> rfl
  have hclose : Source.step (.execute l.closing.toList) ++ ("';\n".toList ++ "\x7d\n".toList) =
      '\'' :: (Piece.print (⟨.tight, .mark .semicolon⟩ :: (l.closingPieces ++
        (appendingNothing .blankLine ++ ProgramText.leaving))) ++ ['\n']) := by
    cases l <;> rfl
  -- the quotes around the texts of the body are those of the steps before and after it
  have hquotes : ∀ {scope first opened text shown closed last brace before after statements
      printed : List Char}, statements = first ++ (opened ++ (text ++ (shown ++ (closed ++ last)))) →
      printed = '\'' :: (text ++ (shown ++ ['\''])) →
      '\n' :: (scope ++ (first ++ opened)) = before ++ ['\''] →
      closed ++ (last ++ brace) = '\'' :: (after ++ ['\n']) →
      '\n' :: (scope ++ statements ++ brace) = before ++ (printed ++ after) ++ ['\n'] := by
    intro scope first opened text shown closed last brace before after statements printed
      hstatements hprinted hbefore hafter
    calc
      _ = '\n' :: (scope ++ (first ++ opened)) ++
            (text ++ (shown ++ (closed ++ (last ++ brace)))) := by
          rw [hstatements]
          simp only [List.append_assoc, List.cons_append]
      _ = _ := by
          rw [hbefore, hafter, hprinted]
          simp only [List.append_assoc, List.cons_append, List.nil_append]
  have hinner := hquotes (l.statements_inserts before after) (print_shown before after) hopen hclose
  refine (ProgramText.program_eq Settings.defaultVariable hinner).trans ?_
  simp only [pieces, loopPieces, bodyPieces, ← Piece.print_append, List.append_assoc,
    List.cons_append, List.nil_append]

/-- The pieces of the program end where the next ones start. -/
theorem fit_pieces (hafter : ¬ ['<', '%'] <:+: after) :
    Piece.fit (l.pieces before after) none = true := by
  have hslot : (slot after).Named := ⟨isIdentifier_x, hafter⟩
  have hhead : Piece.fit (ProgramText.head Settings.defaultVariable) (some '\n') = true :=
    ProgramText.fit_head (by decide +kernel)
  have hdeclarations : Piece.fit ProgramText.declarations (some '\n') = true := rfl
  have hentering : Piece.fit ProgramText.entering (some '\n') = true := rfl
  have hnothing : Piece.fit (appendingNothing .line) (some '\n') = true := rfl
  have hopen : Piece.fit l.openingPieces (some ' ') = true := by cases l <;> rfl
  have happending : Piece.fit (appending .blankLine) (some '\'') = true := rfl
  have hclose : Piece.fit (⟨.tight, .mark .semicolon⟩ :: (l.closingPieces ++
      (appendingNothing .blankLine ++ (ProgramText.leaving ++ ProgramText.foot)))) none = true := by
    cases l <;> rfl
  have hshown := Slot.fit_pieces (v := none) (fun w hw => by cases hw) hslot
  have hfirst : ∀ more, (Piece.print (l.openingPieces ++ more)).head? = some '\n' := by
    intro more
    cases l <;> rfl
  have hsplit : l.pieces before after = ProgramText.head Settings.defaultVariable ++
      (ProgramText.declarations ++ (ProgramText.entering ++ (appendingNothing .line ++
        (l.openingPieces ++ (appending .blankLine ++ ([⟨.tight, .quoted before⟩] ++
          ((slot after).pieces none ++ (⟨.tight, .mark .semicolon⟩ :: (l.closingPieces ++
            (appendingNothing .blankLine ++ (ProgramText.leaving ++ ProgramText.foot))))))))))) := by
    simp [pieces, loopPieces, bodyPieces]
  rw [hsplit]
  simp only [Piece.fit_append, Bool.and_eq_true, hclose, hshown, hfirst]
  exact ⟨hhead, hdeclarations, hentering, hnothing, hopen, happending, rfl, trivial, trivial⟩

set_option maxRecDepth 8000 in
/-- The program is read, up to its last brace. -/
theorem function_pieces (k levels : Nat) (t : Tokens) :
    Reader.function (k + 4) (nested (k + 4) (levels + 20)) true
      (.before (Piece.locate (l.pieces before after) []) t) = .ok (l.tree before after, t) := by
  cases l <;> rfl

/-- The program of the template is read as its tree. -/
theorem ofText?_pieces (hafter : ¬ ['<', '%'] <:+: after) :
    Function.ofText? (Piece.print (l.pieces before after)) = .ok (l.tree before after) := by
  have hne : l.pieces before after ≠ [] := List.cons_ne_nil _ _
  refine ProgramText.ofText?_of_function hne (l.fit_pieces before after hafter) fun t => ?_
  obtain ⟨k, hk⟩ : ∃ k, (l.pieces before after).length + 1 = k + 4 := by
    have hhead : (ProgramText.head Settings.defaultVariable).length = 5 := rfl
    have hlength : 5 ≤ (l.pieces before after).length := by
      rw [pieces, List.length_append, hhead]
      exact Nat.le_add_right _ _
    exact ⟨(l.pieces before after).length - 3, by omega⟩
  rw [hk]
  exact l.function_pieces before after k 108 t

/-- The regions and texts of the template are its steps. -/
theorem steps_template (before after : String) (hbefore : ¬ ['<', '%'] <:+: before.toList)
    (hafter : ¬ ['<', '%'] <:+: after.toList) :
    Compiled.steps (l.template before after).toList Settings.default =
      .ok ((l.inserts before.toList after.toList).flatMap Insert.steps) := by
  have hdefault : Settings.default.HasDefaultPatterns := fun _ => rfl
  have hfound := hdefault.steps (l.inserts_plain _ _ hbefore hafter) (by decide : ¬ ['<', '%'] <:+: [])
  have htext := l.toList_template before after
  generalize l.inserts before.toList after.toList = regions at hfound htext ⊢
  rw [htext]
  exact hfound

/-- The template compiles to its tree. -/
theorem ofTemplate_template (before after : String) (hbefore : ¬ ['<', '%'] <:+: before.toList)
    (hafter : ¬ ['<', '%'] <:+: after.toList) : ∃ source,
      Compiled.ofTemplate (l.template before after) Settings.default =
        .ok ⟨source, l.tree before.toList after.toList⟩ := by
  have hsteps := l.steps_template before after hbefore hafter
  have hsource := l.ofInstructions_eq_print before.toList after.toList
  have hprogram := l.ofText?_pieces before.toList after.toList hafter
  generalize l.inserts before.toList after.toList = regions at hsteps hsource
  generalize l.pieces before.toList after.toList = pieces at hsource hprogram
  refine ⟨String.ofList (Piece.print pieces), ?_⟩
  rw [Compiled.ofTemplate, hsteps]
  simp only [hsource, Compiled.ofSource, Function.parse, String.toList_ofList, hprogram]
  rfl

end Loop

end Microtemplate
