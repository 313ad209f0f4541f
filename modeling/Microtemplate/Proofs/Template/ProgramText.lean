import Microtemplate.Proofs.Script.Lexing
import Microtemplate.Proofs.Template.PlainText

/-!
The program of a template whose regions name fields, as a row of lexemes. Such a template is a text
and then slots, each of them a field with the text after it; its program appends one long sum.
-/

namespace Microtemplate

open Script
open Source (escapeLiteral)

/-- A field of the data where a template shows it, with the text after it. -/
structure Slot where
  escaped : Bool
  name : String
  after : List Char

namespace Script

/-- A character of an identifier goes on after no punctuator. -/
theorem closedBy_of_isIdentifierStart {c : Char} (h : isIdentifierStart c = true)
    (p : Punctuator) : p.closedBy c = true := by
  have hmarks : ∀ q : Punctuator, (q.chars.all fun d => !isIdentifierStart d) = true := by
    intro q
    cases q <;> decide
  rw [Punctuator.closedBy, isDigit_of_isIdentifierStart h, Bool.not_false, Bool.true_and,
    List.all_eq_true]
  intro q _
  refine (Bool.not_eq_true' _).mpr (Bool.eq_false_iff.mpr fun hprefix => ?_)
  have hmem : c ∈ q.chars := (List.isPrefixOf_iff_prefix.mp hprefix).subset (by simp)
  have hnot := List.all_eq_true.mp (hmarks q) c hmem
  rw [h] at hnot
  cases hnot

theorem exists_toList_of_isIdentifier {name : String} (h : isIdentifier name = true) :
    ∃ c cs, name.toList = c :: cs ∧ isIdentifierStart c = true :=
  exists_isIdentifierStart (Bool.and_eq_true_iff.mp h).1

/-- Where an identifier follows, an identifier and a text may come after any mark. -/
theorem fits_mark_of_isIdentifier {p : Punctuator} (hp : p.chars.head? ≠ some '/') {name : String}
    (h : isIdentifier name = true) (rest : List Char) :
    (Lexeme.mark p).fits (name.toList ++ rest).head? = true := by
  obtain ⟨c, cs, hname, hstart⟩ := exists_toList_of_isIdentifier h
  simp [Lexeme.fits, hname, closedBy_of_isIdentifierStart hstart, hp]

end Script

namespace Slot

/-- How a field is named: as it is, or as a property of the variable that holds the data. -/
def reference : Option String → String → List Piece
  | none, name => [⟨.blank, .identifier name⟩]
  | some v, name => [⟨.blank, .identifier v⟩, ⟨.tight, .mark .dot⟩, ⟨.tight, .identifier name⟩]

/-- The pieces of a slot before the name of its field. -/
def opening : List Piece :=
  [⟨.tight, .mark .plus⟩, ⟨.line, .mark .leftParen⟩, ⟨.tight, .mark .leftParen⟩,
    ⟨.tight, .identifier "__t"⟩, ⟨.tight, .mark .assign⟩, ⟨.tight, .mark .leftParen⟩]

/-- The pieces of a slot between the name of its field and the value that is appended. -/
def test : List Piece :=
  [⟨.blank, .mark .rightParen⟩, ⟨.tight, .mark .rightParen⟩, ⟨.tight, .mark .equal⟩,
    ⟨.tight, .keyword .nullWord⟩, ⟨.tight, .mark .question⟩, ⟨.tight, .quoted []⟩,
    ⟨.tight, .mark .colon⟩]

/-- The pieces of the value that a slot appends. -/
def value : Bool → List Piece
  | true => [⟨.tight, .identifier "_"⟩, ⟨.tight, .mark .dot⟩, ⟨.tight, .identifier "escape"⟩,
      ⟨.tight, .mark .leftParen⟩, ⟨.tight, .identifier "__t"⟩, ⟨.tight, .mark .rightParen⟩]
  | false => [⟨.tight, .identifier "__t"⟩]

/-- The pieces of a slot after its value, before the text that is appended next. -/
def closing : List Piece := [⟨.tight, .mark .rightParen⟩, ⟨.tight, .mark .plus⟩]

variable (v : Option String) (s : Slot)

/-- The pieces of a slot in the program. -/
def pieces : List Piece :=
  opening ++ (reference v s.name ++ (test ++ (value s.escaped ++
    (closing ++ [⟨.line, .quoted s.after⟩]))))

/-- A slot as a region of a template. -/
def insert : Insert where
  region := if s.escaped then .escape else .interpolate
  code := Piece.print (reference v s.name) ++ [' ']
  after := s.after

/-- The fields of a slot are names that can stand where they stand. -/
structure Named : Prop where
  name : isIdentifier s.name = true
  after : ¬ ['<', '%'] <:+: s.after

variable {v : Option String} (hv : ∀ w, v = some w → isIdentifier w = true)

include hv

theorem not_mem_reference {name : String} (h : isIdentifier name = true) :
    '%' ∉ Piece.print (reference v name) := by
  have hname : ∀ n : String, isIdentifier n = true → '%' ∉ n.toList := by
    intro n hn hmem
    have hpart := List.all_eq_true.mp (isIdentifierPart_of_isWord (Bool.and_eq_true_iff.mp hn).1) _ hmem
    revert hpart
    decide
  cases v with
  | none => simp [reference, Piece.print, Piece.chars, Spacing.chars, Lexeme.chars, hname name h]
  | some w =>
    simp [reference, Piece.print, Piece.chars, Spacing.chars, Lexeme.chars, hname name h,
      hname w (hv w rfl), Punctuator.chars]

theorem insert_plain {s : Slot} (h : s.Named) : (s.insert v).Plain where
  region := by
    unfold insert
    split
    · exact nofun
    · exact nofun
  code := by simp [insert]
  percent := by
    have hname := not_mem_reference hv h.name
    simp [insert, hname]
  after := h.after

theorem fit_reference {name : String} (h : isIdentifier name = true) :
    Piece.fit (reference v name) (some ' ') = true := by
  have hblank : isIdentifierPart ' ' = false := by decide
  have hdot : isIdentifierPart '.' = false := by decide
  cases v with
  | none => simp [reference, Piece.fit, Piece.print, Lexeme.fits, h, hblank]
  | some w =>
    have hmark := fits_mark_of_isIdentifier (p := .dot) (by decide) h [' ']
    have hw := hv w rfl
    refine Bool.and_eq_true_iff.mpr ⟨?_, Bool.and_eq_true_iff.mpr ⟨?_, ?_⟩⟩
    · simp [Piece.print, Piece.chars, Spacing.chars, Lexeme.chars, Punctuator.chars, Lexeme.fits,
        hw, hdot]
    · rw [List.head?_append] at hmark
      simpa [Piece.print, Piece.chars, Spacing.chars, Lexeme.chars] using hmark
    · simp [Piece.fit, Piece.print, Lexeme.fits, h, hblank]

theorem fit_pieces {s : Slot} (h : s.Named) (next : Option Char) :
    Piece.fit (s.pieces v) next = true := by
  have hreference := fit_reference hv h.name
  have hvalue : Piece.fit (value s.escaped) (some ')') = true := by
    cases s.escaped <;> rfl
  have htest : ∀ more, Piece.fit test ((Piece.print (value s.escaped ++ more)).head?.or next) = true := by
    intro more
    cases s.escaped <;> exact (rfl : Piece.fit test (some '_') = true)
  have hopening : Piece.fit opening (some ' ') = true := rfl
  have hclosing : Piece.fit closing (some '\n') = true := rfl
  have hfirst : ∀ more, (Piece.print (reference v s.name ++ more)).head? = some ' ' := by
    intro more
    cases v <;> rfl
  rw [pieces, Piece.fit_append, Piece.fit_append, Piece.fit_append, Piece.fit_append,
    Piece.fit_append, hfirst, htest]
  simp only [Bool.and_eq_true]
  exact ⟨hopening, hreference, trivial, hvalue, hclosing, rfl⟩

omit hv in
theorem flatMap_step_ofGap (text : List Char) :
    (Instruction.ofGap text).flatMap Source.step = escapeLiteral text := by
  cases text with
  | nil => rfl
  | cons c cs => exact List.append_nil _

omit hv in
/-- The step of a region is printed as the pieces of a slot, between the end of one string and the
start of another. -/
theorem step_ofRegion (escaped : Bool) (code : List Char) :
    Source.step (Instruction.ofRegion (if escaped then .escape else .interpolate)
        (code ++ [' '])) =
      '\'' :: (Piece.print opening ++ (code ++
        (Piece.print (test ++ (value escaped ++ closing)) ++ ['\n', '\'']))) := by
  have hopening : "'+\n((__t=(".toList = '\'' :: Piece.print opening := rfl
  have hescaped : [' '] ++ "))==null?'':_.escape(__t))+\n'".toList =
      Piece.print (test ++ (value true ++ closing)) ++ ['\n', '\''] := rfl
  have hraw : [' '] ++ "))==null?'':__t)+\n'".toList =
      Piece.print (test ++ (value false ++ closing)) ++ ['\n', '\''] := rfl
  cases escaped with
  | true =>
    change "'+\n((__t=(".toList ++ (code ++ [' ']) ++ "))==null?'':_.escape(__t))+\n'".toList = _
    rw [← hescaped, hopening, List.append_assoc, List.append_assoc, List.cons_append]
  | false =>
    change "'+\n((__t=(".toList ++ (code ++ [' ']) ++ "))==null?'':__t)+\n'".toList = _
    rw [← hraw, hopening, List.append_assoc, List.append_assoc, List.cons_append]

omit hv in
/-- A slot ends the string before it, and a string with the text after it is left open. -/
theorem print_pieces (s : Slot) : '\'' :: Piece.print (s.pieces v) =
    (s.insert v).steps.flatMap Source.step ++ ['\''] := by
  have hsteps : (s.insert v).steps.flatMap Source.step =
      Source.step (Instruction.ofRegion (if s.escaped then .escape else .interpolate)
        (Piece.print (reference v s.name) ++ [' '])) ++ escapeLiteral s.after := by
    rw [Insert.steps, List.flatMap_cons, flatMap_step_ofGap]
    rfl
  rw [hsteps, step_ofRegion, pieces]
  simp only [Piece.print_append, Piece.print_quoted, Spacing.chars, List.append_assoc,
    List.cons_append, List.nil_append]

omit hv in
theorem print_flatMap_pieces (slots : List Slot) :
    '\'' :: Piece.print (slots.flatMap (pieces v)) =
      (slots.flatMap fun s => (s.insert v).steps).flatMap Source.step ++ ['\''] := by
  induction slots with
  | nil => rfl
  | cons s slots ih =>
    calc
      '\'' :: Piece.print ((s :: slots).flatMap (pieces v)) = ('\'' :: Piece.print (s.pieces v)) ++ Piece.print (slots.flatMap (pieces v)) := by
          rw [List.flatMap_cons, Piece.print_append, List.cons_append]
      _ = (s.insert v).steps.flatMap Source.step ++
            ('\'' :: Piece.print (slots.flatMap (pieces v))) := by
          rw [print_pieces, List.append_assoc, List.singleton_append]
      _ = _ := by
          rw [ih, List.flatMap_cons, List.flatMap_append, List.append_assoc]

end Slot

namespace ProgramText

/-- The pieces of a program up to the brace that opens it. -/
def head (parameter : String) : List Piece :=
  [⟨.tight, .keyword .functionWord⟩, ⟨.tight, .mark .leftParen⟩] ++
    ([⟨.tight, .identifier parameter⟩] ++
      [⟨.tight, .mark .rightParen⟩, ⟨.tight, .mark .leftBrace⟩])

/-- The pieces of the declarations at the start of a program. -/
def declarations : List Piece :=
  [⟨.line, .keyword .varWord⟩, ⟨.blank, .identifier "__t"⟩, ⟨.tight, .mark .comma⟩,
    ⟨.tight, .identifier "__p"⟩, ⟨.tight, .mark .assign⟩, ⟨.tight, .quoted []⟩,
    ⟨.tight, .mark .comma⟩, ⟨.tight, .identifier "print"⟩, ⟨.tight, .mark .assign⟩,
    ⟨.tight, .keyword .functionWord⟩, ⟨.tight, .mark .leftParen⟩, ⟨.tight, .mark .ellipsis⟩,
    ⟨.tight, .identifier "__a"⟩, ⟨.tight, .mark .rightParen⟩, ⟨.tight, .mark .leftBrace⟩,
    ⟨.tight, .identifier "__p"⟩, ⟨.tight, .mark .plusAssign⟩, ⟨.tight, .identifier "__a"⟩,
    ⟨.tight, .mark .dot⟩, ⟨.tight, .identifier "join"⟩, ⟨.tight, .mark .leftParen⟩,
    ⟨.tight, .quoted []⟩, ⟨.tight, .mark .rightParen⟩, ⟨.tight, .mark .semicolon⟩,
    ⟨.tight, .mark .rightBrace⟩, ⟨.tight, .mark .semicolon⟩]

/-- The pieces with which the scope of the data begins. -/
def entering : List Piece :=
  [⟨.line, .keyword .withWord⟩, ⟨.tight, .mark .leftParen⟩, ⟨.tight, .identifier "obj"⟩,
    ⟨.tight, .mark .orOr⟩, ⟨.tight, .mark .leftBrace⟩, ⟨.tight, .mark .rightBrace⟩,
    ⟨.tight, .mark .rightParen⟩, ⟨.tight, .mark .leftBrace⟩]

/-- The pieces with which the scope of the data ends. -/
def leaving : List Piece := [⟨.line, .mark .rightBrace⟩]

/-- The pieces of the statement that appends a text and slots. -/
def statement (v : Option String) (lead : List Char) (slots : List Slot) : List Piece :=
  [⟨.line, .identifier "__p"⟩, ⟨.tight, .mark .plusAssign⟩, ⟨.tight, .quoted lead⟩] ++
    (slots.flatMap (Slot.pieces v) ++ [⟨.tight, .mark .semicolon⟩])

/-- The pieces at the end of a program. -/
def foot : List Piece :=
  [⟨.line, .keyword .returnWord⟩, ⟨.blank, .identifier "__p"⟩, ⟨.tight, .mark .semicolon⟩,
    ⟨.line, .mark .rightBrace⟩]

/-- The pieces of a program after its declarations. Where no variable holds the data, its fields
are names. -/
def body : Option String → List Char → List Slot → List Piece
  | none, lead, slots => entering ++ (statement none lead slots ++ (leaving ++ foot))
  | some v, lead, slots => statement (some v) lead slots ++ foot

/-- The pieces of a program that appends a text and slots. -/
def pieces (v : Option String) (lead : List Char) (slots : List Slot) : List Piece :=
  head (v.getD Settings.defaultVariable) ++ (declarations ++ body v lead slots)

theorem print_head (parameter : String) :
    "function(".toList ++ parameter.toList ++ ")\x7b\n".toList ++ Source.header =
      Piece.print (head parameter ++ declarations) ++ ['\n'] := by
  have hopen : "function(".toList =
      Piece.print [⟨.tight, .keyword .functionWord⟩, ⟨.tight, .mark .leftParen⟩] := rfl
  have hclose : ")\x7b\n".toList ++ Source.header =
      Piece.print ([⟨.tight, .mark .rightParen⟩, ⟨.tight, .mark .leftBrace⟩] ++ declarations) ++
        ['\n'] := rfl
  have hparameter : Piece.print [⟨.tight, .identifier parameter⟩] = parameter.toList := by
    simp [Piece.print, Piece.chars, Spacing.chars, Lexeme.chars]
  simp only [head, Piece.print_append, hparameter, ← hopen, List.append_assoc] at hclose ⊢
  rw [hclose]

theorem print_entering : '\n' :: "with(obj||\x7b\x7d)\x7b\n".toList =
    Piece.print entering ++ ['\n'] := rfl

theorem print_leaving : '\n' :: "\x7d\n".toList = Piece.print leaving ++ ['\n'] := rfl

theorem print_foot : '\n' :: ("return __p;\n".toList ++ ['\x7d']) = Piece.print foot := rfl

/-- The statements that append a text, with the quotes around it. -/
theorem statements_eq (steps : List Instruction) : '\n' :: Source.statements steps =
    Piece.print [⟨.line, .identifier "__p"⟩, ⟨.tight, .mark .plusAssign⟩] ++
      '\'' :: (steps.flatMap Source.step ++
        '\'' :: (Piece.print [⟨.tight, .mark .semicolon⟩] ++ ['\n'])) := by
  have hopen : '\n' :: "__p+='".toList =
      Piece.print [⟨.line, .identifier "__p"⟩, ⟨.tight, .mark .plusAssign⟩] ++ ['\''] := rfl
  have hclose : "';\n".toList =
      '\'' :: (Piece.print [⟨.tight, .mark .semicolon⟩] ++ ['\n']) := rfl
  have hassoc : ∀ first last printed closed : List Char, '\n' :: first = printed ++ ['\''] →
      last = closed → '\n' :: (first ++ steps.flatMap Source.step ++ last) =
        printed ++ '\'' :: (steps.flatMap Source.step ++ closed) := by
    intro first last printed closed h hlast
    rw [List.append_assoc, ← List.cons_append, h, List.append_assoc, List.singleton_append, hlast]
  exact hassoc _ _ _ _ hopen hclose

/-- The statements of a text and slots, between the ends of two lines. -/
theorem print_statement (v : Option String) (lead : List Char) (slots : List Slot) :
    '\n' :: Source.statements
        (Instruction.ofGap lead ++ slots.flatMap fun s => (s.insert v).steps) =
      Piece.print (statement v lead slots) ++ ['\n'] := by
  have hprint : Piece.print (statement v lead slots) =
      Piece.print [⟨.line, .identifier "__p"⟩, ⟨.tight, .mark .plusAssign⟩] ++
        Piece.print [⟨.tight, .quoted lead⟩] ++ Piece.print (slots.flatMap (Slot.pieces v)) ++
          Piece.print [⟨.tight, .mark .semicolon⟩] := by
    rw [← Piece.print_append, ← Piece.print_append, ← Piece.print_append]
    simp [statement]
  -- the quote after the last text is that of the statement
  have hlast : ∀ more, (slots.flatMap fun s => (s.insert v).steps).flatMap Source.step ++
      '\'' :: more = '\'' :: (Piece.print (slots.flatMap (Slot.pieces v)) ++ more) := by
    intro more
    rw [← List.cons_append, Slot.print_flatMap_pieces, List.append_assoc, List.singleton_append]
  rw [statements_eq, hprint, List.flatMap_append, Slot.flatMap_step_ofGap, Piece.print_quoted]
  simp only [Spacing.chars, List.append_assoc, List.cons_append, List.nil_append, hlast]

/-- A text printed after the end of a line ends a line in turn. -/
theorem line_append {text printed : List Char} (h : '\n' :: text = printed ++ ['\n'])
    (more : List Char) : '\n' :: (text ++ more) = printed ++ '\n' :: more := by
  rw [← List.cons_append, h, List.append_assoc, List.singleton_append]

/-- The parts of a program, each of which is printed from the end of a line on. -/
theorem append_lines {first parameter opened declared inner last brace head printed foot : List Char}
    (hhead : first ++ parameter ++ opened ++ declared = head ++ ['\n'])
    (hinner : '\n' :: inner = printed ++ ['\n']) (hfoot : '\n' :: (last ++ brace) = foot) :
    first ++ parameter ++ opened ++ (declared ++ inner ++ last) ++ brace =
      head ++ (printed ++ foot) := by
  have hassoc : first ++ parameter ++ opened ++ (declared ++ inner ++ last) ++ brace =
      (first ++ parameter ++ opened ++ declared) ++ (inner ++ (last ++ brace)) := by
    simp only [List.append_assoc]
  rw [hassoc, hhead, List.append_assoc, List.singleton_append, ← hfoot, line_append hinner]

/-- The text of a program, given what stands between its declarations and its last statement. -/
theorem program_eq (parameter : String) {inner printed : List Char}
    (h : '\n' :: inner = printed ++ ['\n']) :
    Source.program parameter.toList (Source.header ++ inner ++ "return __p;\n".toList) =
      Piece.print (head parameter ++ declarations) ++ (printed ++ Piece.print foot) :=
  append_lines (print_head parameter) h print_foot

/-- The program of a template is the text of its pieces. -/
theorem ofInstructions_eq_print (s : Settings) (lead : List Char) (slots : List Slot) :
    Source.ofInstructions s
        (Instruction.ofGap lead ++ slots.flatMap fun x => (x.insert s.variableName).steps) =
      Piece.print (pieces s.variableName lead slots) := by
  have hstatement := print_statement s.variableName lead slots
  cases hv : s.variableName with
  | none =>
    rw [hv] at hstatement
    have hscope := line_append print_entering (Source.statements (Instruction.ofGap lead ++
      slots.flatMap fun x => (x.insert none).steps) ++ "\x7d\n".toList)
    rw [line_append hstatement, print_leaving, ← List.append_assoc, ← List.append_assoc,
      ← List.append_assoc] at hscope
    have hprogram := program_eq s.boundVariable hscope
    rw [Source.ofInstructions, hv]
    refine hprogram.trans ?_
    simp only [pieces, body, Settings.boundVariable, hv, Option.getD_none, Piece.print_append,
      List.append_assoc]
  | some v =>
    rw [hv] at hstatement
    have hprogram := program_eq s.boundVariable hstatement
    rw [Source.ofInstructions, hv]
    refine hprogram.trans ?_
    simp only [pieces, body, Settings.boundVariable, hv, Option.getD_some, Piece.print_append,
      List.append_assoc]

/-- The parameter of a program is an identifier if the variable that is asked for is one. -/
theorem isIdentifier_getD {v : Option String} (hv : ∀ w, v = some w → isIdentifier w = true) :
    isIdentifier (v.getD Settings.defaultVariable) = true := by
  cases v with
  | none => rfl
  | some w => exact hv w rfl

theorem fit_head {parameter : String} (h : isIdentifier parameter = true) :
    Piece.fit (head parameter) (some '\n') = true := by
  have hopen := fits_mark_of_isIdentifier (p := .leftParen) (by decide) h [')', '\x7b']
  have hkeyword : (Lexeme.keyword .functionWord).fits (some '(') = true := by decide
  have hclose : Piece.fit [⟨.tight, .mark .rightParen⟩, ⟨.tight, .mark .leftBrace⟩]
      (some '\n') = true := rfl
  have hend : isIdentifierPart ')' = false := by decide
  have hprint : Piece.print ([⟨.tight, .identifier parameter⟩] ++
      [⟨.tight, .mark .rightParen⟩, ⟨.tight, .mark .leftBrace⟩]) =
        parameter.toList ++ [')', '\x7b'] := by
    simp [Piece.print, Piece.chars, Spacing.chars, Lexeme.chars, Punctuator.chars]
  obtain ⟨c, cs, hname, -⟩ := exists_toList_of_isIdentifier h
  rw [hname] at hopen hprint
  rw [head, Piece.fit_append, Piece.fit_append, hprint]
  simp only [Bool.and_eq_true]
  refine ⟨Bool.and_eq_true_iff.mpr ⟨hkeyword, Bool.and_eq_true_iff.mpr ⟨hopen, rfl⟩⟩, ?_, hclose⟩
  simp [Piece.fit, Piece.print, Piece.chars, Spacing.chars, Lexeme.chars, Punctuator.chars,
    Lexeme.fits, h, hend]

variable {v : Option String} (hv : ∀ w, v = some w → isIdentifier w = true)

include hv

theorem fit_statement (lead : List Char) {slots : List Slot} (h : ∀ s ∈ slots, s.Named) :
    Piece.fit (statement v lead slots) (some '\n') = true := by
  have hopen : Piece.fit [⟨.line, .identifier "__p"⟩, ⟨.tight, .mark .plusAssign⟩] (some '\'') =
      true := rfl
  have hclose : Piece.fit [⟨.tight, .mark .semicolon⟩] (some '\n') = true := rfl
  have hslots : ∀ next, Piece.fit (slots.flatMap (Slot.pieces v)) next = true := by
    intro next
    induction slots with
    | nil => rfl
    | cons s slots ih =>
      rw [List.flatMap_cons, Piece.fit_append, Slot.fit_pieces hv (h s (List.mem_cons_self ..)),
        ih fun x hx => h x (List.mem_cons_of_mem s hx)]
      rfl
  have hsplit : statement v lead slots =
      [⟨.line, .identifier "__p"⟩, ⟨.tight, .mark .plusAssign⟩] ++ ([⟨.tight, .quoted lead⟩] ++
        (slots.flatMap (Slot.pieces v) ++ [⟨.tight, .mark .semicolon⟩])) := rfl
  rw [hsplit, Piece.fit_append, Piece.fit_append, Piece.fit_append]
  simp only [Bool.and_eq_true]
  exact ⟨hopen, rfl, hslots _, hclose⟩

/-- The pieces of a program end where the next ones start. -/
theorem fit_pieces (lead : List Char) {slots : List Slot} (h : ∀ s ∈ slots, s.Named) :
    Piece.fit (pieces v lead slots) none = true := by
  have hstatement := fit_statement hv lead h
  have hfoot : Piece.fit foot none = true := rfl
  have hdeclarations : Piece.fit declarations (some '\n') = true := rfl
  have hhead := fit_head (isIdentifier_getD hv)
  cases v with
  | none =>
    have hentering : Piece.fit entering (some '\n') = true := rfl
    have hleaving : Piece.fit leaving (some '\n') = true := rfl
    rw [pieces, body, Piece.fit_append, Piece.fit_append, Piece.fit_append, Piece.fit_append,
      Piece.fit_append]
    simp only [Bool.and_eq_true]
    exact ⟨hhead, hdeclarations, hentering, hstatement, hleaving, hfoot⟩
  | some w =>
    rw [pieces, body, Piece.fit_append, Piece.fit_append, Piece.fit_append]
    simp only [Bool.and_eq_true]
    exact ⟨hhead, hdeclarations, hstatement, hfoot⟩

end ProgramText

end Microtemplate
