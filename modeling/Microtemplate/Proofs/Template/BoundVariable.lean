import Microtemplate.Proofs.Script.CanonicalReading
import Microtemplate.Proofs.Template.Rendering
import Microtemplate.Proofs.Template.SparedNames

/-!
The variable that holds the data. The settings name it in any text, which is put between the
parentheses of the program as it is, so the program has this one parameter only where the text is an
identifier; then the data is bound to it.
-/

namespace Microtemplate

open Script
open Lexer (Cuts)

namespace Script

/-- All names in the head of a function that is read are identifiers. -/
theorem Function.isIdentifier_of_ofText? {cs : List Char} {f : Function}
    (h : Function.ofText? cs = .ok f) : ∀ n ∈ f.params, isIdentifier n = true := by
  obtain ⟨s, -, hcuts, htokens, -⟩ := exists_of_ofText? h
  have hknown : ∀ l ∈ s.toList, ∀ n, l.token = .identifier n → isIdentifier n = true := by
    intro l hl n hname
    rcases hcuts.exists_token l hl with hend | ⟨rest, -, htoken⟩
    · rw [hname] at hend
      cases hend
    · rw [hname] at htoken
      exact Lexer.isIdentifier_of_token htoken
  have hproper : f.Proper fun t => ∀ n, t = .identifier n → isIdentifier n = true :=
    proper_of_ofText? h htokens hknown
  obtain ⟨-, hparams, -, -⟩ := hproper
  exact fun n hn => hparams n hn n rfl

/-- A function has a name only if one follows its keyword. -/
theorem Reader.function_unnamed {limit : Nat} {inner : Nested} {first second : Located}
    {more : List Located} {f : Function} {u : Tokens} (hfirst : first.token = .keyword .functionWord)
    (hsecond : second.token = .punctuator .leftParen)
    (h : function limit inner true ⟨first, second :: more⟩ = .ok (f, u)) : f.name = none := by
  rw [function] at h
  obtain ⟨_, _, hlocated, h⟩ := Parse.bind_eq_ok.mp h
  cases hlocated
  rw [if_pos hfirst] at h
  obtain ⟨_, _, hadvance, h⟩ := Parse.bind_eq_ok.mp h
  cases hadvance
  obtain ⟨_, _, htoken, h⟩ := Parse.bind_eq_ok.mp h
  cases htoken
  dsimp only at h
  rw [hsecond] at h
  obtain ⟨name, _, hname, h⟩ := Parse.bind_eq_ok.mp h
  cases hname
  obtain ⟨_, _, -, h⟩ := Parse.bind_eq_ok.mp h
  obtain ⟨_, _, -, h⟩ := Parse.bind_eq_ok.mp h
  obtain ⟨_, _, -, h⟩ := Parse.bind_eq_ok.mp h
  obtain ⟨_, _, -, h⟩ := Parse.bind_eq_ok.mp h
  cases h
  rfl

/-- The first two tokens of a program, whatever is put between its parentheses. -/
theorem exists_tokens_of_program {parameter body : List Char} {s : Tokens}
    (h : Cuts (Source.program parameter body) s) : ∃ first second more,
      s = ⟨first, second :: more⟩ ∧ first.token = .keyword .functionWord ∧
        second.token = .punctuator .leftParen := by
  have htext : Source.program parameter body = Piece.print [⟨.tight, .keyword .functionWord⟩] ++
      '(' :: (parameter ++ ")\x7b\n".toList ++ body ++ ['\x7d']) := by
    have hassoc : ∀ opening printed parameter opened body closed : List Char,
        opening = printed ++ ['('] → opening ++ parameter ++ opened ++ body ++ closed =
          printed ++ '(' :: (parameter ++ opened ++ body ++ closed) := by
      rintro _ printed parameter opened body closed rfl
      simp only [List.append_assoc, List.cons_append, List.nil_append]
    exact hassoc _ _ _ _ _ _ rfl
  rw [htext] at h
  obtain ⟨t, rfl, ht⟩ := h.of_print rfl
  have hgap := Spacing.tight.skipGap_chars (c := '(') (by decide) (by decide)
    (parameter ++ ")\x7b\n".toList ++ body ++ ['\x7d'])
  obtain ⟨u, rfl, -⟩ := ht.exists_push hgap (List.cons_ne_nil _ _)
    (Lexer.token_parenthesis (.inl rfl) _)
  exact ⟨_, _, _, rfl, rfl, rfl⟩

/-- The function of a program has no name, whatever is put between its parentheses. -/
theorem Function.unnamed_of_program {parameter body : List Char} {f : Function}
    (h : Function.ofText? (Source.program parameter body) = .ok f) : f.name = none := by
  obtain ⟨s, u, hcuts, -, hread⟩ := exists_of_ofText? h
  obtain ⟨first, second, more, rfl, hfirst, hsecond⟩ := exists_tokens_of_program hcuts
  exact Reader.function_unnamed hfirst hsecond hread

/-- A program begins with the pieces of its head. -/
theorem program_eq_head (parameter : String) (body : List Char) :
    Source.program parameter.toList body =
      Piece.print (ProgramText.head parameter) ++ '\n' :: (body ++ ['\x7d']) := by
  have hname : Piece.print [⟨.tight, .identifier parameter⟩] = parameter.toList := by
    simp [Piece.print, Piece.chars, Spacing.chars, Lexeme.chars]
  have hassoc : ∀ first printed last printed' parameter body closed : List Char,
      first = printed → last = printed' ++ ['\n'] → first ++ parameter ++ last ++ body ++ closed =
        printed ++ (parameter ++ printed') ++ '\n' :: (body ++ closed) := by
    rintro _ printed _ printed' parameter body closed rfl rfl
    simp only [List.append_assoc, List.cons_append, List.nil_append]
  rw [ProgramText.head, Piece.print_append, Piece.print_append, hname]
  exact hassoc _ _ _ _ _ _ _ rfl rfl

/-- Where a text begins with the head of a program and further pieces, its function has the parameter
alone, and its statements are read from the tokens of the pieces. -/
theorem Function.statements_of_head {parameter : String} {cs rest : List Char} {ps : List Piece}
    {f : Function} (h : Function.ofText? cs = .ok f)
    (htext : cs = Piece.print (ProgramText.head parameter ++ ps) ++ '\n' :: rest)
    (hfit : Piece.fit (ProgramText.head parameter ++ ps) (some '\n') = true) :
    f = ⟨none, [parameter], none, f.body⟩ ∧ ∃ k t u,
      Reader.statements (Reader.nested (k + 4) nestingLimit) false (k + 4)
        (.before (Piece.locate ps ('\n' :: rest)) t) = .ok (f.body, u) := by
  obtain ⟨s, u, hcuts, -, hread⟩ := exists_of_ofText? h
  rw [htext] at hcuts
  obtain ⟨t, rfl, -⟩ := hcuts.of_print hfit
  have hlength : (ProgramText.head parameter).length = 5 := rfl
  obtain ⟨k, hk⟩ : ∃ k, (Tokens.before (Piece.locate (ProgramText.head parameter ++ ps)
      ('\n' :: rest)) t).left + 1 = k + 4 := by
    rw [Tokens.left_before_locate, List.length_append, hlength]
    exact ⟨2 + ps.length + t.left, by omega⟩
  rw [hk, Tokens.before_locate] at hread
  obtain ⟨⟨body, u'⟩, hbody, heq⟩ :=
    Except.exists_of_map_eq_ok ((ProgramText.function_head k 120 _ _ _).symm.trans hread)
  cases heq
  exact ⟨rfl, k, t, _, hbody⟩

/-- An identifier between the parentheses of a program is its only parameter. -/
theorem Function.head_of_program {parameter : String} {body : List Char} {f : Function}
    (hparameter : isIdentifier parameter = true)
    (h : Function.ofText? (Source.program parameter.toList body) = .ok f) :
    f = ⟨none, [parameter], none, f.body⟩ := by
  have hnil : ProgramText.head parameter ++ [] = ProgramText.head parameter := List.append_nil _
  have hfit : Piece.fit (ProgramText.head parameter ++ []) (some '\n') = true :=
    hnil ▸ ProgramText.fit_head hparameter
  exact (statements_of_head h (hnil ▸ program_eq_head parameter body) hfit).1

/-- Runs the statements of a program whose arguments are declared. -/
def Function.runBody (f : Function) (bound : Nat) : Run String := do
  let v ← (Evaluator.within bound).execBody programContext programFrame f.body
  if v = .undefined then return "" else Run.text v

/-- A program with one parameter runs with the data under the name of this parameter, and with
nothing else in its frame. -/
theorem Function.render_of_parameter (parameter : String) (body : List Stmt) (bound : Nat)
    {j : Json} {data : Value} {base : Store} (hdata : initialStore.addJson j = (data, base)) :
    Function.render ⟨none, [parameter], none, body⟩ bound j =
      ((Function.runBody ⟨none, [parameter], none, body⟩ bound).run.run
        (ProgramText.named base [(parameter, ⟨data, true⟩)])).1 := by
  have hframes : base.frames = (ProgramText.named base []).frames := by
    have hgrown := (addJson_shows j initialStore).1.frames
    rw [hdata] at hgrown
    exact hgrown
  have hstart : base = ProgramText.named base [] := by
    rw [ProgramText.named, ← (show base.frames = #[_, _] from hframes)]
  have harguments := ProgramText.declareArguments_gives base parameter data body
  rw [← hstart] at harguments
  rw [Function.render, hdata]
  exact congrArg Prod.fst (harguments.run_bind _)

end Script

namespace Compiled

variable {text : String} {s : Settings} {c : Compiled}

/-- In the program of a template the function has no name, and its head is the name of the variable
that the settings give the data just if this is an identifier. Only then is it the name that the
compiled template gives, and only then the data, as a whole, is the one binding with which a run of
the program starts. -/
theorem boundVariable_iff (h : ofTemplate text s = .ok c) :
    c.program.name = none ∧
    ((c.program.params = [s.boundVariable] ∧ c.program.rest = none) ↔
      isIdentifier s.boundVariable = true) ∧
    (c.boundVariable = s.boundVariable ↔ isIdentifier s.boundVariable = true) ∧
    (isIdentifier s.boundVariable = true → ∀ bound j data base,
      initialStore.addJson j = (data, base) → c.renderWithin bound j =
        ((c.program.runBody bound).run.run
          (ProgramText.named base [(s.boundVariable, ⟨data, true⟩)])).1) := by
  obtain ⟨steps, -, hread⟩ := exists_of_ofTemplate h
  have hidentifiers := Function.isIdentifier_of_ofText? hread
  have hhead : isIdentifier s.boundVariable = true →
      c.program = ⟨none, [s.boundVariable], none, c.program.body⟩ :=
    fun hparameter => Function.head_of_program hparameter hread
  refine ⟨Function.unnamed_of_program hread, ⟨fun ⟨hparams, _⟩ => ?_, fun hparameter => ?_⟩,
    ⟨fun hsame => ?_, fun hparameter => ?_⟩, fun hparameter bound j data base hdata => ?_⟩
  · exact hidentifiers _ (hparams ▸ List.mem_singleton_self _)
  · rw [hhead hparameter]
    exact ⟨rfl, rfl⟩
  · rw [← hsame, boundVariable]
    cases hparams : c.program.params with
    | nil => rfl
    | cons first more => exact hidentifiers first (hparams ▸ List.mem_cons_self ..)
  · rw [boundVariable, hhead hparameter]
    rfl
  · rw [renderWithin, hhead hparameter]
    exact Function.render_of_parameter _ _ bound hdata

/-- A word is the variable of the program, and two words with a comma between them are not: they are
two parameters, of which the data is the first. -/
theorem boundVariable_iff_of_words :
    (∃ c, ofTemplate "x" (Settings.default.withVariable (some "data")) = .ok c ∧
      c.program.params = ["data"] ∧ c.program.rest = none ∧ c.boundVariable = "data") ∧
    ∃ c, ofTemplate "x" (Settings.default.withVariable (some "a,b")) = .ok c ∧
      c.program.params = ["a", "b"] ∧ c.boundVariable = "a" ∧ c.boundVariable ≠ "a,b" := by
  constructor
  · have hcompiled : ((ofTemplate "x" (Settings.default.withVariable (some "data"))).toOption.map
        fun _ => ()) = some () := by decide +kernel
    cases h : ofTemplate "x" (Settings.default.withVariable (some "data")) with
    | error e =>
      rw [h] at hcompiled
      cases hcompiled
    | ok c =>
      obtain ⟨-, hhead, hvariable, -⟩ := boundVariable_iff h
      obtain ⟨hparams, hrest⟩ := hhead.mpr (by decide +kernel)
      exact ⟨c, rfl, hparams, hrest, hvariable.mpr (by decide +kernel)⟩
  · have hcompiled : ((ofTemplate "x" (Settings.default.withVariable (some "a,b"))).toOption.map
        fun c => (c.program.params, c.boundVariable)) = some (["a", "b"], "a") := by decide +kernel
    cases h : ofTemplate "x" (Settings.default.withVariable (some "a,b")) with
    | error e =>
      rw [h] at hcompiled
      cases hcompiled
    | ok c =>
      rw [h] at hcompiled
      obtain ⟨hparams, hvariable⟩ := Prod.mk.inj (Option.some.inj hcompiled)
      obtain ⟨-, -, hiff, -⟩ := boundVariable_iff h
      refine ⟨c, rfl, hparams, hvariable, fun hsame => ?_⟩
      have hidentifier : isIdentifier "a,b" = true := hiff.mp hsame
      exact absurd hidentifier (by decide +kernel)

end Compiled

end Microtemplate
