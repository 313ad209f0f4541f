import Mathlib.Data.List.Infix
import Microtemplate.Proofs.Script.TokenSpans
import Microtemplate.Proofs.Template.Composition

/-!
Where the words of a program come from: what a template gives stands in the text of its steps, and
around it stands text that is the same for every template. A template mentions a name if an identifier
of its program starts in what the template gives.
-/

namespace Microtemplate

open Script
open Source (step escapeLiteral)
open Lexer (Cuts)

namespace Source

/-- The text of a step in front of what the template gives. -/
def opening : Instruction → List Char
  | .literal _ => []
  | .escaped _ => "'+\n((__t=(".toList
  | .raw _ => "'+\n((__t=(".toList
  | .execute _ => "';\n".toList

/-- What the template gives for a step: code as it is, and other text as it is written in a string. -/
def given : Instruction → List Char
  | .literal text => escapeLiteral text
  | .escaped code => code
  | .raw code => code
  | .execute code => code

/-- The text of a step behind what the template gives. -/
def closing : Instruction → List Char
  | .literal _ => []
  | .escaped _ => "))==null?'':_.escape(__t))+\n'".toList
  | .raw _ => "))==null?'':__t)+\n'".toList
  | .execute _ => "\n__p+='".toList

theorem step_eq (i : Instruction) : step i = opening i ++ (given i ++ closing i) := by
  cases i with
  | literal text => exact (List.append_nil _).symm
  | escaped code => exact List.append_assoc ..
  | raw code => exact List.append_assoc ..
  | execute code => exact List.append_assoc ..

/-- The last line of a program in the scope of the data, from the brace that ends the scope on. -/
def lastLine : List Char := "\x7d\nreturn __p;\n\x7d".toList

/-- The text of a program in the scope of the data after the steps. -/
def ending : List Char := "';\n".toList ++ lastLine

/-- The text of a program in the scope of the data, from the end of its first line on. -/
def inScope (steps : List Instruction) : List Char :=
  "\n__p+='".toList ++ (steps.flatMap step ++ ending)

/-- What is left of a program starts in what the template gives for one of the steps. -/
def Given (steps : List Instruction) (rest : List Char) : Prop :=
  ∃ before i after text, steps = before ++ i :: after ∧ text ≠ [] ∧ text <:+ given i ∧
    rest = text ++ (closing i ++ (after.flatMap step ++ ending))

/-- Everything that is left of a program where it starts in what the template gives. -/
def givenTexts : List Instruction → List (List Char)
  | [] => []
  | i :: steps => ((given i).tails.filter (· ≠ [])).map
      (· ++ (closing i ++ (steps.flatMap step ++ ending))) ++ givenTexts steps

theorem given_iff {steps : List Instruction} {rest : List Char} :
    Given steps rest ↔ rest ∈ givenTexts steps := by
  induction steps with
  | nil =>
    refine ⟨fun ⟨before, i, after, text, hsplit, _⟩ => ?_, nofun⟩
    exact absurd hsplit.symm (by simp)
  | cons i steps ih =>
    rw [givenTexts, List.mem_append, ← ih, List.mem_map]
    constructor
    · rintro ⟨before, j, after, text, hsplit, hne, hsuffix, hrest⟩
      cases before with
      | nil =>
        cases hsplit
        refine .inl ⟨text, List.mem_filter.mpr ⟨(List.mem_tails _ _).mpr hsuffix, ?_⟩, hrest.symm⟩
        exact decide_eq_true hne
      | cons k before =>
        cases hsplit
        exact .inr ⟨before, j, after, text, rfl, hne, hsuffix, hrest⟩
    · rintro (⟨text, htext, hrest⟩ | ⟨before, j, after, text, rfl, hgiven⟩)
      · obtain ⟨htails, hne⟩ := List.mem_filter.mp htext
        exact ⟨[], i, steps, text, rfl, of_decide_eq_true hne, (List.mem_tails _ _).mp htails, hrest.symm⟩
      · exact ⟨i :: before, j, after, text, rfl, hgiven⟩

instance (steps : List Instruction) (rest : List Char) : Decidable (Given steps rest) :=
  decidable_of_iff _ given_iff.symm

/-- The text around what a template gives. -/
def scaffold : List (List Char) :=
  ["\n__p+='".toList, "'+\n((__t=(".toList, "';\n".toList,
    "))==null?'':_.escape(__t))+\n'".toList, "))==null?'':__t)+\n'".toList]

theorem suffix_append_cases {r a b : List Char} (h : r <:+ a ++ b) :
    r <:+ b ∨ ∃ x, x ≠ [] ∧ x <:+ a ∧ r = x ++ b := by
  obtain ⟨before, hbefore⟩ := h
  rcases List.append_eq_append_iff.mp hbefore with ⟨x, ha, hr⟩ | ⟨x, -, hb⟩
  · cases x with
    | nil => exact Or.inl (hr ▸ List.suffix_rfl)
    | cons c x => exact Or.inr ⟨c :: x, List.cons_ne_nil _ _, ⟨before, ha.symm⟩, hr⟩
  · exact Or.inl ⟨x, hb.symm⟩

/-- All text around what a template gives. -/
def surroundings (steps : List Instruction) : List (List Char) :=
  "\n__p+='".toList :: steps.flatMap fun i => [opening i, closing i]

theorem scaffold_of_surroundings {steps : List Instruction} {g : List Char}
    (h : g ∈ surroundings steps) : g = [] ∨ g ∈ scaffold := by
  rcases List.mem_cons.mp h with rfl | h
  · exact .inr (.head _)
  · obtain ⟨i, -, hi⟩ := List.mem_flatMap.mp h
    have hi' : g = opening i ∨ g = closing i := by simpa using hi
    cases i with
    | literal _ => exact .inl (hi'.elim id id)
    | escaped _ =>
      rcases hi' with rfl | rfl
      · exact .inr (.tail _ (.head _))
      · exact .inr (.tail _ (.tail _ (.tail _ (.head _))))
    | raw _ =>
      rcases hi' with rfl | rfl
      · exact .inr (.tail _ (.head _))
      · exact .inr (.tail _ (.tail _ (.tail _ (.tail _ (.head _)))))
    | execute _ =>
      rcases hi' with rfl | rfl
      · exact .inr (.tail _ (.tail _ (.head _)))
      · exact .inr (.head _)

/-- What is left of a program starts in the text after the steps, in what the template gives, or in
the text around that. -/
theorem inScope_cases {steps : List Instruction} {rest : List Char} (h : rest <:+ inScope steps) :
    rest <:+ ending ∨ Given steps rest ∨ ∃ g ∈ surroundings steps, ∃ front text more, text ≠ [] ∧
      g = front ++ text ∧ rest = text ++ more ∧ g ++ more <:+ inScope steps := by
  have hsteps : ∀ before after : List Instruction, steps = before ++ after →
      rest <:+ after.flatMap step ++ ending → rest <:+ ending ∨ Given steps rest ∨
        ∃ g ∈ surroundings steps, ∃ front text more, text ≠ [] ∧ g = front ++ text ∧
          rest = text ++ more ∧ g ++ more <:+ inScope steps := by
    intro before after hafter hrest
    induction after generalizing before with
    | nil => exact Or.inl hrest
    | cons i after ih =>
      have hmem : ∀ g ∈ [opening i, closing i], g ∈ surroundings steps := fun g hg =>
        List.mem_cons_of_mem _ (List.mem_flatMap.mpr ⟨i, by simp [hafter], hg⟩)
      have hsteps : steps.flatMap step ++ ending = before.flatMap step ++
          (opening i ++ (given i ++ (closing i ++ (after.flatMap step ++ ending)))) := by
        rw [hafter, List.flatMap_append, List.flatMap_cons, step_eq, List.append_assoc,
          List.append_assoc, List.append_assoc, List.append_assoc]
      have hlead : ∀ lead : List Char, opening i ++ (given i ++ (closing i ++
          (after.flatMap step ++ ending))) <:+ lead ++ (steps.flatMap step ++ ending) := by
        intro lead
        rw [hsteps]
        exact (List.suffix_append _ _).trans (List.suffix_append _ _)
      have hwhole : opening i ++ (given i ++ (closing i ++ (after.flatMap step ++ ending))) <:+
          inScope steps := hlead _
      rw [List.flatMap_cons, step_eq, List.append_assoc, List.append_assoc, List.append_assoc] at hrest
      rcases suffix_append_cases hrest with hrest | ⟨x, hne, ⟨front, hfront⟩, heq⟩
      · rcases suffix_append_cases hrest with hrest | ⟨x, hne, hx, heq⟩
        · rcases suffix_append_cases hrest with hrest | ⟨x, hne, ⟨front, hfront⟩, heq⟩
          · exact ih (before ++ [i]) (by simp [hafter]) hrest
          · have hclosing : closing i ++ (after.flatMap step ++ ending) <:+ inScope steps :=
              ((List.suffix_append _ _).trans (List.suffix_append _ _)).trans hwhole
            exact Or.inr (Or.inr ⟨closing i, hmem _ (by simp), front, x, _, hne, hfront.symm, heq, hclosing⟩)
        · exact Or.inr (Or.inl ⟨before, i, after, x, hafter, hne, hx, heq⟩)
      · exact Or.inr (Or.inr ⟨opening i, hmem _ (by simp), front, x, _, hne, hfront.symm, heq, hwhole⟩)
  rcases suffix_append_cases h with hrest | ⟨x, hne, ⟨front, hfront⟩, heq⟩
  · exact hsteps [] steps rfl hrest
  · exact Or.inr (Or.inr ⟨_, List.mem_cons_self .., front, x, _, hne, hfront.symm, heq, List.suffix_rfl⟩)

end Source

namespace Script

theorem Tokens.toList_before (ls : List Located) (s : Tokens) :
    (before ls s).toList = ls ++ s.toList := by
  cases ls <;> rfl

namespace Lexer

/-- In front of a text, pieces are cut into their tokens. -/
theorem Cuts.of_print {ps : List Piece} {r : List Char} {s : Tokens}
    (h : Cuts (Piece.print ps ++ r) s) (hfit : Piece.fit ps r.head? = true) :
    ∃ t, s = .before (Piece.locate ps r) t ∧ Cuts r t := by
  induction ps generalizing s with
  | nil => exact ⟨s, rfl, h⟩
  | cons p ps ih =>
    obtain ⟨hskip, hstart, htoken⟩ := Piece.lex_cons hfit
    obtain ⟨u, rfl, hu⟩ := h.exists_push hskip hstart htoken
    obtain ⟨t, rfl, ht⟩ := ih hu (Bool.and_eq_true_iff.mp hfit).2
    exact ⟨t, (Tokens.before_cons ..).symm, ht⟩

/-- A token stands at an end of the text, and the tokens after it are those of the text after it. -/
theorem Cuts.of_before {ls ls' : List Located} {l : Located} {cs : List Char} {s : Tokens}
    (h : Cuts cs (.before (ls ++ l :: ls') s)) :
    l.text <:+ cs ∧ l.text ≠ [] ∧
      ∃ rest, token l.text = .ok (l.token, rest) ∧ Cuts rest (.before ls' s) := by
  induction ls generalizing cs with
  | nil =>
    rw [List.nil_append, Tokens.before_cons] at h
    obtain ⟨hskip, hcuts⟩ := h.of_push
    exact ⟨skipGap_suffix hskip, hcuts⟩
  | cons l' ls ih =>
    rw [List.cons_append, Tokens.before_cons] at h
    obtain ⟨hskip, hstart, rest, htoken, hcuts⟩ := h.of_push
    obtain ⟨hsuffix, hmore⟩ := ih hcuts
    obtain ⟨taken, htaken, -⟩ := token_takes hstart htoken
    have hrest : rest <:+ l'.text := ⟨taken, htaken.symm⟩
    exact ⟨hsuffix.trans (hrest.trans (skipGap_suffix hskip)), hmore⟩

/-- Where a plain line starts, a token starts: the tokens before it are on the lines before. -/
theorem Cuts.exists_line {line : List Char} (hline : PlainLine line) {before : List Char} {s : Tokens}
    (h : Cuts (before ++ '\n' :: line) s) :
    ∃ ls t, s = .before ls t ∧ Cuts ('\n' :: line) t ∧ ∀ l ∈ ls, '\n' :: line <:+ l.text := by
  generalize hcs : before ++ '\n' :: line = cs at h
  induction h generalizing before with
  | stop hskip =>
    subst hcs
    rcases hline.skipGap_line hskip with ⟨hnil, -⟩ | ⟨more, hmore⟩
    · obtain ⟨c, cs, hcons, -⟩ := hline.head
      rw [hcons] at hnil
      cases hnil
    · cases more <;> cases hmore
  | @step cs start rest newline t s hskip hstart htoken hcuts ih =>
    subst hcs
    rcases hline.skipGap_line hskip with ⟨rfl, rfl⟩ | ⟨more, rfl⟩
    · have hgap : skipGap .blank false ('\n' :: start) = .ok (true, start) := by
        rw [skipGap_blank (by rintro _ ⟨⟩) (by rintro _ ⟨⟩)]
        exact hline.skipGap_eq true
      exact ⟨[], _, rfl, .step hgap hstart htoken hcuts, fun l hl => by cases hl⟩
    · obtain ⟨after, rfl⟩ := hline.token_line htoken
      obtain ⟨ls, u, rfl, hu, hls⟩ := ih rfl
      exact ⟨_ :: ls, u, (Tokens.before_cons ..).symm, hu,
        List.forall_mem_cons.mpr ⟨⟨more, rfl⟩, hls⟩⟩


end Lexer

end Script

namespace ProgramText

/-- The pieces of a program up to the brace that opens the scope of the data. -/
def preamble : List Piece := head Settings.defaultVariable ++ (declarations ++ entering)

theorem fit_preamble : Piece.fit preamble (some '\n') = true := rfl

/-- A program in the scope of the data, from its preamble on. -/
theorem ofInstructions_eq_preamble (steps : List Instruction) :
    Source.ofInstructions Settings.default steps =
      Piece.print preamble ++ Source.inScope steps := by
  have hpreamble : "function(".toList ++ Settings.defaultVariable.toList ++ ")\x7b\n".toList ++
      Source.header ++ "with(obj||\x7b\x7d)\x7b\n".toList ++ "__p+='".toList =
        Piece.print preamble ++ "\n__p+='".toList := rfl
  have hending : "';\n".toList ++ "\x7d\n".toList ++ "return __p;\n".toList ++ ['\x7d'] =
      Source.ending := rfl
  have hassoc : ∀ first parameter opened declared scope append closed left returned brace printed
      printed' ending : List Char,
      first ++ parameter ++ opened ++ declared ++ scope ++ append = printed ++ printed' →
      closed ++ left ++ returned ++ brace = ending →
      first ++ parameter ++ opened ++ (declared ++ (scope ++
        (append ++ steps.flatMap Source.step ++ closed) ++ left) ++ returned) ++ brace =
          printed ++ (printed' ++ (steps.flatMap Source.step ++ ending)) := by
    intro first parameter opened declared scope append closed left returned brace printed printed'
      ending h h'
    rw [← List.append_assoc printed, ← h, ← h']
    simp only [List.append_assoc]
  exact hassoc _ _ _ _ _ _ _ _ _ _ _ _ _ hpreamble hending

end ProgramText

namespace ProgramText

theorem plainLine_lastLine : Lexer.PlainLine Source.lastLine where
  head := ⟨'\x7d', _, rfl, by decide, by decide⟩
  plain c hc := by
    have hall : (Source.lastLine.all fun c => !List.contains ['\'', '"', '*'] c) = true := by decide
    have hplain := List.all_eq_true.mp hall c hc
    rw [Bool.not_eq_true', List.contains_eq_mem, decide_eq_false_iff_not] at hplain
    exact hplain

/-- The tokens of a program in the scope of the data: those of the preamble, those of the statements
in the scope, and those of the last line. -/
theorem exists_tokens {steps : List Instruction} {s : Tokens}
    (h : Cuts (Source.ofInstructions Settings.default steps) s) :
    ∃ ls last, s = .before (Piece.locate preamble (Source.inScope steps)) (.before ls last) ∧
      Cuts (Source.inScope steps) (.before ls last) ∧ Cuts ('\n' :: Source.lastLine) last ∧
      ∀ l ∈ ls, '\n' :: Source.lastLine <:+ l.text := by
  rw [ofInstructions_eq_preamble] at h
  obtain ⟨t, rfl, ht⟩ := h.of_print fit_preamble
  have hassoc : ∀ first middle quote rest ending : List Char, ending = quote ++ rest →
      first ++ (middle ++ ending) = (first ++ (middle ++ quote)) ++ rest := by
    rintro first middle quote rest _ rfl
    simp only [List.append_assoc]
  have hclosed : Source.ending = "';".toList ++ '\n' :: Source.lastLine := rfl
  have hending : Source.inScope steps = _ := hassoc "\n__p+='".toList (steps.flatMap Source.step) _ _ _ hclosed
  have hlines := ht
  rw [hending] at hlines
  obtain ⟨ls, last, rfl, hlast, hls⟩ := hlines.exists_line plainLine_lastLine
  exact ⟨ls, last, rfl, ht, hlast, hls⟩

end ProgramText

namespace Source

/-- No text around what a template gives ends in a word. -/
theorem scaffold_closed : ∀ g ∈ scaffold, ∀ c ∈ g.getLast?, isIdentifierPart c = false := by
  have hall : (scaffold.all fun g => g.getLast?.all fun c => !isIdentifierPart c) = true := by decide
  intro g hg c hc
  have hlast := List.all_eq_true.mp hall g hg
  rw [Option.mem_def.mp hc, Option.all_some, Bool.not_eq_true'] at hlast
  exact hlast

/-- A word that starts in a text stands there as a whole if the text does not end in a word. -/
theorem word_of_closed {g text more word rest : List Char}
    (hclosed : ∀ c ∈ g.getLast?, isIdentifierPart c = false) (hne : text ≠ []) (hsuffix : text <:+ g)
    (hword : word.all isIdentifierPart = true) (heq : word ++ rest = text ++ more) : word <+: text := by
  rcases List.append_eq_append_iff.mp heq with ⟨x, htext, -⟩ | ⟨x, hx, -⟩
  · exact ⟨x, htext.symm⟩
  · obtain ⟨before, rfl⟩ := hsuffix
    have hlast : text.getLast hne ∈ (before ++ text).getLast? := by
      rw [List.getLast?_append, List.getLast?_eq_some_getLast hne]
      rfl
    have hpart : isIdentifierPart (text.getLast hne) = true := by
      refine List.all_eq_true.mp hword _ ?_
      rw [hx]
      exact List.mem_append_left _ (List.getLast_mem hne)
    rw [hclosed _ hlast] at hpart
    cases hpart

end Source

namespace ProgramText

variable {steps : List Instruction} {ls : List Located} {last : Tokens}

/-- The tokens of the last line. -/
theorem eq_before_of_lastLine (h : Cuts ('\n' :: Source.lastLine) last) :
    last = .before (Piece.locate (leaving ++ foot) []) .finished := by
  have hfit : Piece.fit (leaving ++ foot) none = true := rfl
  have hprint : '\n' :: Source.lastLine = Piece.print (leaving ++ foot) ++ [] := rfl
  rw [hprint] at h
  obtain ⟨t, rfl, ht⟩ := h.of_print hfit
  cases ht with
  | stop _ => rfl
  | step hskip hstart _ _ =>
    cases hskip
    contradiction

/-- No word starts between the steps and the last line. -/
theorem not_isIdentifierStart_of_ending {line : List Char} {c : Char}
    (h : line ++ '\n' :: Source.lastLine <:+ Source.ending)
    (hhead : (line ++ '\n' :: Source.lastLine).head? = some c) : isIdentifierStart c = false := by
  have hclosed : Source.ending = "';".toList ++ '\n' :: Source.lastLine := rfl
  obtain ⟨before, hbefore⟩ := h
  rw [hclosed, ← List.append_assoc] at hbefore
  have hline : before ++ line = "';".toList := List.append_cancel_right hbefore
  have hmem : c ∈ '\n' :: "';".toList := by
    cases line with
    | nil =>
      cases hhead
      exact List.mem_cons_self ..
    | cons d line =>
      cases hhead
      rw [← hline]
      exact List.mem_cons_of_mem _ (List.mem_append_right _ (List.mem_cons_self ..))
  have hall : (('\n' :: "';".toList).all fun c => !isIdentifierStart c) = true := by decide
  have hstart := List.all_eq_true.mp hall c hmem
  rw [Bool.not_eq_true'] at hstart
  exact hstart

/-- An identifier that the template does not give stands in the text around what it gives. -/
theorem exists_scaffold (h : Cuts (Source.inScope steps) (.before ls last))
    (hls : ∀ l ∈ ls, '\n' :: Source.lastLine <:+ l.text) {before after : List Located} {l : Located}
    (hsplit : ls = before ++ l :: after) {name : String} (hname : l.token = .identifier name)
    (hgiven : ¬ Source.Given steps l.text) :
    ∃ g ∈ Source.scaffold, ∃ text more, text <:+ g ∧ name.toList <+: text ∧ text ++ more = l.text ∧
      ∃ rest, l.text = name.toList ++ rest ∧ Cuts rest (.before after last) := by
  rw [hsplit] at h
  obtain ⟨hsuffix, hne, rest, htoken, hcuts⟩ := h.of_before
  rw [hname] at htoken
  obtain ⟨word, heq, htakes⟩ := Lexer.token_takes hne htoken
  obtain ⟨rfl, hword, -⟩ := htakes.of_identifier
  rcases Source.inScope_cases hsuffix with hending | hgiven' |
    ⟨g, hg, front, text, more, htext, hfront, heq', -⟩
  · obtain ⟨line, hline⟩ := hls l (hsplit ▸ List.mem_append_right _ (List.mem_cons_self ..))
    rw [← hline] at hending
    obtain ⟨c, cs, hcons, hstart⟩ := exists_isIdentifierStart hword
    have hhead : (line ++ '\n' :: Source.lastLine).head? = some c := by
      rw [hline, heq, hcons]
      rfl
    rw [not_isIdentifierStart_of_ending hending hhead] at hstart
    cases hstart
  · contradiction
  · rw [heq] at heq'
    have hscaffold : g ∈ Source.scaffold := by
      refine (Source.scaffold_of_surroundings hg).resolve_left fun hnil => htext ?_
      exact (List.append_eq_nil_iff.mp (hfront.symm.trans hnil)).2
    have hsuffix' : text <:+ g := ⟨front, hfront.symm⟩
    refine ⟨g, hscaffold, text, more, hsuffix', ?_, heq'.symm.trans heq.symm, rest, heq, hcuts⟩
    exact Source.word_of_closed (Source.scaffold_closed g hscaffold) htext hsuffix'
      (isIdentifierPart_of_isWord hword) heq'

end ProgramText

namespace Compiled

/-- A template mentions a name: an identifier of its program starts in the code of one of its regions,
or in other text of the template that the program has outside its strings. -/
def Mentions (text name : String) : Prop :=
  ∃ steps ls l, Compiled.steps text.toList Settings.default = .ok steps ∧
    Lexer.tokens (Source.ofInstructions Settings.default steps) = .ok ls ∧ l ∈ ls ∧
    l.token = .identifier name ∧ Source.Given steps l.text

/-- Whether a template mentions names is seen from the tokens of its program. -/
theorem not_mentions {text : String} {names : List String} {steps : List Instruction}
    (hsteps : Compiled.steps text.toList Settings.default = .ok steps)
    (htokens : (Lexer.tokens (Source.ofInstructions Settings.default steps)).toOption.any (fun ls =>
      ∀ l ∈ ls, ∀ name ∈ names, l.token = .identifier name → ¬ Source.Given steps l.text) = true) :
    ∀ name ∈ names, ¬ Mentions text name := by
  rintro name hmem ⟨steps', ls, l, hsteps', htokens', hl, hname, hgiven⟩
  cases hsteps.symm.trans hsteps'
  rw [htokens'] at htokens
  exact of_decide_eq_true htokens l hl name hmem hname hgiven

end Compiled

end Microtemplate
