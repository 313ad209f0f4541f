import Mathlib.Data.List.Infix
import Microtemplate.Proofs.Script.GrammarReading
import Microtemplate.Proofs.Script.SparingStatements
import Microtemplate.Proofs.Template.GivenText

/-!
Programs of templates that do not mention a name. Around what a template gives the text so far is
named only where a text is appended to it and where it is returned, so the statements of the program
spare it.
-/

namespace Microtemplate

open Script
open Reader (nested statements)
open Lexer (Cuts)

namespace Source

/-- The text so far is named around what a template gives only where a text is appended to it. -/
theorem scaffold_output : ∀ g ∈ scaffold, ∀ text ∈ g.tails, "__p".toList <+: text →
    text = "__p+='".toList := by
  decide +kernel

end Source

namespace ProgramText

variable {steps : List Instruction} {ls : List Located} {last : Tokens}

/-- Where the text so far is named around what a template gives, a text is appended to it. -/
theorem appends_of_output (h : Cuts (Source.inScope steps) (.before ls last))
    (hls : ∀ l ∈ ls, '\n' :: Source.lastLine <:+ l.text) {before after : List Located} {l : Located}
    (hsplit : ls = before ++ l :: after) (hname : l.token = .identifier "__p")
    (hgiven : ¬ Source.Given steps l.text) : (Tokens.before after last).Appends := by
  obtain ⟨g, hg, text, more, hsuffix, hprefix, htext, rest, hrest, hcuts⟩ :=
    exists_scaffold h hls hsplit hname hgiven
  have happend := Source.scaffold_output g hg text ((List.mem_tails _ _).mpr hsuffix) hprefix
  have hopen : "__p+='".toList = "__p".toList ++ (Piece.print [⟨.tight, .mark .plusAssign⟩] ++ ['\'']) :=
    rfl
  rw [happend, hopen, hrest, List.append_assoc, List.append_cancel_left_eq, List.append_assoc] at htext
  rw [← htext] at hcuts
  obtain ⟨t, heq, -⟩ := hcuts.of_print (r := ['\''] ++ more) rfl
  rw [heq]
  exact ⟨rfl, rfl⟩

/-- In the program of a template that does not mention the text so far, it is named only where it may
be. -/
theorem admits_output (h : Cuts (Source.inScope steps) (.before ls last))
    (hls : ∀ l ∈ ls, '\n' :: Source.lastLine <:+ l.text)
    (hlast : Cuts ('\n' :: Source.lastLine) last)
    (hgiven : ∀ l ∈ ls, l.token = .identifier "__p" → ¬ Source.Given steps l.text) (lead : Lead) :
    (Tokens.before ls last).Admits (· = "__p") True lead := by
  have hmore : ∀ after before lead, ls = before ++ after →
      (Tokens.before after last).Admits (· = "__p") True lead := by
    intro after
    induction after with
    | nil =>
      intro before lead _
      rw [eq_before_of_lastLine hlast]
      refine .push (fun n _ h => by cases h) (.push (fun n _ h => by cases h) (.push (fun n _ _ => ?_)
        (.push (fun n _ h => by cases h) (.push (fun n _ h => by cases h) (.finished _)))))
      cases lead <;> exact ⟨trivial, Or.inr ⟨rfl, rfl⟩⟩
    | cons l after ih =>
      intro before lead hsplit
      rw [Tokens.before_cons]
      refine .push (fun n hn hname => ?_) (ih (before ++ [l]) _ (by simp [hsplit]))
      have hmem : l ∈ ls := hsplit ▸ List.mem_append_right _ (List.mem_cons_self ..)
      obtain rfl : n = "__p" := hn
      have happends := appends_of_output h hls hsplit hname (hgiven l hmem hname)
      cases lead with
      | plain => exact ⟨trivial, happends⟩
      | returning => exact ⟨trivial, Or.inl happends⟩
      | point => trivial
  exact hmore ls [] lead rfl

end ProgramText

/-- What a compiled template is, it is by its steps and the text of its program. -/
theorem Compiled.exists_of_ofTemplate {text : String} {c : Compiled} {s : Settings}
    (h : ofTemplate text s = .ok c) : ∃ steps, Compiled.steps text.toList s = .ok steps ∧
      Function.ofText? (Source.ofInstructions s steps) = .ok c.program := by
  rw [ofTemplate] at h
  split at h
  · cases h
  · rename_i steps hsteps
    rw [ofSource, Function.parse, String.toList_ofList] at h
    refine ⟨steps, hsteps, ?_⟩
    cases hprogram : Function.ofText? (Source.ofInstructions s steps) with
    | error e =>
      rw [hprogram] at h
      cases h
    | ok f =>
      rw [hprogram] at h
      cases h
      rfl

/-- Statements up to a closing brace that are read are one statement and those after it. -/
theorem Script.Reader.exists_cons_of_statements {inner : Nested} {n : Nat} {s w : Tokens}
    {trees : List Stmt} (hbrace : s.current.token ≠ .punctuator .rightBrace)
    (hend : s.current.token ≠ .endOfInput)
    (h : statements inner false (n + 1) s = .ok (trees, w)) :
    ∃ first u more, inner.statement false s = .ok (first, u) ∧
      statements inner false n u = .ok (more, w) ∧ trees = first :: more := by
  rw [statements, Parse.eatPunctuator, Parse.ifEat_apply, if_neg hbrace] at h
  obtain ⟨_, _, htoken, h⟩ := Parse.bind_eq_ok.mp h
  cases htoken
  rw [if_neg hend] at h
  obtain ⟨first, u, hfirst, h⟩ := Parse.bind_eq_ok.mp h
  obtain ⟨more, v, hmore, h⟩ := Parse.bind_eq_ok.mp h
  cases h
  exact ⟨first, u, more, hfirst, hmore, rfl⟩

theorem Except.exists_of_map_eq_ok {ε α β : Type} {f : α → β} {x : Except ε α} {b : β}
    (h : x.map f = .ok b) : ∃ a, x = .ok a ∧ f a = b := by
  cases x with
  | error e => cases h
  | ok a =>
    cases h
    exact ⟨a, rfl, rfl⟩

namespace ProgramText

variable {steps : List Instruction} {ls : List Located} {last : Tokens}

/-- The program of a template in the scope of the data, with the tokens it is read from. -/
theorem exists_program {steps : List Instruction} {f : Function}
    (h : Function.ofText? (Source.ofInstructions Settings.default steps) = .ok f) :
    ∃ ls last, Cuts (Source.inScope steps) (.before ls last) ∧
      Cuts ('\n' :: Source.lastLine) last ∧ (∀ l ∈ ls, '\n' :: Source.lastLine <:+ l.text) ∧
      (∃ ls', Lexer.tokens (Source.ofInstructions Settings.default steps) = .ok ls' ∧
        (Tokens.before ls last).toList ⊆ ls') ∧
      ∃ k n u w trees rest, statements (nested k 126) false k (.before ls last) = .ok (trees, u) ∧
        statements (nested k nestingLimit) false n u = .ok (rest, w) ∧
        f = ⟨none, [Settings.defaultVariable], none, declaration :: inScope trees :: rest⟩ := by
  obtain ⟨s, u, hcuts, htokens, hread⟩ := Function.exists_of_ofText? h
  obtain ⟨ls, last, rfl, hscope, hlast, hls⟩ := exists_tokens hcuts
  obtain ⟨k, hk⟩ : ∃ k, (Tokens.before (Piece.locate preamble (Source.inScope steps))
      (.before ls last)).left + 1 = k + 4 := by
    have hlength : 3 ≤ preamble.length := by decide
    rw [Tokens.left_before_locate]
    exact ⟨preamble.length - 3 + (Tokens.before ls last).left, by omega⟩
  rw [hk, preamble, Tokens.before_locate, Tokens.before_locate] at hread
  obtain ⟨⟨all, u'⟩, hall, heq⟩ :=
    Except.exists_of_map_eq_ok ((function_head k 120 _ _ _).symm.trans hread)
  cases heq
  obtain ⟨first, v, more, hfirst, hmore, rfl⟩ :=
    Reader.exists_cons_of_statements Token.noConfusion Token.noConfusion hall
  have hdeclaration := statement_declarations k 119
    (Piece.print entering ++ Source.inScope steps)
    (.before (Piece.locate entering (Source.inScope steps)) (.before ls last))
  cases hfirst.symm.trans hdeclaration
  obtain ⟨second, v, rest, hsecond, hrest, rfl⟩ :=
    Reader.exists_cons_of_statements Token.noConfusion Token.noConfusion hmore
  obtain ⟨⟨trees, v'⟩, htrees, heq⟩ :=
    Except.exists_of_map_eq_ok ((statement_entering k 119 _ _).symm.trans hsecond)
  cases heq
  refine ⟨ls, last, hscope, hlast, hls, ⟨_, htokens, ?_⟩, k + 4, _, _, _, trees, rest, htrees, hrest, rfl⟩
  rw [Tokens.toList_before (Piece.locate preamble _)]
  exact List.subset_append_right _ _

/-- Where the tokens of a program have names only as they may, its statements spare them. -/
theorem spares_of_admits {names : String → Prop} {appends : Prop} {k n : Nat} {s u w : Tokens}
    {trees rest : List Stmt} (h : s.Admits names appends .plain)
    (htrees : statements (nested k 126) false k s = .ok (trees, u))
    (hrest : statements (nested k nestingLimit) false n u = .ok (rest, w)) :
    (∀ x ∈ trees, x.Spares names appends) ∧ ∀ x ∈ rest, x.Spares names appends := by
  obtain ⟨hu, hspares⟩ := Reader.statements_yields (Reader.nested_spares names appends k 126) false k
    _ _ _ h htrees
  obtain ⟨-, hspares'⟩ := Reader.statements_yields (Reader.nested_spares names appends k nestingLimit)
    false n _ _ _ hu hrest
  exact ⟨hspares, hspares'⟩

/-- In the program of a template that does not mention the text so far, all statements spare it. -/
theorem exists_spares_output {text : String} {c : Compiled}
    (h : Compiled.ofTemplate text Settings.default = .ok c) (hgiven : ¬ Compiled.Mentions text "__p") :
    ∃ trees rest, c.program =
        ⟨none, [Settings.defaultVariable], none, declaration :: inScope trees :: rest⟩ ∧
      (∀ s ∈ trees, s.Spares (· = "__p") True) ∧ ∀ s ∈ rest, s.Spares (· = "__p") True := by
  obtain ⟨steps, hsteps, hread⟩ := Compiled.exists_of_ofTemplate h
  obtain ⟨ls, last, hcuts, hlast, hls, ⟨ls', htokens, hsubset⟩, k, n, u, w, trees, rest, htrees, hrest,
    hprogram⟩ := exists_program hread
  have hmem : ls ⊆ ls' := by
    rw [Tokens.toList_before] at hsubset
    exact List.Subset.trans (List.subset_append_left ls _) hsubset
  have hadmits := admits_output hcuts hls hlast
    (fun l hl hname hl' => hgiven ⟨steps, ls', l, hsteps, htokens, hmem hl, hname, hl'⟩) .plain
  exact ⟨trees, rest, hprogram, spares_of_admits hadmits htrees hrest⟩

end ProgramText

end Microtemplate
