import Microtemplate.Proofs.Script.WordStarts
import Microtemplate.Proofs.Template.SparedNames

/-!
The names of a program around what its template gives. They are few, and which of them a program has
depends on the kinds of its regions. Its statements spare any other name that the template does not
mention.
-/

namespace Microtemplate

open Script
open Lexer (Cuts endsBeforeWord)

namespace Source

/-- The identifiers that stand in a text where a word may start are among some names, but for those
behind `_.`. -/
def NamesAmong (names : List String) (text : List Char) : Prop :=
  ∀ n < text.length, isIdentifier (String.ofList ((text.drop n).takeWhile isIdentifierPart)) = true →
    (text.take n).getLast?.all endsBeforeWord = true →
      String.ofList ((text.drop n).takeWhile isIdentifierPart) ∈ names ∨ ['_', '.'] <:+ text.take n

instance (names : List String) (text : List Char) : Decidable (NamesAmong names text) :=
  inferInstanceAs (Decidable (∀ n < text.length, _ → _ → _))

namespace NamesAmong

variable {names names' : List String}

theorem mono {text : List Char} (h : NamesAmong names text) (hsubset : names ⊆ names') :
    NamesAmong names' text :=
  fun n hn hname hlast => (h n hn hname hlast).imp_left fun hmem => hsubset hmem

theorem mem_or_suffix {front rest : List Char} {name : String}
    (h : NamesAmong names (front ++ (name.toList ++ rest))) (hname : isIdentifier name = true)
    (hrest : ∀ c ∈ rest.head?, isIdentifierPart c = false)
    (hfront : front.getLast?.all endsBeforeWord = true) : name ∈ names ∨ ['_', '.'] <:+ front := by
  have hword : isWord name.toList = true := (Bool.and_eq_true_iff.mp hname).1
  have hparts : ∀ c ∈ name.toList, isIdentifierPart c = true :=
    List.all_eq_true.mp (isIdentifierPart_of_isWord hword)
  have hstops : rest.takeWhile isIdentifierPart = [] := by
    cases rest with
    | nil => rfl
    | cons c rest => rw [List.takeWhile_cons, hrest c rfl, if_neg Bool.false_ne_true]
  have hdrop : (front ++ (name.toList ++ rest)).drop front.length = name.toList ++ rest :=
    List.drop_left
  have htake : (front ++ (name.toList ++ rest)).take front.length = front := List.take_left
  have htaken : String.ofList ((name.toList ++ rest).takeWhile isIdentifierPart) = name := by
    rw [List.takeWhile_append_of_pos hparts, hstops, List.append_nil, String.ofList_toList]
  have hlength : front.length < (front ++ (name.toList ++ rest)).length := by
    obtain ⟨c, cs, hcons, -⟩ := exists_isIdentifierStart hword
    rw [hcons, List.length_append]
    exact Nat.lt_add_of_pos_right (Nat.succ_pos _)
  have hamong := h front.length hlength
  rw [hdrop, htake, htaken] at hamong
  exact hamong hname hfront

end NamesAmong

/-- The names around what a template gives for a step. -/
def namesAround : Instruction → List String
  | .literal _ => []
  | .escaped _ => ["__t", "_"]
  | .raw _ => ["__t"]
  | .execute _ => ["__p"]

/-- The names of a program in the scope of the data around what its template gives. -/
def namesUsed (steps : List Instruction) : List String := "__p" :: steps.flatMap namesAround

theorem namesUsed_subset (steps : List Instruction) : namesUsed steps ⊆ ["__p", "__t", "_"] := by
  refine List.cons_subset.mpr ⟨.head _, fun name hname => ?_⟩
  obtain ⟨i, -, hname⟩ := List.mem_flatMap.mp hname
  have hsubset : namesAround i ⊆ ["__p", "__t", "_"] := by cases i <;> simp [namesAround]
  exact hsubset hname

theorem namesAmong_opening (i : Instruction) : NamesAmong (namesAround i) (opening i) := by
  have hvalue : NamesAmong ["__t"] "'+\n((__t=(".toList := by decide +kernel
  have hcode : NamesAmong ["__p"] "';\n".toList := by decide +kernel
  cases i with
  | literal _ => exact fun n hn => absurd hn (Nat.not_lt_zero n)
  | escaped _ => exact hvalue.mono (List.cons_subset_cons _ (List.nil_subset _))
  | raw _ => exact hvalue
  | execute _ => exact hcode

theorem namesAmong_closing (i : Instruction) : NamesAmong (namesAround i) (closing i) := by
  have hescaped : NamesAmong ["__t", "_"] "))==null?'':_.escape(__t))+\n'".toList := by decide +kernel
  have hraw : NamesAmong ["__t"] "))==null?'':__t)+\n'".toList := by decide +kernel
  have hcode : NamesAmong ["__p"] "\n__p+='".toList := by decide +kernel
  cases i with
  | literal _ => exact fun n hn => absurd hn (Nat.not_lt_zero n)
  | escaped _ => exact hescaped
  | raw _ => exact hraw
  | execute _ => exact hcode

theorem namesAmong_surroundings {steps : List Instruction} {g : List Char}
    (hg : g ∈ surroundings steps) : NamesAmong (namesUsed steps) g := by
  rcases List.mem_cons.mp hg with rfl | hg
  · have hfirst : NamesAmong ["__p"] "\n__p+='".toList := by decide +kernel
    exact hfirst.mono (List.cons_subset_cons _ (List.nil_subset _))
  · obtain ⟨i, hi, hg⟩ := List.mem_flatMap.mp hg
    have hsubset : namesAround i ⊆ namesUsed steps := fun name hname =>
      .tail _ (List.mem_flatMap.mpr ⟨i, hi, hname⟩)
    rcases List.mem_pair.mp hg with rfl | rfl
    · exact (namesAmong_opening i).mono hsubset
    · exact (namesAmong_closing i).mono hsubset

theorem namesAmong_ending (steps : List Instruction) : NamesAmong (namesUsed steps) ending := by
  have hending : NamesAmong ["__p"] ending := by decide +kernel
  exact hending.mono (List.cons_subset_cons _ (List.nil_subset _))

theorem ending_closed : ∀ c ∈ ending.getLast?, isIdentifierPart c = false := by
  have hlast : ending.getLast? = some '\x7d' := rfl
  rw [hlast]
  rintro _ ⟨⟩
  decide

theorem surroundings_closed {steps : List Instruction} {g : List Char} (hg : g ∈ surroundings steps) :
    ∀ c ∈ g.getLast?, isIdentifierPart c = false := by
  rcases scaffold_of_surroundings hg with rfl | hscaffold
  · exact nofun
  · exact scaffold_closed g hscaffold

/-- An identifier of a program that its template does not give is one of the names around that, or it
is the name of a property behind `_`. -/
theorem mem_namesUsed_or_suffix {steps : List Instruction} {before rest : List Char} {name : String}
    (hsplit : inScope steps = before ++ (name.toList ++ rest)) (hname : isIdentifier name = true)
    (hrest : ∀ c ∈ rest.head?, isIdentifierPart c = false)
    (hbefore : before.getLast?.all endsBeforeWord = true)
    (hgiven : ¬ Given steps (name.toList ++ rest)) :
    name ∈ namesUsed steps ∨ ['_', '.'] <:+ before := by
  have hstands : ∀ {g lead front text more : List Char}, NamesAmong (namesUsed steps) g →
      (∀ c ∈ g.getLast?, isIdentifierPart c = false) → text ≠ [] → g = front ++ text →
      name.toList ++ rest = text ++ more → lead ++ (g ++ more) = inScope steps →
      name ∈ namesUsed steps ∨ ['_', '.'] <:+ before := by
    rintro g lead front text more hamong hclosed hne rfl heq hlead
    obtain ⟨after, rfl⟩ := word_of_closed hclosed hne (List.suffix_append ..)
      (isIdentifierPart_of_isWord (Bool.and_eq_true_iff.mp hname).1) heq
    obtain rfl : before = lead ++ front := by
      rw [hsplit, heq, ← List.append_assoc, ← List.append_assoc, List.append_assoc,
        List.append_cancel_right_eq] at hlead
      exact hlead.symm
    have hafter : ∀ c ∈ after.head?, isIdentifierPart c = false := by
      rw [List.append_assoc, List.append_cancel_left_eq] at heq
      cases after with
      | nil => exact nofun
      | cons c after =>
        rintro _ ⟨⟩
        exact hrest c (heq ▸ rfl)
    have hfront : front.getLast?.all endsBeforeWord = true := by
      rw [List.getLast?_append] at hbefore
      cases hlast : front.getLast? with
      | none => rfl
      | some c =>
        rw [hlast] at hbefore
        exact hbefore
    exact (hamong.mem_or_suffix hname hafter hfront).imp_right
      fun hsuffix => hsuffix.trans (List.suffix_append ..)
  have hsuffix : name.toList ++ rest <:+ inScope steps := ⟨before, hsplit.symm⟩
  rcases inScope_cases hsuffix with ⟨front, hending⟩ | hgiven' |
    ⟨g, hg, front, text, more, hne, hfront, heq, lead, hlead⟩
  · have hne : name.toList ++ rest ≠ [] := by
      obtain ⟨c, cs, hcons, -⟩ := exists_isIdentifierStart (Bool.and_eq_true_iff.mp hname).1
      rw [hcons]
      exact List.cons_ne_nil c (cs ++ rest)
    have hassoc : ∀ first middle last : List Char,
        first ++ middle ++ (last ++ []) = first ++ (middle ++ last) := by simp
    exact hstands (namesAmong_ending steps) ending_closed hne hending.symm (List.append_nil _).symm
      (hassoc "\n__p+='".toList (steps.flatMap step) ending)
  · contradiction
  · exact hstands (namesAmong_surroundings hg) (surroundings_closed hg) hne hfront heq hlead

end Source

namespace Compiled

/-- The program of a template has a name around what the template gives. -/
def Surrounds (text name : String) : Prop :=
  ∃ steps, Compiled.steps text.toList Settings.default = .ok steps ∧ name ∈ Source.namesUsed steps

end Compiled

namespace ProgramText

/-- In the text of a program, a name that the template does not give is nowhere looked up if it is none
of those around that. -/
theorem admits_unused {steps : List Instruction} {s : Tokens} {name : String}
    (h : Cuts (Source.inScope steps) s)
    (hgiven : ∀ l ∈ s.toList, l.token = .identifier name → ¬ Source.Given steps l.text)
    (hname : name ∉ Source.namesUsed steps) : s.Admits (· = name) False .plain := by
  refine h.admits (.nil _ _) fun l hl before hsplit htoken hbefore => ?_
  have hstands := h.exists_token l hl
  rw [htoken] at hstands
  obtain ⟨rest, hne, hread⟩ := hstands.resolve_left Token.noConfusion
  obtain ⟨word, heq, htakes⟩ := Lexer.token_takes hne hread
  obtain ⟨rfl, -, hrest⟩ := htakes.of_identifier
  rw [List.nil_append, heq] at hsplit
  exact (Source.mem_namesUsed_or_suffix hsplit (Lexer.isIdentifier_of_token hread) hrest hbefore
    (heq ▸ hgiven l hl htoken)).resolve_left hname

/-- In the program of a template, all statements spare a name that the template does not mention and
that is not around what it gives. -/
theorem exists_spares_unused {text : String} {c : Compiled}
    (h : Compiled.ofTemplate text Settings.default = .ok c) :
    ∃ trees rest, c.program =
        ⟨none, [Settings.defaultVariable], none, declaration :: inScope trees :: rest⟩ ∧
      ∀ name, ¬ Compiled.Mentions text name → ¬ Compiled.Surrounds text name →
        (∀ s ∈ trees, s.Spares (· = name) False) ∧ ∀ s ∈ rest, s.Spares (· = name) False := by
  obtain ⟨steps, hsteps, hread⟩ := Compiled.exists_of_ofTemplate h
  obtain ⟨ls, last, hcuts, -, -, ⟨ls', htokens, hsubset⟩, k, n, u, w, trees, rest, htrees, hrest,
    hprogram⟩ := exists_program hread
  refine ⟨trees, rest, hprogram, fun name hmentions hsurrounds => ?_⟩
  have hadmits := admits_unused hcuts
    (fun l hl hname hl' => hmentions ⟨steps, ls', l, hsteps, htokens, hsubset hl, hname, hl'⟩)
    (fun hname => hsurrounds ⟨steps, hsteps, hname⟩)
  exact spares_of_admits hadmits htrees hrest

end ProgramText

end Microtemplate
