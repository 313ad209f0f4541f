import Microtemplate.Proofs.Script.RereadingStatements
import Microtemplate.Proofs.Script.TokenSpans

/-!
Reading the canonical text of what was read. Whatever text a function was read from, its canonical
text is read as the same function, unless it has more levels of nesting than are allowed.
-/

namespace Microtemplate.Script

/-- A literal for each number among given tokens. -/
def Lexer.Spells (numeral : Float → List Char) (ls : List Located) : Prop :=
  ∀ l ∈ ls, ∀ x, l.token = .number x → IsNumeral x (numeral x)

/-- A number that is read somewhere has a literal: the characters it was read from. -/
theorem Lexer.exists_isNumeral_of_token {start rest : List Char} {x : Float} (hstart : start ≠ [])
    (h : token start = .ok (.number x, rest)) : ∃ literal, IsNumeral x literal := by
  obtain ⟨literal, rfl⟩ := token_suffix hstart h
  have hliteral : literal ≠ [] := by
    rintro rfl
    exact Nat.lt_irrefl _ (length_token_lt hstart h)
  have hnumber : token (literal ++ rest) = .ok (.number x, [] ++ rest) := h
  exact ⟨literal, fun after => token_replace (closing_cons (by decide) after) hliteral hnumber⟩

/-- The numbers of a text that is cut into tokens have literals. -/
theorem Lexer.Cuts.exists_spells {cs : List Char} {s : Tokens} (h : Cuts cs s) :
    ∃ numeral, Spells numeral s.toList := by
  classical
  refine ⟨fun x => if hx : ∃ literal, IsNumeral x literal then hx.choose else [],
    fun l hl x hx => ?_⟩
  have hnumeral : ∃ literal, IsNumeral x literal := by
    obtain hend | ⟨rest, hstart, htoken⟩ := h.exists_token l hl
    · rw [hx] at hend
      cases hend
    · rw [hx] at htoken
      exact exists_isNumeral_of_token hstart htoken
  simpa only [dif_pos hnumeral] using hnumeral.choose_spec

/-- The tokens of a text whose numbers have literals can be spelled, all but the last. -/
theorem Lexer.Cuts.spelled {cs : List Char} {s : Tokens} {numeral : Float → List Char}
    (h : Cuts cs s) (hnumeral : Spells numeral s.toList) :
    ∀ l ∈ s.toList, l.token = .endOfInput ∨ l.token.Spelled numeral := by
  intro l hl
  refine (h.exists_token l hl).imp_right ?_
  rintro ⟨rest, hstart, htoken⟩
  cases hkind : l.token with
  | identifier name =>
    rw [hkind] at htoken
    exact Lexer.isIdentifier_of_token htoken
  | number x => exact hnumeral l hl x hkind
  | endOfInput => exact absurd hkind (Lexer.token_ne_endOfInput hstart htoken)
  | _ => trivial

namespace Function

open Parse

variable {numeral : Float → List Char}

/-- The canonical text of a proper function is read as the function if its levels of nesting are
not too many, and refused as nested too deeply if they are. -/
theorem ofText?_canonicalText_of_proper {known : Token → Prop} {f : Function} (hf : f.Proper known)
    (hknown : ∀ t, known t → t = .endOfInput ∨ t.Spelled numeral) :
    (f.depth ≤ nestingLimit → Function.ofText? (f.canonicalText numeral) = .ok f) ∧
      (¬ f.depth ≤ nestingLimit → ∃ place,
        Function.ofText? (f.canonicalText numeral) = .error ⟨.nestedTooDeeply, place⟩) := by
  obtain ⟨s, hcuts, hstarts, hleft⟩ := Token.exists_cuts (hf.spelled hknown)
  have htokens := Lexer.tokens_eq_ok_iff.mpr ⟨s, hcuts, rfl⟩
  have hnested := Reader.nested_rereads known (s.left + 1) nestingLimit
  have hread := Reader.function_rereads hnested hf (Or.inl rfl : true = true ∨ _)
    (by omega) hstarts
  have hprogram : Rereads (f.depth ≤ nestingLimit) (Reader.program (s.left + 1)) s f .finished :=
    hread.finish rfl
  have htext : Function.ofText? (f.canonicalText numeral) =
      (Reader.program (s.left + 1) s).bind fun r => .ok r.1 := by
    rw [Function.ofText?, FunctionOf.canonicalText, htokens]
    rfl
  rw [htext]
  refine ⟨fun hfits => ?_, fun hfits => ?_⟩
  · rw [hprogram.read hfits]
    rfl
  · obtain ⟨place, hplace⟩ := hprogram.refused hfits
    exact ⟨place, by rw [hplace]; rfl⟩

/-- What is read from a text is read again from its canonical text, whose numbers are spelled by any
literals that are read as them, if that text has not too many levels of nesting; if it has, it is
refused as nested too deeply. Each number that was read has such a literal. -/
theorem canonicalText_read_again (cs : List Char) (f : Function) (h : Function.ofText? cs = .ok f) :
    ∃ ls, Lexer.tokens cs = .ok ls ∧ (∃ numeral, Lexer.Spells numeral ls) ∧
      ∀ numeral, Lexer.Spells numeral ls →
        (f.depth ≤ nestingLimit → Function.ofText? (f.canonicalText numeral) = .ok f) ∧
          (¬ f.depth ≤ nestingLimit → ∃ place,
            Function.ofText? (f.canonicalText numeral) = .error ⟨.nestedTooDeeply, place⟩) := by
  cases htokens : Lexer.tokens cs with
  | error e =>
    rw [Function.ofText?, htokens] at h
    cases h
  | ok ls =>
    obtain ⟨s, hcuts, rfl⟩ := Lexer.tokens_eq_ok_iff.mp htokens
    refine ⟨_, rfl, hcuts.exists_spells, fun numeral hnumeral => ?_⟩
    have hproper : f.Proper fun t => t = .endOfInput ∨ t.Spelled numeral :=
      proper_of_ofText? h htokens (hcuts.spelled hnumeral)
    exact ofText?_canonicalText_of_proper hproper fun _ ht => ht

/-- A function that does nothing but name the number one, read from its canonical text. -/
theorem canonicalText_read_again_of_one :
    let one := (Decimal.Numeral.ofParts ['1'] [] 0).toFloat false
    let f : Function := .mk none [] none [.expression (.number one)]
    Function.ofText? "function ( ) { ( 1 ) ; } ".toList = .ok f ∧
      ∃ ls, Lexer.tokens "function ( ) { ( 1 ) ; } ".toList = .ok ls ∧ (∃ numeral, Lexer.Spells numeral ls) ∧
        ∀ numeral, Lexer.Spells numeral ls →
          (f.depth ≤ nestingLimit → Function.ofText? (f.canonicalText numeral) = .ok f) ∧
            (¬ f.depth ≤ nestingLimit → ∃ place,
              Function.ofText? (f.canonicalText numeral) = .error ⟨.nestedTooDeeply, place⟩) := by
  intro one f
  have hone : IsNumeral one ['1'] := fun rest => rfl
  have hproper : f.Proper (Token.Spelled fun _ => ['1']) :=
    .mk nofun nofun nofun (List.forall_mem_singleton.mpr (.expression (.number hone)))
  have htext : f.canonicalText (fun _ => ['1']) = "function ( ) { ( 1 ) ; } ".toList := by rfl
  have hread := (ofText?_canonicalText_of_proper hproper fun _ ht => Or.inr ht).1 (by decide)
  rw [htext] at hread
  exact ⟨hread, canonicalText_read_again _ _ hread⟩

end Function

end Microtemplate.Script
