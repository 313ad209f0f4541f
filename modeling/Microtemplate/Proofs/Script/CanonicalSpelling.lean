import Microtemplate.Proofs.Script.Canonical
import Microtemplate.Proofs.Script.TokenEnds

/-!
The canonical text of a tree has the tokens of the tree. A blank ends every token and starts none, so
a row of spelled tokens is cut into them, and the tokens of a proper tree are spelled if its
identifiers and numbers are.
-/

namespace Microtemplate.Script

section Lexing

variable {numeral : Float → List Char}

/-- A number starts with a figure or with a point, which is no gap and opens no comment. -/
theorem IsNumeral.exists_cons {x : Float} {literal : List Char} (h : IsNumeral x literal) :
    ∃ c cs, literal = c :: cs ∧ isGap c = false ∧ c ≠ '/' := by
  cases literal with
  | nil =>
    have hstarts : Lexer.startsNumber [' '] = true := Lexer.startsNumber_of_token (h [])
    cases hstarts
  | cons c cs =>
    have hstarts := Lexer.startsNumber_of_token (h [])
    by_cases hpoint : c = '.'
    · exact ⟨c, cs, rfl, by rw [hpoint]; decide, by rw [hpoint]; decide⟩
    have hdigit : c.isDigit = true := Lexer.startsNumber_cons_of_ne hpoint _ ▸ hstarts
    refine ⟨c, cs, rfl, Bool.eq_false_iff.mpr fun hgap => ?_, ?_⟩
    · rw [isDigit_of_closes (closes_of_isGap hgap)] at hdigit
      cases hdigit
    · rintro rfl
      cases hdigit

/-- A spelled token is read where a blank follows. -/
theorem Token.Spelled.token_eq {t : Token} (h : t.Spelled numeral) (rest : List Char) :
    Lexer.token (t.chars numeral ++ ' ' :: rest) = .ok (t, ' ' :: rest) := by
  cases t with
  | identifier name =>
    refine Lexeme.token_chars (l := .identifier name) ?_
    exact Bool.and_eq_true_iff.mpr ⟨h, rfl⟩
  | keyword k => exact Lexeme.token_chars (l := .keyword k) rfl
  | number x => exact h rest
  | string s =>
    have hquoted := token_quoted s.toList (' ' :: rest)
    rwa [String.ofList_toList] at hquoted
  | punctuator p => cases p <;> rfl
  | endOfInput => exact h.elim

/-- A spelled token ends the gap before it. -/
theorem Token.Spelled.skipGap_eq {t : Token} (h : t.Spelled numeral) (rest : List Char) :
    Lexer.skipGap .blank false (t.chars numeral ++ ' ' :: rest) =
      .ok (false, t.chars numeral ++ ' ' :: rest) := by
  have hcons : ∀ {w : List Char}, (∃ c cs, w = c :: cs ∧ isGap c = false ∧ c ≠ '/') →
      Lexer.skipGap .blank false (w ++ ' ' :: rest) = .ok (false, w ++ ' ' :: rest) := by
    rintro w ⟨c, cs, rfl, hgap, hslash⟩
    exact Spacing.skipGap_chars .tight hgap hslash (cs ++ ' ' :: rest)
  cases t with
  | identifier name => exact hcons (exists_cons_of_isWord (Bool.and_eq_true_iff.mp h).1)
  | keyword k => exact hcons (exists_cons_of_isWord (isWord_text k))
  | number x => exact hcons h.exists_cons
  | string s => exact hcons ⟨'\'', _, rfl, by decide, by decide⟩
  | punctuator p => cases p <;> rfl
  | endOfInput => exact h.elim

/-- The tokens that are left start with given ones, all on one line, and others come after them. -/
def Tokens.Starts : Tokens → List Token → Tokens → Prop
  | s, [], u => s = u
  | s, t :: ts, u => s.current.token = t ∧ s.current.newlineBefore = false ∧ s.next.Starts ts u

theorem Tokens.starts_append {ts ts' : List Token} {s u : Tokens} :
    s.Starts (ts ++ ts') u ↔ ∃ v, s.Starts ts v ∧ v.Starts ts' u := by
  induction ts generalizing s with
  | nil => simp [Starts]
  | cons t ts ih => simp [Starts, ih, and_assoc]

/-- A blank before a text leaves its tokens as they are. -/
theorem Lexer.Cuts.blank {cs : List Char} {s : Tokens} (h : Cuts cs s) : Cuts (' ' :: cs) s := by
  cases h with
  | stop hgap => exact .stop hgap
  | step hgap hstart htoken hcuts => exact .step hgap hstart htoken hcuts

/-- The text of spelled tokens is cut into them. -/
theorem Token.exists_cuts {ts : List Token} (h : ∀ t ∈ ts, t.Spelled numeral) :
    ∃ s, Lexer.Cuts (Token.text numeral ts) s ∧ s.Starts ts .finished ∧ s.left = ts.length := by
  induction ts with
  | nil => exact ⟨.finished, .stop rfl, rfl, rfl⟩
  | cons t ts ih =>
    obtain ⟨ht, hts⟩ := List.forall_mem_cons.mp h
    obtain ⟨s, hcuts, hstarts, hleft⟩ := ih hts
    have hskip := ht.skipGap_eq (Token.text numeral ts)
    have hne : t.chars numeral ++ ' ' :: Token.text numeral ts ≠ [] := by simp
    refine ⟨s.push ⟨t, false, t.chars numeral ++ ' ' :: Token.text numeral ts⟩, ?_,
      ⟨rfl, rfl, hstarts⟩, by simp [hleft]⟩
    have htext : Token.text numeral (t :: ts) = t.chars numeral ++ ' ' :: Token.text numeral ts := by
      simp [Token.text]
    rw [htext]
    exact .step hskip hne (ht.token_eq _) hcuts.blank

end Lexing

section Spelling

variable {numeral : Float → List Char}

theorem spelled_parens {ts : List Token} (h : ∀ t ∈ ts, t.Spelled numeral) :
    ∀ t ∈ parens ts, t.Spelled numeral := by
  rw [parens, List.forall_mem_cons, List.forall_mem_append, List.forall_mem_singleton]
  exact ⟨trivial, h, trivial⟩

theorem spelled_items {es : List Expr} (h : ∀ e ∈ es, ∀ t ∈ e.tokens, t.Spelled numeral) :
    ∀ t ∈ itemTokens es, t.Spelled numeral := by
  rw [itemTokens_eq]
  exact forall_mem_commaTokens trivial fun e he => spelled_parens (h e he)

theorem spelled_properties {ps : List (String × Expr)}
    (h : ∀ p ∈ ps, ∀ t ∈ p.2.tokens, t.Spelled numeral) :
    ∀ t ∈ propertyTokens ps, t.Spelled numeral := by
  rw [propertyTokens_eq]
  refine forall_mem_commaTokens trivial fun p hp => ?_
  rw [propertyItem, List.forall_mem_cons, List.forall_mem_cons]
  exact ⟨trivial, trivial, spelled_parens (h p hp)⟩

theorem spelled_option {value : Option Expr}
    (h : ∀ e ∈ value, ∀ t ∈ e.tokens, t.Spelled numeral) :
    ∀ t ∈ optionTokens value, t.Spelled numeral := by
  cases value with
  | none => simp [optionTokens]
  | some e => exact spelled_parens (h e rfl)

theorem spelled_initial {value : Option Expr}
    (h : ∀ e ∈ value, ∀ t ∈ e.tokens, t.Spelled numeral) :
    ∀ t ∈ initialTokens value, t.Spelled numeral := by
  cases value with
  | none => simp [initialTokens]
  | some e => exact List.forall_mem_cons.mpr ⟨trivial, spelled_parens (h e rfl)⟩

theorem spelled_declarators {ds : List Declarator}
    (hname : ∀ d ∈ ds, (Token.identifier d.name).Spelled numeral)
    (h : ∀ d ∈ ds, ∀ e ∈ d.initial, ∀ t ∈ e.tokens, t.Spelled numeral) :
    ∀ t ∈ declaratorTokens ds, t.Spelled numeral := by
  rw [declaratorTokens_eq]
  refine forall_mem_commaTokens trivial fun d hd => ?_
  rw [declaratorItem, List.forall_mem_cons]
  exact ⟨hname d hd, spelled_initial (h d hd)⟩

theorem spelled_body {ss : List Stmt} (h : ∀ s ∈ ss, ∀ t ∈ s.tokens, t.Spelled numeral) :
    ∀ t ∈ bodyTokens ss, t.Spelled numeral := by
  induction ss with
  | nil => simp [bodyTokens]
  | cons s ss ih =>
    obtain ⟨hs, hss⟩ := List.forall_mem_cons.mp h
    rw [bodyTokens, List.forall_mem_append]
    exact ⟨hs, ih hss⟩

theorem spelled_names {name : Option String} (h : ∀ n ∈ name, (Token.identifier n).Spelled numeral) :
    ∀ t ∈ name.toList.map Token.identifier, t.Spelled numeral := by
  cases name with
  | none => exact fun t ht => absurd ht List.not_mem_nil
  | some n => exact List.forall_mem_singleton.mpr (h n rfl)

theorem spelled_parameters {params : List String} {rest : Option String}
    (hparams : ∀ n ∈ params, (Token.identifier n).Spelled numeral)
    (hrest : ∀ n ∈ rest, (Token.identifier n).Spelled numeral) :
    ∀ t ∈ parameterTokens params rest, t.Spelled numeral := by
  have hlast : ∀ t ∈ restTokens rest, t.Spelled numeral := by
    cases rest with
    | none => simp [restTokens]
    | some n =>
      rw [restTokens, List.forall_mem_cons, List.forall_mem_singleton]
      exact ⟨trivial, hrest n rfl⟩
  induction params with
  | nil => exact hlast
  | cons n ns ih =>
    obtain ⟨hn, hns⟩ := List.forall_mem_cons.mp hparams
    have hmore := ih hns
    by_cases hlone : rest = none ∧ ns = []
    · obtain ⟨rfl, rfl⟩ := hlone
      exact List.forall_mem_singleton.mpr hn
    · rw [parameterTokens, List.forall_mem_cons, List.forall_mem_cons]
      · exact ⟨hn, trivial, hmore⟩
      · exact fun hrest hns => hlone ⟨hrest, hns⟩

theorem isIdentifier_of : isIdentifier "of" = true := by decide +kernel

/-- What is the first part of the head of a loop is so much of a statement. -/
theorem headTokens_subset (s : Stmt) : headTokens (some s) ⊆ s.tokens := by
  intro t ht
  cases s with
  | declaration kind ds =>
    rw [headTokens] at ht
    rw [Stmt.tokens, ← List.cons_append]
    exact List.mem_append_left _ ht
  | expression e =>
    rw [headTokens] at ht
    rw [Stmt.tokens]
    exact List.mem_append_left _ ht
  | _ => cases ht

theorem spelled_head {initial : Option Stmt} (h : ∀ s ∈ initial, ∀ t ∈ s.tokens, t.Spelled numeral) :
    ∀ t ∈ headTokens initial, t.Spelled numeral := by
  cases initial with
  | none => exact fun t ht => absurd ht List.not_mem_nil
  | some s => exact fun t ht => h s rfl t (headTokens_subset s ht)

theorem spelled_binding {binding : LoopBinding}
    (h : (Token.identifier binding.name).Spelled numeral) :
    ∀ t ∈ binding.tokens, t.Spelled numeral := by
  cases binding with
  | declare kind name =>
    rw [LoopBinding.tokens, List.forall_mem_cons, List.forall_mem_singleton]
    exact ⟨trivial, h⟩
  | assign name => exact List.forall_mem_singleton.mpr h

/-- A name after a point is spelled as an identifier or as a keyword. -/
theorem spelled_word {name : String} (h : (Token.identifier name).Spelled numeral ∨
    ∃ k : Keyword, k.text = name) : (Lexer.word name).Spelled numeral := by
  unfold Lexer.word
  cases hword : Keyword.ofText? name with
  | some k => exact trivial
  | none =>
    rcases h with h | ⟨k, rfl⟩
    · exact h
    · rw [Keyword.ofText?_text] at hword
      cases hword

variable {known : Token → Prop} (hknown : ∀ t, known t → t = .endOfInput ∨ t.Spelled numeral)

include hknown

theorem spelled_identifier {name : String} (h : known (.identifier name)) :
    (Token.identifier name).Spelled numeral :=
  (hknown _ h).resolve_left Token.noConfusion

mutual

/-- The tokens of a proper expression over spelled identifiers and numbers are spelled. -/
theorem Expr.Proper.spelled {e : Expr} : e.Proper known → ∀ t ∈ e.tokens, t.Spelled numeral
  | .number h => List.forall_mem_singleton.mpr ((hknown _ h).resolve_left Token.noConfusion)
  | .string _ => List.forall_mem_singleton.mpr trivial
  | .boolean _ => List.forall_mem_singleton.mpr trivial
  | .null => List.forall_mem_singleton.mpr trivial
  | .array h => by
    have hitems := spelled_items fun e he => (h e he).spelled
    rw [Expr.tokens, List.forall_mem_cons, List.forall_mem_append, List.forall_mem_singleton]
    exact ⟨trivial, hitems, trivial⟩
  | .object h => by
    have hproperties := spelled_properties fun p hp => (h p hp).spelled
    rw [Expr.tokens, List.forall_mem_cons, List.forall_mem_append, List.forall_mem_singleton]
    exact ⟨trivial, hproperties, trivial⟩
  | .function h => by
    rw [Expr.tokens]
    exact h.spelled
  | .identifier h => List.forall_mem_singleton.mpr (spelled_identifier hknown h)
  | .member howner hname => by
    have howner := spelled_parens howner.spelled
    have hname := spelled_word (hname.imp_left (spelled_identifier hknown))
    rw [Expr.tokens, List.forall_mem_append, List.forall_mem_cons, List.forall_mem_singleton]
    exact ⟨howner, trivial, hname⟩
  | .index howner hkey => by
    have howner := spelled_parens howner.spelled
    have hkey := spelled_parens hkey.spelled
    rw [Expr.tokens, List.forall_mem_append, List.forall_mem_cons, List.forall_mem_append,
      List.forall_mem_singleton]
    exact ⟨howner, trivial, hkey, trivial⟩
  | .call hcallee harguments => by
    have hcallee := spelled_parens hcallee.spelled
    have harguments := spelled_items fun e he => (harguments e he).spelled
    rw [Expr.tokens, List.forall_mem_append, List.forall_mem_cons, List.forall_mem_append,
      List.forall_mem_singleton]
    exact ⟨hcallee, trivial, harguments, trivial⟩
  | .unary op h => by
    have hoperand := spelled_parens h.spelled
    rw [Expr.tokens, List.forall_mem_cons]
    exact ⟨by cases op <;> trivial, hoperand⟩
  | .update op first _ h => by
    have htarget := spelled_parens h.spelled
    cases first with
    | true =>
      rw [Expr.tokens, List.forall_mem_cons]
      exact ⟨trivial, htarget⟩
    | false =>
      rw [Expr.tokens, List.forall_mem_append, List.forall_mem_singleton]
      exact ⟨htarget, trivial⟩
  | .join o hleft hright => by
    have hleft := spelled_parens hleft.spelled
    have hright := spelled_parens hright.spelled
    cases o <;>
    · rw [Infix.join, Expr.tokens, List.forall_mem_append, List.forall_mem_cons]
      exact ⟨hleft, trivial, hright⟩
  | .conditional htest hconsequent halternate => by
    have htest := spelled_parens htest.spelled
    have hconsequent := spelled_parens hconsequent.spelled
    have halternate := spelled_parens halternate.spelled
    rw [Expr.tokens, List.forall_mem_append, List.forall_mem_cons, List.forall_mem_append,
      List.forall_mem_cons]
    exact ⟨htest, trivial, hconsequent, trivial, halternate⟩
  | .assign _ _ htarget hvalue => by
    have htarget := htarget.spelled
    have hvalue := spelled_parens hvalue.spelled
    rw [Expr.tokens, List.forall_mem_append, List.forall_mem_cons]
    exact ⟨htarget, trivial, hvalue⟩
  | .sequence h => by
    rw [Expr.tokens]
    exact spelled_items fun e he => (h e he).spelled

/-- The tokens of a proper statement are spelled. -/
theorem Stmt.Proper.spelled {inLoop : Bool} {s : Stmt} :
    s.Proper known inLoop → ∀ t ∈ s.tokens, t.Spelled numeral
  | .declaration hname hinitial _ => by
    have hds := spelled_declarators (fun d hd => spelled_identifier hknown (hname d hd))
      fun d hd e he => (hinitial d hd e he).spelled
    rw [Stmt.tokens, List.forall_mem_cons, List.forall_mem_append, List.forall_mem_singleton]
    exact ⟨trivial, hds, trivial⟩
  | .function h _ => by
    rw [Stmt.tokens]
    exact h.spelled
  | .branch htest hconsequent => by
    have htest := spelled_parens htest.spelled
    have hconsequent := hconsequent.spelled
    rw [Stmt.tokens, List.forall_mem_cons, List.forall_mem_append, List.forall_mem_append]
    exact ⟨trivial, htest, hconsequent, by simp [alternateTokens]⟩
  | .choice htest hconsequent _ halternate => by
    have htest := spelled_parens htest.spelled
    have hconsequent := hconsequent.spelled
    have halternate := halternate.spelled
    rw [Stmt.tokens, List.forall_mem_cons, List.forall_mem_append, List.forall_mem_append,
      alternateTokens, List.forall_mem_cons]
    exact ⟨trivial, htest, hconsequent, trivial, halternate⟩
  | .loop _ hinitial htest hupdate hbody => by
    have hhead := spelled_head fun s hs => (hinitial s hs).spelled
    have htest := spelled_option fun e he => (htest e he).spelled
    have hupdate := spelled_option fun e he => (hupdate e he).spelled
    have hbody := hbody.spelled
    rw [Stmt.tokens, List.forall_mem_cons, List.forall_mem_cons, List.forall_mem_append,
      List.forall_mem_cons, List.forall_mem_append, List.forall_mem_cons, List.forall_mem_append,
      List.forall_mem_cons]
    exact ⟨trivial, trivial, hhead, trivial, htest, trivial, hupdate, trivial, hbody⟩
  | .loopOf hname hiterable hbody => by
    have hbinding := spelled_binding (spelled_identifier hknown hname)
    have hiterable := spelled_parens hiterable.spelled
    have hbody := hbody.spelled
    rw [Stmt.tokens, List.forall_mem_cons, List.forall_mem_cons, List.forall_mem_append,
      List.forall_mem_cons, List.forall_mem_append, List.forall_mem_cons]
    exact ⟨trivial, trivial, hbinding, isIdentifier_of, hiterable, trivial, hbody⟩
  | .loopIn hname hobject hbody => by
    have hbinding := spelled_binding (spelled_identifier hknown hname)
    have hobject := spelled_parens hobject.spelled
    have hbody := hbody.spelled
    rw [Stmt.tokens, List.forall_mem_cons, List.forall_mem_cons, List.forall_mem_append,
      List.forall_mem_cons, List.forall_mem_append, List.forall_mem_cons]
    exact ⟨trivial, trivial, hbinding, trivial, hobject, trivial, hbody⟩
  | .loopWhile htest hbody => by
    have htest := spelled_parens htest.spelled
    have hbody := hbody.spelled
    rw [Stmt.tokens, List.forall_mem_cons, List.forall_mem_append]
    exact ⟨trivial, htest, hbody⟩
  | .breakLoop => by simp [Stmt.tokens, Token.Spelled]
  | .continueLoop => by simp [Stmt.tokens, Token.Spelled]
  | .returning h => by
    have hvalue := spelled_option fun e he => (h e he).spelled
    rw [Stmt.tokens, List.forall_mem_cons, List.forall_mem_append, List.forall_mem_singleton]
    exact ⟨trivial, hvalue, trivial⟩
  | .within hobject hbody => by
    have hobject := spelled_parens hobject.spelled
    have hbody := hbody.spelled
    rw [Stmt.tokens, List.forall_mem_cons, List.forall_mem_append]
    exact ⟨trivial, hobject, hbody⟩
  | .block h => by
    have hbody := spelled_body fun s hs => (h s hs).spelled
    rw [Stmt.tokens, List.forall_mem_cons, List.forall_mem_append, List.forall_mem_singleton]
    exact ⟨trivial, hbody, trivial⟩
  | .empty => List.forall_mem_singleton.mpr trivial
  | .expression h => by
    have he := spelled_parens h.spelled
    rw [Stmt.tokens, List.forall_mem_append, List.forall_mem_singleton]
    exact ⟨he, trivial⟩

/-- The tokens of a proper function are spelled. -/
theorem FunctionOf.Proper.spelled {f : Function} : f.Proper known → ∀ t ∈ f.tokens, t.Spelled numeral
  | .mk hname hparams hrest hbody => by
    have hparams := spelled_parameters (fun n hn => spelled_identifier hknown (hparams n hn))
      fun n hn => spelled_identifier hknown (hrest n hn)
    have hbody := spelled_body fun s hs => (hbody s hs).spelled
    have hname := spelled_names fun n hn => spelled_identifier hknown (hname n hn)
    rw [FunctionOf.tokens_eq, List.forall_mem_cons, List.forall_mem_append, List.forall_mem_cons,
      List.forall_mem_append, List.forall_mem_cons, List.forall_mem_cons, List.forall_mem_append,
      List.forall_mem_singleton]
    exact ⟨trivial, hname, trivial, hparams, trivial, trivial, hbody, trivial⟩

end

end Spelling

end Microtemplate.Script
