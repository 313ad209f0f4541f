import Microtemplate.Proofs.Script.Closing
import Microtemplate.Proofs.Script.TokenReaders

/-!
The ends of tokens. Where a token has ended, the text may stop, or it may go on with a closing character
instead of what stands there: no word, no number and no punctuator runs on into one, and a string has its
quote before its end. So the same token is read from its characters, whatever text they come from.
-/

namespace Microtemplate.Script

namespace Lexer

open Decimal (signOf fractionOf)

section Ends

variable {cs left old start start' : List Char}

/-- What ends with a text is longer than the text by the rest of it. -/
theorem exists_append_of_suffix {ds : List Char} (h : left ++ old <:+ ds) : ∃ es, ds = es ++ old := by
  obtain ⟨before, rfl⟩ := h
  exact ⟨before ++ left, (List.append_assoc ..).symm⟩

/-- What ends with a text is no shorter. -/
theorem length_le_of_suffix {ds : List Char} (h : left ++ old <:+ ds) : old.length ≤ ds.length := by
  have hle := h.length_le
  rw [List.length_append] at hle
  omega

/-- A reader that takes a character at least takes it before the end of what it reads. -/
theorem ne_nil_of_tail (h : ∃ c ds, cs ++ old = c :: ds ∧ left ++ old <:+ ds) : cs ≠ [] := by
  rintro rfl
  obtain ⟨c, ds, rfl, hsuffix⟩ := h
  exact Nat.not_succ_le_self _ (length_le_of_suffix hsuffix)

/-- What is so of the first character of a text is so of that of another text with the same start. -/
theorem forall_head_append {P : Char → Prop} {new : List Char} (h : ∀ c ∈ (left ++ old).head?, P c)
    (hnew : ∀ c ∈ new.head?, P c) : ∀ c ∈ (left ++ new).head?, P c := by
  cases left with
  | nil => exact hnew
  | cons d left => exact h

/-- A text that is left as a whole has nothing before it. -/
theorem span_whole {p : Char → Bool} (h : (old.span p).2 = left ++ old) :
    left = [] ∧ (old.span p).1 = [] := by
  rw [List.span_eq_takeWhile_dropWhile] at h ⊢
  have hsum := congrArg List.length (List.takeWhile_append_dropWhile (p := p) (l := old))
  dsimp only at h ⊢
  rw [h, List.length_append, List.length_append] at hsum
  exact ⟨List.eq_nil_of_length_eq_zero (by omega), List.eq_nil_of_length_eq_zero (by omega)⟩

variable {new : List Char} (hnew : Closing new)

include hnew

/-- No other character stands at the start of what a text goes on with. -/
theorem append_ne_cons {d : Char} (hd : closes d = false) (h : ∀ ds, cs ≠ d :: ds) (ds : List Char) :
    cs ++ new ≠ d :: ds := by
  cases cs with
  | nil => exact hnew.ne_cons hd ds
  | cons e es =>
    intro hds
    obtain ⟨rfl, -⟩ := List.cons.inj hds
    exact h es rfl

/-- A run of characters that do not close is over before them. -/
theorem span_replace {p : Char → Bool} (hp : ∀ c, closes c = true → p c = false)
    (h : ((cs ++ old).span p).2 = left ++ old) :
    (cs ++ new).span p = (((cs ++ old).span p).1, left ++ new) := by
  induction cs with
  | nil =>
    obtain ⟨rfl, hnone⟩ := span_whole h
    rw [List.nil_append] at hnone
    rw [List.nil_append, List.nil_append, hnone, List.span_eq_takeWhile_dropWhile]
    cases new with
    | nil => rfl
    | cons c new =>
      have hc : ¬ p c = true := by rw [hp c (hnew c rfl)]; exact Bool.false_ne_true
      rw [List.takeWhile_cons_of_neg hc, List.dropWhile_cons_of_neg hc]
  | cons d ds ih =>
    simp only [List.span_eq_takeWhile_dropWhile, List.cons_append] at h ih ⊢
    cases hd : p d with
    | true =>
      rw [List.dropWhile_cons_of_pos hd] at h
      rw [List.takeWhile_cons_of_pos hd, List.takeWhile_cons_of_pos hd, List.dropWhile_cons_of_pos hd]
      obtain ⟨htaken, hleft⟩ := Prod.mk.inj (ih h)
      rw [htaken, hleft]
    | false =>
      have hd' : ¬ p d = true := by rw [hd]; exact Bool.false_ne_true
      rw [List.dropWhile_cons_of_neg hd', ← List.cons_append] at h
      rw [List.takeWhile_cons_of_neg hd', List.takeWhile_cons_of_neg hd', List.dropWhile_cons_of_neg hd',
        ← List.append_cancel_right h, List.cons_append]

theorem endNumber_replace {value x : Float} {rest : List Char}
    (h : endNumber start value (left ++ old) = .ok (x, rest)) :
    endNumber start' value (left ++ new) = .ok (x, left ++ new) := by
  obtain ⟨hx, -, hend⟩ := endNumber_eq_ok_iff.mp h
  refine endNumber_eq_ok_iff.mpr ⟨hx, rfl, forall_head_append hend fun c hc => ?_⟩
  rw [isIdentifierStart_of_closes (hnew c hc), isDigit_of_closes (hnew c hc)]
  rfl

theorem hexadecimal_replace {x : Float} (h : hexadecimal start (cs ++ old) = .ok (x, left ++ old)) :
    hexadecimal start' (cs ++ new) = .ok (x, left ++ new) := by
  rw [hexadecimal] at h ⊢
  dsimp only at h ⊢
  split at h
  · cases h
  · rename_i hdigits
    obtain ⟨-, hrest, -⟩ := endNumber_eq_ok_iff.mp h
    rw [← hrest] at h
    rw [span_replace hnew (fun _ => isHexDigit_of_closes) hrest.symm, if_neg hdigits]
    exact endNumber_replace hnew h

/-- The figures of an exponent stand before its end, so the sign does too. -/
theorem exponent_replace {power : Int} (h : exponent (cs ++ old) = .ok (power, left ++ old)) :
    exponent (cs ++ new) = .ok (power, left ++ new) := by
  by_cases hletter : ∃ d ds, (d = 'e' ∨ d = 'E') ∧ cs = d :: ds
  · obtain ⟨d, ds, hd, rfl⟩ := hletter
    rw [List.cons_append] at h ⊢
    obtain ⟨hfigures, hpower, hrest⟩ := (exponent_letter hd).mp h
    have hds : ds ≠ [] := by
      rintro rfl
      rw [List.nil_append] at hfigures hrest
      have hsign : (signOf old).2 = old := by
        refine (signOf_leaves old).suffix.eq_of_length_le ?_
        exact length_le_of_suffix (hrest ▸ span_suffix Char.isDigit (signOf old).2)
      rw [hsign] at hfigures hrest
      rw [(span_whole hrest.symm).2] at hfigures
      cases hfigures
    rw [signOf_append hds] at hfigures hpower hrest
    have hspan := span_replace hnew (fun _ => isDigit_of_closes) hrest.symm
    rw [exponent_letter hd, signOf_append hds, hspan]
    exact ⟨hfigures, hpower, rfl⟩
  · have hnone : ∀ d ∈ (cs ++ old).head?, ¬ (d = 'e' ∨ d = 'E') := by
      intro d hd hd'
      cases cs with
      | nil =>
        obtain ⟨ds, rfl⟩ := List.head?_eq_some_iff.mp hd
        obtain ⟨-, -, hrest⟩ := (exponent_letter hd').mp h
        have hsuffix := (span_suffix Char.isDigit (signOf ds).2).trans (signOf_leaves ds).suffix
        have hle := length_le_of_suffix (hrest ▸ hsuffix)
        exact Nat.not_succ_le_self _ hle
      | cons e ds => exact hletter ⟨e, ds, Option.some.inj hd ▸ hd', rfl⟩
    have hnone' : ∀ d ∈ (cs ++ new).head?, ¬ (d = 'e' ∨ d = 'E') := by
      refine forall_head_append hnone fun d hd => ?_
      exact not_or.mpr ⟨ne_of_closes (hnew d hd) rfl, ne_of_closes (hnew d hd) rfl⟩
    rw [exponent_none hnone] at h
    obtain ⟨rfl, hleft⟩ := Prod.mk.inj (Except.ok.inj h)
    rw [exponent_none hnone', List.append_cancel_right hleft]

theorem fractionOf_replace (h : (fractionOf (cs ++ old)).2 = left ++ old) :
    fractionOf (cs ++ new) = ((fractionOf (cs ++ old)).1, left ++ new) := by
  by_cases hpoint : ∃ ds, cs = '.' :: ds
  · obtain ⟨ds, rfl⟩ := hpoint
    exact span_replace hnew (fun _ => isDigit_of_closes) h
  · have hnone : ∀ ds, cs ++ old ≠ '.' :: ds := by
      intro ds hds
      cases cs with
      | nil =>
        rw [List.nil_append] at h hds
        subst hds
        have hle := length_le_of_suffix (h ▸ span_suffix Char.isDigit ds)
        exact Nat.not_succ_le_self _ hle
      | cons e es =>
        obtain ⟨rfl, -⟩ := List.cons.inj hds
        exact hpoint ⟨es, rfl⟩
    have hnone' := append_ne_cons hnew (d := '.') rfl fun ds hds => hpoint ⟨ds, hds⟩
    rw [Decimal.fractionOf.eq_2 _ hnone] at h ⊢
    rw [Decimal.fractionOf.eq_2 _ hnone', List.append_cancel_right h]

theorem decimal_replace {x : Float} (h : decimal (cs ++ old) = .ok (x, left ++ old)) :
    decimal (cs ++ new) = .ok (x, left ++ new) := by
  rw [decimal_eq] at h ⊢
  obtain ⟨⟨power, after⟩, hpower, hnumber⟩ := bind_eq_ok.mp h
  obtain ⟨-, rfl, -⟩ := endNumber_eq_ok_iff.mp hnumber
  have hexponent := (exponent_leaves hpower).suffix
  obtain ⟨more, hmore⟩ := exists_append_of_suffix hexponent
  obtain ⟨fraction, hfraction⟩ :=
    exists_append_of_suffix (hexponent.trans (fractionOf_leaves _).suffix)
  rw [hfraction] at hmore hpower hnumber
  rw [hmore] at hpower
  rw [span_replace hnew (fun _ => isDigit_of_closes) hfraction, fractionOf_replace hnew hmore]
  exact bind_eq_ok.mpr ⟨_, exponent_replace hnew hpower, endNumber_replace hnew hnumber⟩

/-- A zero at the end of a text is no start of a hexadecimal number. -/
theorem number_replace {x : Float} (hcs : cs ≠ []) (h : number (cs ++ old) = .ok (x, left ++ old)) :
    number (cs ++ new) = .ok (x, left ++ new) := by
  by_cases hprefix : ∃ c ds, (c = 'x' ∨ c = 'X') ∧ cs = '0' :: c :: ds
  · obtain ⟨c, ds, hc, rfl⟩ := hprefix
    rw [List.cons_append, List.cons_append, number_hexadecimal hc] at h ⊢
    exact hexadecimal_replace hnew h
  obtain ⟨d, ds, rfl⟩ := List.exists_cons_of_ne_nil hcs
  have hlast : ∀ {more : List Char} {c : Char}, c = 'x' ∨ c = 'X' → ∀ es,
      d :: ds ++ more = '0' :: c :: es → d = '0' ∧ ds = [] ∧ more = c :: es := by
    intro more c hc es hes
    obtain ⟨rfl, htail⟩ := List.cons.inj hes
    cases ds with
    | nil => exact ⟨rfl, rfl, htail⟩
    | cons e ds =>
      obtain ⟨rfl, -⟩ := List.cons.inj htail
      exact absurd ⟨e, ds, hc, rfl⟩ hprefix
  have hold : ∀ c, c = 'x' ∨ c = 'X' → ∀ es, d :: ds ++ old ≠ '0' :: c :: es := by
    intro c hc es hes
    obtain ⟨rfl, rfl, rfl⟩ := hlast hc es hes
    rw [List.cons_append, List.nil_append, number_hexadecimal hc] at h
    have hle := length_le_of_suffix (hexadecimal_leaves h).1.suffix
    exact Nat.not_succ_le_self _ hle
  have hnew' : ∀ c, c = 'x' ∨ c = 'X' → ∀ es, d :: ds ++ new ≠ '0' :: c :: es := by
    intro c hc es hes
    obtain ⟨-, -, hmore⟩ := hlast hc es hes
    exact hnew.ne_cons (by rcases hc with rfl | rfl <;> rfl) es hmore
  rw [number_decimal hold] at h
  rw [number_decimal hnew']
  exact decimal_replace hnew h

omit hnew in
theorem hexDigits_replace {count code : Nat}
    (h : hexDigits count start (cs ++ old) = .ok (code, left ++ old)) (new : List Char) :
    hexDigits count start' (cs ++ new) = .ok (code, left ++ new) := by
  obtain ⟨hlength, hdigits, hcode, hrest⟩ := hexDigits_eq_ok_iff.mp h
  have hcount : count ≤ cs.length := by
    have hleft := congrArg List.length hrest
    rw [List.length_drop, List.length_append] at hleft
    rw [List.length_append] at hleft hlength
    omega
  rw [List.take_append_of_le_length hcount] at hdigits hcode
  rw [List.drop_append_of_le_length hcount] at hrest
  rw [hexDigits_eq_ok_iff, List.take_append_of_le_length hcount, List.drop_append_of_le_length hcount,
    List.length_append, List.append_cancel_right hrest]
  exact ⟨Nat.le_add_right_of_le hcount, hdigits, hcode, rfl⟩

theorem unicodeEscape_replace {code : Nat}
    (h : unicodeEscape start (cs ++ old) = .ok (code, left ++ old)) :
    unicodeEscape start' (cs ++ new) = .ok (code, left ++ new) := by
  by_cases hbrace : ∃ ds, cs = '\x7b' :: ds
  · obtain ⟨ds, rfl⟩ := hbrace
    rw [List.cons_append] at h ⊢
    obtain ⟨hafter, hdigits, hrange, hcode⟩ := unicodeEscape_brace_iff.mp h
    have hspan : (ds ++ new).span isHexDigit =
        (((ds ++ old).span isHexDigit).1, '\x7d' :: left ++ new) :=
      span_replace hnew (fun _ => isHexDigit_of_closes) hafter
    rw [unicodeEscape_brace_iff, hspan]
    exact ⟨rfl, hdigits, hrange, hcode⟩
  · have hold : ∀ ds, cs ++ old ≠ '\x7b' :: ds := by
      intro ds hds
      obtain ⟨d, es, rfl⟩ := List.exists_cons_of_ne_nil (ne_nil_of_tail (unicodeEscape_tail h))
      obtain ⟨rfl, -⟩ := List.cons.inj hds
      exact hbrace ⟨es, rfl⟩
    have hnew' := append_ne_cons hnew (d := '\x7b') rfl fun ds hds => hbrace ⟨ds, hds⟩
    rw [unicodeEscape_plain hold] at h
    rw [unicodeEscape_plain hnew']
    exact hexDigits_replace h new

/-- An escape of a code that is left before some text ends before it. -/
def EscapeEnds (old left : List Char) : Prop :=
  ∀ after, left = '\\' :: 'u' :: after →
    ∃ code more, unicodeEscape after (after ++ old) = .ok (code, more ++ old)

omit hnew in
/-- An escape sequence that starts in a text and runs into what comes after it is no second half. -/
theorem pairSurrogates_alone_of_append {code : Nat} {c : Char}
    (h : pairSurrogates start code (cs ++ old) = .ok (c, left ++ old))
    (hnone : IsHighSurrogate code → ∀ after, cs ≠ '\\' :: 'u' :: after) :
    c = charOfCode code ∧ left = cs := by
  by_cases hlonger : IsHighSurrogate code ∧ ∃ after, cs ++ old = '\\' :: 'u' :: after
  · obtain ⟨hhigh, after, hafter⟩ := hlonger
    rw [hafter] at h
    obtain ⟨low, rest, hlow, ⟨-, -, rfl⟩ | ⟨-, hc, hrest⟩⟩ := (pairSurrogates_escape hhigh).mp h
    · -- the second half would be read from more of the text than is taken
      obtain ⟨d, ds, rfl, hsuffix⟩ := unicodeEscape_tail hlow
      have hle := length_le_of_suffix hsuffix
      have hlength := congrArg List.length hafter
      simp only [List.length_append, List.length_cons] at hlength
      obtain _ | ⟨a, _ | ⟨b, cs⟩⟩ := cs
      · rw [List.length_nil] at hlength
        omega
      · rw [List.length_singleton] at hlength
        omega
      · obtain ⟨rfl, htail⟩ := List.cons.inj hafter
        obtain ⟨rfl, -⟩ := List.cons.inj htail
        exact absurd rfl (hnone hhigh cs)
    · exact ⟨hc, List.append_cancel_right (hrest.trans hafter.symm)⟩
  · rw [pairSurrogates_alone fun hhigh after hafter => hlonger ⟨hhigh, after, hafter⟩] at h
    obtain ⟨hc, hrest⟩ := Prod.mk.inj (Except.ok.inj h)
    exact ⟨hc.symm, (List.append_cancel_right hrest).symm⟩

/-- A high surrogate looks for a low one only up to the end of the escape that may hold it. -/
theorem pairSurrogates_replace {code : Nat} {c : Char}
    (h : pairSurrogates start code (cs ++ old) = .ok (c, left ++ old)) (hleft : EscapeEnds old left) :
    pairSurrogates start' code (cs ++ new) = .ok (c, left ++ new) := by
  by_cases hescape : IsHighSurrogate code ∧ ∃ after, cs = '\\' :: 'u' :: after
  · obtain ⟨hhigh, after, rfl⟩ := hescape
    simp only [List.cons_append] at h ⊢
    obtain ⟨low, rest, hlow, hread⟩ := (pairSurrogates_escape hhigh).mp h
    refine (pairSurrogates_escape hhigh).mpr ?_
    rcases hread with ⟨hpair, hc, rfl⟩ | ⟨hpair, hc, hrest⟩
    · exact ⟨low, _, unicodeEscape_replace hnew hlow, .inl ⟨hpair, hc, rfl⟩⟩
    · obtain rfl : left = '\\' :: 'u' :: after := List.append_cancel_right hrest
      obtain ⟨low', more, hmore⟩ := hleft after rfl
      have hmore' := unicodeEscape_start hmore start
      obtain ⟨rfl, rfl⟩ := Prod.mk.inj (Except.ok.inj (hlow.symm.trans hmore'))
      exact ⟨low, _, unicodeEscape_replace hnew hlow, .inr ⟨hpair, hc, rfl⟩⟩
  have hnone : IsHighSurrogate code → ∀ after, cs ≠ '\\' :: 'u' :: after :=
    fun hhigh after hafter => hescape ⟨hhigh, after, hafter⟩
  have hnone' : IsHighSurrogate code → ∀ after, cs ++ new ≠ '\\' :: 'u' :: after := by
    intro hhigh after hafter
    cases cs with
    | nil => exact hnew.ne_cons rfl _ hafter
    | cons e es =>
      obtain ⟨rfl, htail⟩ := List.cons.inj hafter
      exact append_ne_cons hnew rfl (fun ds hds => hnone hhigh ds (hds ▸ rfl)) after htail
  obtain ⟨rfl, rfl⟩ := pairSurrogates_alone_of_append h hnone
  exact pairSurrogates_alone hnone'

omit hnew in
/-- Where an escape sequence is one character, what comes after the rest of the string plays no part. -/
theorem escape_other_append {chars rest ds old : List Char} {d : Char}
    (h : escape start (d :: (ds ++ old)) = .ok (chars, rest))
    (hletter : d ∉ ['n', 'r', 't', 'b', 'f', 'v', 'x', 'u', '0'])
    (hfeed : ∀ es, d = '\r' → ds ≠ '\n' :: es) (hds : ds ≠ []) (new : List Char) :
    rest = ds ++ old ∧ escape start' (d :: (ds ++ new)) = .ok (chars, ds ++ new) := by
  -- something of the string stands after the sequence, so no line feed joins it
  have hfeed' : ∀ more es, d = '\r' → ds ++ more ≠ '\n' :: es := by
    intro more es hd hes
    obtain ⟨e, ds, rfl⟩ := List.exists_cons_of_ne_nil hds
    obtain ⟨rfl, -⟩ := List.cons.inj hes
    exact hfeed ds hd rfl
  rw [escape_other hletter (hfeed' old)] at h
  rw [escape_other hletter (hfeed' new)]
  split at h
  · rename_i hend
    obtain ⟨rfl, rfl⟩ := Prod.mk.inj (Except.ok.inj h)
    exact ⟨rfl, if_pos hend⟩
  · rename_i hend
    split at h
    · cases h
    · rename_i hdigit
      obtain ⟨rfl, rfl⟩ := Prod.mk.inj (Except.ok.inj h)
      exact ⟨rfl, by rw [if_neg hend, if_neg hdigit]⟩

/-- An escape sequence with some text left of the string is read in the same way wherever it stands. -/
theorem escape_replace {chars : List Char} (h : escape start (cs ++ old) = .ok (chars, left ++ old))
    (hne : left ≠ []) (hleft : EscapeEnds old left) :
    escape start' (cs ++ new) = .ok (chars, left ++ new) := by
  obtain ⟨d, ds, rfl⟩ := List.exists_cons_of_ne_nil (ne_nil_of_tail (escape_tail h))
  have hsuffix : left ++ old <:+ ds ++ old := by
    obtain ⟨_, _, hsplit, hsuffix⟩ := escape_tail h
    rw [List.cons_append] at hsplit
    rwa [(List.cons.inj hsplit).2]
  rw [List.cons_append] at h ⊢
  by_cases hletter : d ∈ ['n', 'r', 't', 'b', 'f', 'v', 'x', 'u', '0']
  · have hdirect : ∀ {chars'}, escape start (d :: (ds ++ old)) = .ok (chars', ds ++ old) →
        escape start' (d :: (ds ++ new)) = .ok (chars', ds ++ new) →
        escape start' (d :: (ds ++ new)) = .ok (chars, left ++ new) := by
      intro chars' hlong hread
      obtain ⟨rfl, hrest⟩ := Prod.mk.inj (Except.ok.inj (hlong.symm.trans h))
      rw [hread, List.append_cancel_right hrest]
    simp only [List.mem_cons, List.not_mem_nil, or_false] at hletter
    rcases hletter with rfl | rfl | rfl | rfl | rfl | rfl | rfl | rfl | rfl
    case inr.inr.inr.inr.inr.inr.inl =>
      rw [escape] at h ⊢
      obtain ⟨⟨code, rest⟩, hcode, hread⟩ := bind_eq_ok.mp h
      obtain ⟨rfl, rfl⟩ := Prod.mk.inj (Except.ok.inj hread)
      exact bind_eq_ok.mpr ⟨_, hexDigits_replace hcode new, rfl⟩
    case inr.inr.inr.inr.inr.inr.inr.inl =>
      obtain ⟨code, after, c, hcode, hpair, rfl⟩ := escape_code.mp h
      obtain ⟨more, rfl⟩ := exists_append_of_suffix (pairSurrogates_suffix hpair)
      exact escape_code.mpr ⟨code, _, c, unicodeEscape_replace hnew hcode,
        pairSurrogates_replace hnew hpair hleft, rfl⟩
    case inr.inr.inr.inr.inr.inr.inr.inr =>
      obtain ⟨hfigure, rfl, hrest⟩ := escape_zero.mp h
      obtain rfl := List.append_cancel_right hrest
      refine escape_zero.mpr ⟨forall_head_append hfigure fun c hc => ?_, rfl, rfl⟩
      exact isDigit_of_closes (hnew c hc)
    all_goals exact hdirect rfl rfl
  by_cases hfeed : ∃ es, d = '\r' ∧ ds = '\n' :: es
  · obtain ⟨es, rfl, rfl⟩ := hfeed
    obtain ⟨rfl, hrest⟩ := Prod.mk.inj (Except.ok.inj h)
    rw [← List.append_cancel_right hrest]
    rfl
  · have hds : ds ≠ [] := by
      rintro rfl
      have hle := hsuffix.length_le
      rw [List.nil_append, List.length_append] at hle
      exact hne (List.eq_nil_of_length_eq_zero (by omega))
    obtain ⟨hrest, hread⟩ :=
      escape_other_append h hletter (fun es hd hes => hfeed ⟨es, hd, hes⟩) hds new
    rw [hread, List.append_cancel_right hrest]

omit hnew in
/-- What is left in a string starts with no escape that runs over the end of the string. -/
theorem escapeEnds_of_stringBody {quote : Char} (hquote : quote ≠ '\\') {n : Nat} {chars : List Char}
    (h : stringBody quote start n (cs ++ old) = .ok (chars, left ++ old)) : EscapeEnds old cs := by
  rintro ds rfl
  cases n with
  | zero => cases h
  | succ n =>
    obtain ⟨first, after, more, hescape, hmore, -⟩ := (stringBody_backslash hquote).mp h
    obtain ⟨taken, hafter⟩ := stringBody_leaves hquote hmore
    have hsuffix : left ++ old <:+ after := ⟨taken ++ [quote], by rw [hafter]; simp⟩
    obtain ⟨code, rest, c, hcode, hpair, -⟩ := escape_code.mp hescape
    obtain ⟨more, rfl⟩ := exists_append_of_suffix (hsuffix.trans (pairSurrogates_suffix hpair))
    exact ⟨code, more, unicodeEscape_start hcode ds⟩

theorem stringBody_replace {quote : Char} (hquote : quote ≠ '\\') {n m : Nat} {chars : List Char}
    (h : stringBody quote start n (cs ++ old) = .ok (chars, left ++ old)) (hm : cs.length < m) :
    stringBody quote start' m (cs ++ new) = .ok (chars, left ++ new) := by
  induction n generalizing m cs chars with
  | zero => cases h
  | succ n ih =>
    have hcs : cs ≠ [] := by
      rintro rfl
      obtain ⟨taken, htaken⟩ := stringBody_leaves hquote h
      have hlength := congrArg List.length htaken
      simp only [List.length_append, List.length_cons, List.nil_append] at hlength
      omega
    obtain ⟨d, ds, rfl⟩ := List.exists_cons_of_ne_nil hcs
    obtain ⟨m, rfl⟩ : ∃ k, m = k + 1 := ⟨m - 1, by omega⟩
    rw [List.length_cons] at hm
    rw [List.cons_append] at h ⊢
    by_cases hslash : d = '\\'
    · subst hslash
      obtain ⟨first, after, more, hescape, hmore, rfl⟩ := (stringBody_backslash hquote).mp h
      obtain ⟨taken, hafter⟩ := stringBody_leaves hquote hmore
      obtain rfl : after = (taken ++ quote :: left) ++ old := by rw [hafter]; simp
      have hshorter := (escape_suffix hescape).length_le
      have hfirst : escape ('\\' :: (ds ++ new)) (ds ++ new) =
          .ok (first, (taken ++ quote :: left) ++ new) :=
        escape_replace hnew hescape (by simp) (escapeEnds_of_stringBody hquote hmore)
      refine (stringBody_backslash hquote).mpr ⟨first, _, more, hfirst, ih hmore ?_, rfl⟩
      simp only [List.length_append] at hshorter ⊢
      omega
    · rcases (stringBody_cons hslash).mp h with ⟨rfl, rfl, hrest⟩ | ⟨hend, hn, hr, more, hmore, rfl⟩
      · exact (stringBody_cons hslash).mpr (.inl ⟨rfl, rfl, by rw [List.append_cancel_right hrest]⟩)
      · exact (stringBody_cons hslash).mpr (.inr ⟨hend, hn, hr, more, ih hmore (by omega), rfl⟩)

omit hnew in
/-- A text of more than a point starts a number whatever comes after it. -/
theorem startsNumber_append_of_ne (hcs : cs ≠ []) (hpoint : cs ≠ ['.']) (more : List Char) :
    startsNumber (cs ++ more) = startsNumber cs := by
  obtain ⟨d, ds, rfl⟩ := List.exists_cons_of_ne_nil hcs
  by_cases hd : d = '.'
  · subst hd
    cases ds with
    | nil => exact absurd rfl hpoint
    | cons e es => rfl
  · rw [List.cons_append, startsNumber_cons_of_ne hd, startsNumber_cons_of_ne hd]

omit hnew in
/-- A number that starts with a point takes the figure after it. -/
theorem startsNumber_of_number {x : Float} (hcs : cs ≠ []) (hstart : startsNumber (cs ++ old) = true)
    (h : number (cs ++ old) = .ok (x, left ++ old)) : startsNumber cs = true := by
  by_cases hpoint : cs = ['.']
  · subst hpoint
    cases old with
    | nil => exact hstart
    | cons e es =>
      have hfigure : e.isDigit = true := hstart
      rw [List.cons_append, List.nil_append, number_decimal (by rintro _ _ _ ⟨⟩)] at h
      have hsuffix := (decimal_leaves h).1.suffix
      have hwhole : (('.' :: e :: es).span Char.isDigit).2 = '.' :: e :: es := by
        rw [List.span_eq_takeWhile_dropWhile]
        rfl
      rw [hwhole, fractionOf, List.span_eq_takeWhile_dropWhile, List.dropWhile_cons_of_pos hfigure]
        at hsuffix
      have hle := length_le_of_suffix (hsuffix.trans (List.dropWhile_suffix _))
      exact absurd hle (Nat.not_succ_le_self _)
  · rwa [startsNumber_append_of_ne hcs hpoint] at hstart

theorem startsNumber_closing (hcs : cs ≠ []) : startsNumber (cs ++ new) = startsNumber cs := by
  by_cases hpoint : cs = ['.']
  · subst hpoint
    cases new with
    | nil => rfl
    | cons c new => exact isDigit_of_closes (hnew c rfl)
  · exact startsNumber_append_of_ne hcs hpoint new

omit hnew in
theorem closes_of_mem_tail {p : Punctuator} {c : Char} (h : c ∈ p.chars.tail) : closes c = false := by
  have hnone : p.chars.tail.all (fun c => closes c = false) = true := by cases p <;> decide
  exact of_decide_eq_true (List.all_eq_true.mp hnone c h)

/-- No punctuator goes on with a closing character, so the longest one that fits is the same. -/
theorem starting?_replace {p : Punctuator} (hcs : cs ≠ [])
    (hp : Punctuator.starting? (cs ++ old) = some p) (hlength : p.chars.length ≤ cs.length) :
    Punctuator.starting? (cs ++ new) = some p := by
  rw [Punctuator.starting?, List.find?_eq_some_iff_append] at hp ⊢
  obtain ⟨hfits, before, after, hlist, hnone⟩ := hp
  rw [List.isPrefixOf_iff_prefix] at hfits
  refine ⟨?_, before, after, hlist, fun q hq => ?_⟩
  · have hshort := List.prefix_of_prefix_length_le hfits (List.prefix_append cs old) hlength
    exact List.isPrefixOf_iff_prefix.mpr (hshort.trans (List.prefix_append cs new))
  have hlonger := hnone q hq
  rw [Bool.not_eq_true', ← Bool.not_eq_true, List.isPrefixOf_iff_prefix] at hlonger ⊢
  intro hfits'
  rcases Nat.lt_or_ge cs.length q.chars.length with hlt | hle
  · obtain ⟨more, hmore⟩ :=
      List.prefix_of_prefix_length_le (List.prefix_append cs new) hfits' (Nat.le_of_lt hlt)
    rw [← hmore, List.prefix_append_right_inj] at hfits'
    obtain ⟨d, ds, rfl⟩ := List.exists_cons_of_ne_nil hcs
    cases more with
    | nil =>
      rw [← hmore, List.append_nil] at hlt
      exact Nat.lt_irrefl _ hlt
    | cons c more =>
      obtain ⟨rest, rfl⟩ := hfits'
      have hmem : c ∈ q.chars.tail := by
        rw [← hmore]
        exact List.mem_append_right ds List.mem_cons_self
      exact ne_of_closes (hnew c rfl) (closes_of_mem_tail hmem) rfl
  · have hshort := List.prefix_of_prefix_length_le hfits' (List.prefix_append cs new) hle
    exact hlonger (hshort.trans (List.prefix_append cs old))

/-- A token is read from its characters wherever they stand, if it is not read on into a text that
comes after them. -/
theorem token_replace {t : Token} (hcs : cs ≠ []) (h : token (cs ++ old) = .ok (t, left ++ old)) :
    token (cs ++ new) = .ok (t, left ++ new) := by
  obtain ⟨d, ds, rfl⟩ := List.exists_cons_of_ne_nil hcs
  rw [List.cons_append, token_cons_eq_ok_iff] at h ⊢
  by_cases hword : isIdentifierStart d = true
  · rw [if_pos hword] at h ⊢
    have hspan : (d :: (ds ++ new)).span isIdentifierPart =
        (((d :: (ds ++ old)).span isIdentifierPart).1, left ++ new) := by
      rw [← List.cons_append] at h ⊢
      exact span_replace hnew (fun _ => isIdentifierPart_of_closes) h.2.symm
    rw [hspan]
    exact ⟨h.1, rfl⟩
  rw [if_neg hword] at h ⊢
  have hclosing : startsNumber (d :: (ds ++ new)) = startsNumber (d :: ds) :=
    startsNumber_closing hnew hcs
  rw [hclosing]
  by_cases hfigure : startsNumber (d :: (ds ++ old)) = true
  · rw [if_pos hfigure] at h
    obtain ⟨x, hread, rfl⟩ := h
    rw [← List.cons_append] at hfigure hread ⊢
    rw [if_pos (startsNumber_of_number hcs hfigure hread)]
    exact ⟨x, number_replace hnew hcs hread, rfl⟩
  have hfigure' : ¬ startsNumber (d :: ds) = true := by
    by_cases hpoint : d :: ds = ['.']
    · rw [hpoint]
      decide
    · rwa [← startsNumber_append_of_ne hcs hpoint old]
  rw [if_neg hfigure] at h
  rw [if_neg hfigure']
  by_cases hquote : d = '\'' ∨ d = '"'
  · rw [if_pos hquote] at h ⊢
    obtain ⟨chars, hread, rfl⟩ := h
    refine ⟨chars, stringBody_replace hnew (ne_backslash_of_quote hquote) hread ?_, rfl⟩
    simp only [List.length_cons, List.length_append]
    omega
  · rw [if_neg hquote] at h ⊢
    obtain ⟨p, hp, rfl, hrest⟩ := h
    have hfits : p.chars <+: d :: (ds ++ old) :=
      have hfits := List.find?_some hp
      List.isPrefixOf_iff_prefix.mp hfits
    have hlength : p.chars.length ≤ (d :: ds).length := by
      have hle := hfits.length_le
      have hdropped := congrArg List.length hrest
      simp only [List.length_drop, List.length_cons, List.length_append] at hle hdropped ⊢
      omega
    rw [← List.cons_append] at hp hrest ⊢
    rw [List.drop_append_of_le_length hlength] at hrest
    refine ⟨p, starting?_replace hnew hcs hp hlength, rfl, ?_⟩
    rw [List.drop_append_of_le_length hlength, List.append_cancel_right hrest]

end Ends

/-- A token of a text is read in the same way if the text goes on with a closing character. -/
theorem token_append {c : Char} (hc : closes c = true) (rest : List Char) {cs left : List Char}
    {t : Token} (hcs : cs ≠ []) (h : token cs = .ok (t, left)) :
    token (cs ++ c :: rest) = .ok (t, left ++ c :: rest) := by
  rw [← List.append_nil cs, ← List.append_nil left] at h
  exact token_replace (closing_cons hc rest) hcs h

end Lexer

end Microtemplate.Script
