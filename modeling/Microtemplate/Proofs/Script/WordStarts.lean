import Mathlib.Data.List.Basic
import Microtemplate.Proofs.Script.Gaps
import Microtemplate.Proofs.Script.Sparing
import Microtemplate.Proofs.Script.TokenSpans

/-!
What stands directly before a word of a text: the end of a gap, of a string or of a punctuator. After any
other character a word or a number that stands there would go on.
-/

namespace Microtemplate.Script

namespace Lexer

/-- The last character of a closed gap is a blank, or it ends a comment. -/
theorem ClosedGap.last {gap : List Char} (h : ClosedGap gap) : ∀ d ∈ gap.getLast?, isGap d = true ∨ d = '/' := by
  have hlast : ∀ {front more : List Char} {c d : Char}, d ∈ (front ++ c :: more).getLast? →
      d = c ∨ d ∈ more.getLast? := by
    intro front more c d hd
    rw [List.getLast?_append_cons, List.getLast?_cons, Option.mem_some_iff] at hd
    cases hmore : more.getLast? with
    | none => exact Or.inl (by rw [← hd, hmore]; rfl)
    | some e => exact Or.inr (by rw [← hd, hmore]; rfl)
  induction h with
  | nil => nofun
  | @blank c cs hc _ ih =>
    intro d hd
    rcases @hlast [] cs c d hd with rfl | hd
    · exact Or.inl hc
    · exact ih d hd
  | @line body cs c _ hc _ ih =>
    intro d hd
    rcases @hlast ('/' :: '/' :: body) cs c d hd with rfl | hd
    · exact Or.inl (by rw [isGap, hc]; rfl)
    · exact ih d hd
  | @block body cs _ _ ih =>
    intro d hd
    rcases @hlast ('/' :: '*' :: body ++ ['*']) cs '/' d (by simpa using hd) with rfl | hd
    · exact Or.inr rfl
    · exact ih d hd

/-- The characters directly after which a word may start. -/
def endsBeforeWord (c : Char) : Bool :=
  isGap c || c = '\'' || c = '"' || Punctuator.longestFirst.any fun p => p.chars.getLast? = some c

/-- A punctuator takes its characters. -/
theorem Takes.eq_chars {p : Punctuator} {taken rest : List Char} (h : Takes (.punctuator p) taken rest) :
    taken = p.chars := by
  generalize ht : Token.punctuator p = t at h
  cases h with
  | word _ _ =>
    unfold Lexer.word at ht
    split at ht <;> cases ht
  | mark q _ =>
    cases ht
    rfl
  | number _ _ _ | string _ _ _ _ => cases ht

/-- A token directly before a word is a string or a punctuator. -/
theorem Takes.last_before_word {t : Token} {taken rest : List Char} {c : Char} (h : Takes t taken rest)
    (hlast : taken.getLast? = some c) (hword : ∃ d ∈ rest.head?, isIdentifierStart d = true) :
    c = '\'' ∨ c = '"' ∨ ∃ p, t = .punctuator p ∧ taken = p.chars := by
  obtain ⟨d, hd, hstart⟩ := hword
  cases h with
  | word _ hrest =>
    have hpart := hrest d hd
    rw [isIdentifierPart, hstart] at hpart
    cases hpart
  | number _ _ hrest =>
    rw [hrest d hd] at hstart
    cases hstart
  | string _ _ _ hquote =>
    rw [List.getLast?_concat] at hlast
    cases hlast
    exact hquote.imp_right .inl
  | mark p _ => exact .inr (.inr ⟨p, rfl, rfl⟩)

theorem eq_dot_or_ellipsis {p : Punctuator} (h : p.chars.getLast? = some '.') :
    p = .dot ∨ p = .ellipsis := by
  cases p with
  | dot => exact .inl rfl
  | ellipsis => exact .inr rfl
  | _ => exact absurd h (by decide)

theorem eq_dot_of_point {t : Token} (h : Lead.of t = .point) : t = .punctuator .dot := by
  unfold Lead.of at h
  split at h
  · cases h
  · rfl
  · cases h

/-- A token starts after a part of a text, where something leads to it: a word only where one may start,
and after a point that stands behind `_` as the name of a property. -/
structure Entered (front cs : List Char) (lead : Lead) : Prop where
  before : (∃ d ∈ cs.head?, isIdentifierStart d = true) → front.getLast?.all endsBeforeWord = true
  point : (∃ d ∈ cs.head?, isIdentifierStart d = true) → ['_', '.'] <:+ front → lead = .point
  underscore : front.getLast? = some '_' → lead ≠ .point

namespace Entered

variable {front cs start taken rest : List Char} {lead : Lead} {t : Token}

theorem nil (cs : List Char) (lead : Lead) : Entered [] cs lead := ⟨fun _ => rfl, fun _ h => by simp at h, nofun⟩

theorem eq_last {c : Char} (h : ['_', '.'] <:+ front ++ (taken ++ [c])) : c = '.' := by
  obtain ⟨more, hmore⟩ := h
  have hlast := congrArg List.getLast? hmore
  rw [← List.append_assoc, List.getLast?_concat] at hlast
  simpa using hlast.symm

/-- It is so after a gap. -/
theorem gap (h : Entered front cs lead) {newline newline' : Bool}
    (hskip : skipGap .blank newline cs = .ok (newline', start)) (hstart : start ≠ [])
    (hcs : cs = taken ++ start) : Entered (front ++ taken) start lead := by
  rcases List.eq_nil_or_concat' taken with rfl | ⟨more, c, rfl⟩
  · rw [List.append_nil]
    rw [List.nil_append] at hcs
    exact hcs ▸ h
  · obtain ⟨gap, hgap, -⟩ := skipGap_eq_ok_iff.mp hskip
    obtain rfl : more ++ [c] = gap := List.append_cancel_right (hcs.symm.trans hgap.split)
    have hc : isGap c = true ∨ c = '/' := (hgap.closed hstart).last c List.getLast?_concat
    have hlast : (front ++ (more ++ [c])).getLast? = some c := by
      rw [← List.append_assoc, List.getLast?_concat]
    refine ⟨fun _ => ?_, fun _ hpoint => ?_, fun hunderscore => ?_⟩
    · rw [hlast]
      rcases hc with hc | rfl
      · simp [endsBeforeWord, hc]
      · decide
    · obtain rfl := eq_last hpoint
      exact absurd hc (by decide)
    · rw [hlast] at hunderscore
      cases hunderscore
      exact absurd hc (by decide)

/-- It is so after a token. -/
theorem token (h : Entered front start lead) (htakes : Takes t taken rest) (hne : taken ≠ [])
    (hstart : start = taken ++ rest) : Entered (front ++ taken) rest (lead.after t) := by
  obtain ⟨more, c, rfl⟩ := (List.eq_nil_or_concat' taken).resolve_left hne
  have hlast : (front ++ (more ++ [c])).getLast? = some c := by
    rw [← List.append_assoc, List.getLast?_concat]
  have htaken : (more ++ [c]).getLast? = some c := List.getLast?_concat
  refine ⟨fun hword => ?_, fun hword hpoint => ?_, fun hunderscore hlead => ?_⟩
  · rw [hlast]
    rcases htakes.last_before_word htaken hword with rfl | rfl | ⟨p, -, hp⟩
    · decide
    · decide
    · have hany : (Punctuator.longestFirst.any fun p => p.chars.getLast? = some c) = true :=
        List.any_eq_true.mpr ⟨p, p.mem_longestFirst, decide_eq_true (hp ▸ htaken)⟩
      simp [endsBeforeWord, hany]
  · obtain rfl := eq_last hpoint
    rcases htakes.last_before_word htaken hword with hquote | hquote | ⟨p, rfl, hp⟩
    · cases hquote
    · cases hquote
    · rcases eq_dot_or_ellipsis (hp ▸ htaken) with rfl | rfl
      · obtain rfl : more = [] := List.append_cancel_right hp
        have hunderscore : front.getLast? = some '_' := by
          obtain ⟨other, hother⟩ := hpoint
          rw [List.nil_append, List.append_cons, List.append_cancel_right_eq] at hother
          rw [← hother, List.getLast?_concat]
        exact if_neg (h.underscore hunderscore)
      · have hdots : more ++ ['.'] = ['.', '.'] ++ ['.'] := hp
        obtain rfl := List.append_cancel_right hdots
        obtain ⟨other, hother⟩ := hpoint
        have hreverse := congrArg List.reverse hother
        simp at hreverse
  · rw [hlast] at hunderscore
    cases hunderscore
    obtain rfl : t = .punctuator .dot := by
      unfold Lead.after at hlead
      split at hlead
      · cases hlead
      · exact eq_dot_of_point hlead
    rw [htakes.eq_chars] at htaken
    exact absurd htaken (by decide)

end Entered

/-- A name that stands in a text only as the name of a property behind `_` stands there in its tokens. -/
theorem Cuts.admits {name : String} {front cs : List Char} {lead : Lead} {s : Tokens} (h : Cuts cs s)
    (hentered : Entered front cs lead)
    (hname : ∀ l ∈ s.toList, ∀ before, front ++ cs = before ++ l.text → l.token = .identifier name →
      before.getLast?.all endsBeforeWord = true → ['_', '.'] <:+ before) :
    s.Admits (· = name) False lead := by
  induction h generalizing front lead with
  | stop => exact .finished lead
  | @step cs start rest newline t s hskip hstart htoken hcuts ih =>
    obtain ⟨gap, rfl⟩ := skipGap_suffix hskip
    have hgap := hentered.gap hskip hstart rfl
    obtain ⟨taken, rfl, htakes⟩ := token_takes hstart htoken
    have hne : taken ≠ [] := by
      rintro rfl
      exact Nat.lt_irrefl _ (length_token_lt hstart htoken)
    refine .push (fun n hn ht => ?_) (ih (hgap.token htakes hne rfl) fun l hl before hbefore => ?_)
    · obtain rfl : n = name := hn
      obtain rfl : t = .identifier n := ht
      obtain ⟨-, hword, -⟩ := htakes.of_identifier
      obtain ⟨c, more, rfl, hc⟩ := exists_isIdentifierStart hword
      have hpoint := hname _ List.mem_cons_self (front ++ gap) (List.append_assoc ..).symm rfl
        (hgap.before ⟨c, rfl, hc⟩)
      rw [hgap.point ⟨c, rfl, hc⟩ hpoint]
      trivial
    · refine hname l (List.mem_cons_of_mem _ hl) before ?_
      rw [← hbefore]
      simp only [List.append_assoc]

end Lexer

end Microtemplate.Script
