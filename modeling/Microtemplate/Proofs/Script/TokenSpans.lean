import Microtemplate.Proofs.Script.Cutting

/-!
The characters that tokens and gaps take from the start of a text. Only a string runs over the end of
a line, and it ends with a quote; so where a line starts with no gap, and no quote and no end of a
comment follows, a token starts, whatever stands on the lines before.
-/

namespace Microtemplate.Script

namespace Lexer

/-- The characters that a token takes from a text, and what may follow them. -/
inductive Takes : Token → List Char → List Char → Prop
  | word {cs rest : List Char} : isWord cs = true → (∀ c ∈ rest.head?, isIdentifierPart c = false) →
      Takes (word (String.ofList cs)) cs rest
  | number (x : Float) {cs rest : List Char} : '\n' ∉ cs →
      (∀ c ∈ rest.head?, isIdentifierStart c = false) → Takes (.number x) cs rest
  | string (t : String) {quote : Char} (cs rest : List Char) : quote = '\'' ∨ quote = '"' →
      Takes (.string t) (cs ++ [quote]) rest
  | mark (p : Punctuator) (rest : List Char) : Takes (.punctuator p) p.chars rest

/-- A token takes characters from the start of a text. -/
theorem token_takes {start rest : List Char} {t : Token} (hstart : start ≠ [])
    (h : token start = .ok (t, rest)) : ∃ cs, start = cs ++ rest ∧ Takes t cs rest := by
  obtain ⟨d, ds, rfl⟩ := List.exists_cons_of_ne_nil hstart
  rw [token_cons_eq_ok_iff] at h
  split at h
  · rename_i hd
    have hpart : isIdentifierPart d = true := by rw [isIdentifierPart, hd, Bool.true_or]
    rw [List.span_eq_takeWhile_dropWhile] at h
    obtain ⟨rfl, rfl⟩ := h
    refine ⟨_, List.takeWhile_append_dropWhile.symm, .word ?_ fun c hc => ?_⟩
    · rw [List.takeWhile_cons_of_pos hpart, isWord, hd, List.all_takeWhile]
      rfl
    · have hne := List.head?_dropWhile_not isIdentifierPart (d :: ds)
      rw [Option.mem_def.mp hc] at hne
      simpa using hne
  split at h
  · obtain ⟨x, hread, rfl⟩ := h
    obtain ⟨⟨taken, htaken, hline⟩, hend⟩ := number_leaves hread
    exact ⟨taken, htaken, .number _ hline hend.isIdentifierStart⟩
  split at h
  · rename_i hquote
    obtain ⟨chars, hread, rfl⟩ := h
    obtain ⟨taken, rfl⟩ := stringBody_leaves (ne_backslash_of_quote hquote) hread
    exact ⟨d :: taken ++ [d], by simp, .string _ _ _ hquote⟩
  · obtain ⟨p, hp, rfl, rfl⟩ := h
    have hfits := List.find?_some hp
    obtain ⟨more, hmore⟩ := List.isPrefixOf_iff_prefix.mp hfits
    refine ⟨p.chars, ?_, .mark p _⟩
    rw [← hmore, List.drop_left]

/-- An identifier takes its characters, and no character follows that could belong to it. -/
theorem Takes.of_identifier {name : String} {cs rest : List Char}
    (h : Takes (.identifier name) cs rest) :
    cs = name.toList ∧ isWord cs = true ∧ ∀ c ∈ rest.head?, isIdentifierPart c = false := by
  generalize ht : Token.identifier name = t at h
  cases h with
  | word hword hrest =>
    refine ⟨?_, hword, hrest⟩
    unfold Lexer.word at ht
    split at ht
    · cases ht
    · rw [Token.identifier.inj ht, String.toList_ofList]
  | number _ _ _ => cases ht
  | string _ _ _ _ => cases ht
  | mark _ _ => cases ht

/-- An identifier is a word that is no keyword. -/
theorem isIdentifier_of_token {start rest : List Char} {name : String}
    (h : token start = .ok (.identifier name, rest)) : isIdentifier name = true := by
  cases start with
  | nil => cases h
  | cons c cs =>
    obtain ⟨taken, -, htakes⟩ := token_takes (List.cons_ne_nil c cs) h
    generalize ht : Token.identifier name = t at htakes
    cases htakes with
    | word hword _ =>
      unfold Lexer.word at ht
      split at ht
      · cases ht
      · rename_i hkeyword
        cases ht
        rw [isIdentifier, hkeyword, String.toList_ofList, hword]
        rfl
    | number _ _ _ | string _ _ _ _ | mark _ _ => cases ht

section Lines

/-- A text that starts with no gap, without quotes and without the end of a comment. -/
structure PlainLine (line : List Char) : Prop where
  head : ∃ c cs, line = c :: cs ∧ isGap c = false ∧ c ≠ '/'
  plain : ∀ c ∈ line, c ∉ ['\'', '"', '*']

variable {line : List Char}

theorem PlainLine.skipGap_eq (h : PlainLine line) (newline : Bool) :
    skipGap .blank newline line = .ok (newline, line) := by
  obtain ⟨c, cs, hline, hgap, hslash⟩ := h.head
  have hstarts : StartsToken line := ⟨c, cs, hline, hgap, fun hc => absurd hc hslash⟩
  exact hstarts.skipGap_eq newline

theorem PlainLine.star_notMem (h : PlainLine line) : '*' ∉ line :=
  fun hmem => h.plain _ hmem (by decide)

theorem skipGap_block_of_notMem (h : '*' ∉ line) (opened : List Char) (newline : Bool) :
    skipGap (.block opened) newline line = .error ⟨.unterminatedComment, opened⟩ := by
  induction line generalizing newline with
  | nil => rfl
  | cons c cs ih =>
    rw [List.mem_cons, not_or] at h
    rw [skipGap_block (fun ds hc => absurd hc.symm h.1), ih h.2]

/-- A gap does not go over the start of a plain line. It ends there, after the end of a line, or
before. -/
theorem PlainLine.skipGap_line (h : PlainLine line) {g : Gap} {newline newline' : Bool}
    {before start : List Char} (hskip : skipGap g newline (before ++ '\n' :: line) = .ok (newline', start)) :
    (start = line ∧ newline' = true) ∨ ∃ more, start = more ++ '\n' :: line := by
  generalize hcs : before ++ '\n' :: line = cs at hskip
  induction g, newline, cs using skipGap.induct generalizing before with
  | case1 newline => cases before <;> cases hcs
  | case2 newline cs ih =>
    obtain _ | ⟨_, _ | ⟨_, before⟩⟩ := before <;> cases hcs
    rw [skipGap] at hskip
    exact ih rfl hskip
  | case3 newline cs ih =>
    obtain _ | ⟨_, _ | ⟨_, before⟩⟩ := before <;> cases hcs
    rw [skipGap] at hskip
    exact ih rfl hskip
  | case4 newline c cs hline hblock hend ih =>
    rw [skipGap_blank hline hblock, if_pos hend] at hskip
    cases before with
    | nil =>
      cases hcs
      rw [h.skipGap_eq] at hskip
      cases hskip
      exact Or.inl ⟨rfl, rfl⟩
    | cons d before =>
      cases hcs
      exact ih rfl hskip
  | case5 newline c cs hline hblock hend hblank ih =>
    rw [skipGap_blank hline hblock, if_neg hend, if_pos hblank] at hskip
    cases before with
    | nil =>
      cases hcs
      exact absurd rfl hend
    | cons d before =>
      cases hcs
      exact ih rfl hskip
  | case6 newline c cs hline hblock hend hblank =>
    rw [skipGap_blank hline hblock, if_neg hend, if_neg hblank] at hskip
    cases hskip
    exact Or.inr ⟨before, hcs.symm⟩
  | case7 newline => cases before <;> cases hcs
  | case8 newline c cs hend ih =>
    rw [Lexer.skipGap_line, if_pos hend] at hskip
    cases before with
    | nil =>
      cases hcs
      rw [h.skipGap_eq] at hskip
      cases hskip
      exact Or.inl ⟨rfl, rfl⟩
    | cons d before =>
      cases hcs
      exact ih rfl hskip
  | case9 newline c cs hend ih =>
    rw [Lexer.skipGap_line, if_neg hend] at hskip
    cases before with
    | nil =>
      cases hcs
      exact absurd rfl hend
    | cons d before =>
      cases hcs
      exact ih rfl hskip
  | case10 opened newline => cases hskip
  | case11 opened newline cs ih =>
    obtain _ | ⟨_, _ | ⟨_, before⟩⟩ := before <;> cases hcs
    rw [skipGap] at hskip
    exact ih rfl hskip
  | case12 opened newline c cs hclose ih =>
    rw [skipGap_block hclose] at hskip
    cases before with
    | nil =>
      cases hcs
      rw [skipGap_block_of_notMem h.star_notMem] at hskip
      cases hskip
    | cons d before =>
      cases hcs
      exact ih rfl hskip

/-- No token goes over the start of a plain line. -/
theorem PlainLine.token_line (h : PlainLine line) {before rest : List Char} {t : Token}
    (htoken : token (before ++ '\n' :: line) = .ok (t, rest)) :
    ∃ more, rest = more ++ '\n' :: line := by
  obtain ⟨taken, htaken, htakes⟩ := token_takes (by simp) htoken
  rcases List.append_eq_append_iff.mp htaken with ⟨past, hpast, hrest⟩ | ⟨more, -, hmore⟩
  · cases past with
    | nil => exact ⟨[], hrest.symm⟩
    | cons d past =>
      obtain ⟨rfl, hline⟩ := List.cons.inj hrest
      have hmem : '\n' ∈ taken := by
        rw [hpast]
        exact List.mem_append_right _ (List.mem_cons_self ..)
      exfalso
      cases htakes with
      | word hword _ =>
        have hpart := List.all_eq_true.mp (isIdentifierPart_of_isWord hword) _ hmem
        revert hpart
        decide
      | number _ hnot _ => exact hnot hmem
      | mark p _ =>
        revert hmem
        cases p <;> decide
      | @string t quote cs _ hquote =>
        have hlast : quote ∈ '\n' :: past := by
          have hsuffix : '\n' :: past <:+ cs ++ [quote] := ⟨before, hpast.symm⟩
          rcases List.suffix_concat_iff.mp hsuffix with hnil | ⟨init, hinit, -⟩
          · cases hnil
          · rw [hinit]
            exact List.mem_concat_self
        rcases List.mem_cons.mp hlast with rfl | hpast
        · rcases hquote with hquote | hquote <;> cases hquote
        · refine h.plain quote (hline ▸ List.mem_append_left _ hpast) ?_
          rcases hquote with rfl | rfl <;> decide
  · exact ⟨more, hmore⟩

end Lines

end Lexer

end Microtemplate.Script
