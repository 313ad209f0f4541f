import Microtemplate.Proofs.Script.Running
import Microtemplate.Proofs.Text.Search

/-!
Replacing a text by a text with dollar signs in it. A dollar sign before an ampersand stands for the
matched text and a pair of dollar signs for one. The two are read one after the other over the whole text,
and that differs from reading both at once where a row of an even number of dollar signs stands before an
ampersand, and where dollar signs of the matched text meet others.
-/

namespace Microtemplate.Script

open Text

/-- Reads a replacement once: a pair of dollar signs is one of them, a dollar sign with an ampersand is
the matched text, and all else is itself. -/
def expandOnce (matched : List Char) : List Char → List Char
  | '$' :: '$' :: cs => '$' :: expandOnce matched cs
  | '$' :: '&' :: cs => matched ++ expandOnce matched cs
  | c :: cs => c :: expandOnce matched cs
  | [] => []

/-- Reads only the places of the matched text. -/
def putMatched (matched : List Char) : List Char → List Char
  | '$' :: '&' :: cs => matched ++ putMatched matched cs
  | c :: cs => c :: putMatched matched cs
  | [] => []

/-- Reads only the pairs of dollar signs. -/
def joinDollars : List Char → List Char
  | '$' :: '$' :: cs => '$' :: joinDollars cs
  | c :: cs => c :: joinDollars cs
  | [] => []

variable {matched cs : List Char} {c : Char}

theorem replaceAll_matched (matched cs : List Char) :
    replaceAll ['$', '&'] matched cs = putMatched matched cs := by
  fun_induction putMatched matched cs with
  | case1 cs ih =>
    rw [← ih]
    exact replaceAll_append (List.cons_ne_nil _ _) cs
  | case2 c cs hother ih =>
    rw [← ih]
    refine replaceAll_cons ?_
    rintro ⟨rest, h⟩
    cases h
    exact hother _ rfl rfl
  | case3 => rfl

theorem replaceAll_dollars (cs : List Char) : replaceAll ['$', '$'] ['$'] cs = joinDollars cs := by
  fun_induction joinDollars cs with
  | case1 cs ih =>
    rw [← ih]
    exact replaceAll_append (List.cons_ne_nil _ _) cs
  | case2 c cs hother ih =>
    rw [← ih]
    refine replaceAll_cons ?_
    rintro ⟨rest, h⟩
    cases h
    exact hother _ rfl rfl
  | case3 => rfl

theorem expand_eq (matched cs : List Char) :
    TextMethod.expand matched cs = joinDollars (putMatched matched cs) := by
  rw [TextMethod.expand, replaceAll_matched, replaceAll_dollars]

/-- A row of an even number of dollar signs, at least two, stands before an ampersand. -/
def EvenRow (cs : List Char) : Prop :=
  ∃ before n after, cs = before ++ List.replicate (2 * n + 2) '$' ++ '&' :: after ∧
    before.getLast? ≠ some '$'

/-- Every dollar sign stands before another character, which is no dollar sign. -/
def Steady (cs : List Char) : Prop := ¬ ['$', '$'] <:+: cs ++ ['$']

section Rows

theorem evenRow_ampersand (cs : List Char) : EvenRow ('$' :: '$' :: '&' :: cs) :=
  ⟨[], 0, cs, rfl, nofun⟩

theorem not_evenRow_nil : ¬ EvenRow [] := by
  rintro ⟨before, n, after, h, -⟩
  simp at h

/-- A character that does not start a row changes nothing. -/
theorem evenRow_cons_iff (hc : c = '$' → cs.head? ≠ some '$') : EvenRow (c :: cs) ↔ EvenRow cs := by
  constructor
  · rintro ⟨before, n, after, hcs, hbefore⟩
    cases before with
    | nil =>
      cases hcs
      exact absurd rfl (hc rfl)
    | cons b bs =>
      cases hcs
      refine ⟨bs, n, after, rfl, ?_⟩
      cases bs with
      | nil => nofun
      | cons => exact hbefore
  · rintro ⟨before, n, after, rfl, hbefore⟩
    refine ⟨c :: before, n, after, rfl, ?_⟩
    cases before with
    | nil =>
      rintro ⟨⟩
      exact absurd rfl (hc rfl)
    | cons b bs => exact hbefore

/-- The place of the matched text is no even row. -/
theorem evenRow_place_iff : EvenRow ('$' :: '&' :: cs) ↔ EvenRow cs := by
  rw [evenRow_cons_iff (by simp), evenRow_cons_iff (by simp)]

/-- A pair of dollar signs changes nothing, unless it stands before an ampersand itself. -/
theorem evenRow_pair_iff (hcs : cs.head? ≠ some '&') : EvenRow ('$' :: '$' :: cs) ↔ EvenRow cs := by
  constructor
  · rintro ⟨before, n, after, h, hbefore⟩
    match before, n with
    | [], 0 =>
      cases h
      exact absurd rfl hcs
    | [], n + 1 =>
      cases h
      exact ⟨[], n, after, rfl, nofun⟩
    | [b], n =>
      cases h
      exact absurd rfl hbefore
    | [b, b'], n =>
      cases h
      exact absurd rfl hbefore
    | b :: b' :: d :: ds, n =>
      cases h
      exact ⟨d :: ds, n, after, rfl, hbefore⟩
  · rintro ⟨before, n, after, rfl, hbefore⟩
    cases before with
    | nil => exact ⟨[], n + 1, after, rfl, nofun⟩
    | cons b bs => exact ⟨'$' :: '$' :: b :: bs, n, after, rfl, hbefore⟩

end Rows

section Readers

theorem head?_ne_of_forall {P : Prop} {d : Char} (h : ∀ ds, P → cs = d :: ds → False) (hP : P) :
    cs.head? ≠ some d := fun hhead => by
  obtain ⟨ds, hds⟩ := List.head?_eq_some_iff.mp hhead
  exact h ds hP hds

theorem putMatched_cons (hc : c = '$' → cs.head? ≠ some '&') :
    putMatched matched (c :: cs) = c :: putMatched matched cs := by
  refine putMatched.eq_2 matched c cs ?_
  rintro ds rfl rfl
  exact hc rfl rfl

theorem putMatched_pair (hcs : cs.head? ≠ some '&') :
    putMatched matched ('$' :: '$' :: cs) = '$' :: '$' :: putMatched matched cs := by
  rw [putMatched_cons (by simp), putMatched_cons fun _ => hcs]

theorem joinDollars_cons (hc : c = '$' → cs.head? ≠ some '$') :
    joinDollars (c :: cs) = c :: joinDollars cs := by
  refine joinDollars.eq_2 c cs ?_
  rintro ds rfl rfl
  exact hc rfl rfl

theorem head?_putMatched (hcs : cs.head? ≠ some '$') :
    (putMatched matched cs).head? = cs.head? := by
  cases cs with
  | nil => rfl
  | cons c cs =>
    rw [putMatched_cons fun hc => absurd (congrArg some hc) hcs]
    rfl

theorem Steady.tail (h : Steady (c :: cs)) : Steady cs := fun hpair =>
  h (List.infix_cons hpair)

theorem Steady.head?_ne (h : Steady ('$' :: cs)) : cs ≠ [] ∧ cs.head? ≠ some '$' := by
  cases cs with
  | nil => exact absurd (List.infix_refl _) h
  | cons c cs =>
    refine ⟨List.cons_ne_nil _ _, fun hc => h ?_⟩
    cases hc
    exact ⟨[], cs ++ ['$'], rfl⟩

/-- A dollar sign of a steady text does not meet another one, whatever follows the text. -/
theorem Steady.joinDollars_append (h : Steady cs) (rest : List Char) :
    joinDollars (cs ++ rest) = cs ++ joinDollars rest := by
  induction cs with
  | nil => rfl
  | cons c cs ih =>
    rw [List.cons_append, joinDollars_cons, ih h.tail]
    · rfl
    · rintro rfl
      obtain ⟨hne, hhead⟩ := h.head?_ne
      obtain ⟨d, ds, rfl⟩ := List.exists_cons_of_ne_nil hne
      exact hhead

end Readers

/-- Reading a replacement once and reading it twice give the same, if dollar signs of the matched text
meet no others and no ampersand stands after an even row of them, or is put there again. -/
theorem expand_eq_expandOnce (hmatched : Steady matched)
    (hcs : EvenRow cs → matched = ['&'] ∨ matched = ['$', '&']) :
    joinDollars (putMatched matched cs) = expandOnce matched cs := by
  fun_induction expandOnce matched cs with
  | case1 cs ih =>
    -- Before an ampersand the second dollar sign of the pair is taken for a place of the matched text.
    by_cases hhead : cs.head? = some '&'
    · obtain ⟨ds, rfl⟩ := List.head?_eq_some_iff.mp hhead
      obtain rfl | rfl := hcs (evenRow_ampersand ds)
      · rw [← ih fun _ => .inl rfl]
        rfl
      · rw [← ih fun _ => .inr rfl]
        rfl
    · rw [putMatched_pair hhead, ← ih fun h => hcs ((evenRow_pair_iff hhead).mpr h)]
      rfl
  | case2 cs ih =>
    -- The second reading goes over the matched text as well.
    rw [← ih fun h => hcs (evenRow_place_iff.mpr h), ← hmatched.joinDollars_append]
    rfl
  | case3 c cs hdollar hampersand ih =>
    have hother := head?_ne_of_forall hdollar
    rw [putMatched_cons (head?_ne_of_forall hampersand), joinDollars_cons,
      ih fun h => hcs ((evenRow_cons_iff hother).mpr h)]
    intro hc
    rw [head?_putMatched (hother hc)]
    exact hother hc
  | case4 => rfl

section Counts

theorem countP_joinDollars {q : Char → Bool} (hq : q '$' = false) (cs : List Char) :
    (joinDollars cs).countP q = cs.countP q := by
  fun_induction joinDollars cs <;> simp_all [List.countP_cons]

/-- At each even row before an ampersand the matched text stands where an ampersand should. -/
theorem exists_rows (matched cs : List Char) : ∃ rows, (EvenRow cs → rows ≠ 0) ∧
    ∀ q : Char → Bool, q '$' = false →
      (putMatched matched cs).countP q + rows * ['&'].countP q =
        (expandOnce matched cs).countP q + rows * matched.countP q := by
  fun_induction expandOnce matched cs with
  | case1 cs ih =>
    obtain ⟨rows, hrows, hcount⟩ := ih
    by_cases hhead : cs.head? = some '&'
    · obtain ⟨ds, rfl⟩ := List.head?_eq_some_iff.mp hhead
      refine ⟨rows + 1, fun _ => Nat.succ_ne_zero rows, fun q hq => ?_⟩
      have hds := hcount q hq
      rw [show putMatched matched ('&' :: ds) = '&' :: putMatched matched ds from rfl] at hds
      rw [show putMatched matched ('$' :: '$' :: '&' :: ds) =
        '$' :: (matched ++ putMatched matched ds) from rfl]
      simp only [List.countP_cons, List.countP_append, List.countP_nil, hq, Nat.succ_mul] at hds ⊢
      omega
    · refine ⟨rows, fun h => hrows ((evenRow_pair_iff hhead).mp h), fun q hq => ?_⟩
      rw [putMatched_pair hhead]
      simpa [hq] using hcount q hq
  | case2 cs ih =>
    obtain ⟨rows, hrows, hcount⟩ := ih
    refine ⟨rows, fun h => hrows (evenRow_place_iff.mp h), fun q hq => ?_⟩
    have hcs := hcount q hq
    rw [putMatched, List.countP_append, List.countP_append]
    omega
  | case3 c cs hdollar hampersand ih =>
    obtain ⟨rows, hrows, hcount⟩ := ih
    refine ⟨rows, fun h => hrows ((evenRow_cons_iff (head?_ne_of_forall hdollar)).mp h),
      fun q hq => ?_⟩
    have hcs := hcount q hq
    rw [putMatched_cons (head?_ne_of_forall hampersand)]
    simp only [List.countP_cons] at hcs ⊢
    omega
  | case4 => exact ⟨0, fun h => absurd h not_evenRow_nil, fun q _ => by simp [putMatched]⟩

/-- The last character of a steady text is no dollar sign. -/
theorem Steady.eq_nil (h : Steady cs) (hdollars : cs.countP (· != '$') = 0) : cs = [] := by
  cases cs with
  | nil => rfl
  | cons c cs =>
    have hall : ∀ d ∈ c :: cs, d = '$' := by simpa [List.countP_eq_zero] using hdollars
    obtain rfl := hall c (.head _)
    obtain ⟨hne, hhead⟩ := h.head?_ne
    obtain ⟨d, ds, rfl⟩ := List.exists_cons_of_ne_nil hne
    exact absurd (congrArg some (hall d (.tail _ (.head _)))) hhead

/-- A steady text that has an ampersand and otherwise only dollar signs. -/
theorem Steady.eq_of_countP (h : Steady matched) (hother : matched.countP (· != '$') = 1)
    (hampersand : matched.countP (· == '&') = 1) : matched = ['&'] ∨ matched = ['$', '&'] := by
  have hsingle : ∀ d ds, d ≠ '$' → Steady ds → (d :: ds).countP (· != '$') = 1 →
      (d :: ds).countP (· == '&') = 1 → d :: ds = ['&'] := by
    intro d ds hd hds hone hone'
    have hnil : ds = [] := hds.eq_nil (by simpa [List.countP_cons, hd] using hone)
    subst hnil
    simpa [List.countP_cons] using hone'
  cases matched with
  | nil => simp at hother
  | cons c cs =>
    by_cases hc : c = '$'
    · subst hc
      obtain ⟨hne, hhead⟩ := h.head?_ne
      obtain ⟨d, ds, rfl⟩ := List.exists_cons_of_ne_nil hne
      refine .inr (congrArg ('$' :: ·) (hsingle d ds (fun hd => hhead (congrArg some hd)) h.tail.tail ?_ ?_))
      · simpa [List.countP_cons] using hother
      · simpa [List.countP_cons] using hampersand
    · exact .inl (hsingle c cs hc h.tail hother hampersand)

/-- Where an ampersand stands after an even row, reading twice puts the matched text there. -/
theorem eq_of_expand_eq (hmatched : Steady matched) (hcs : EvenRow cs)
    (h : joinDollars (putMatched matched cs) = expandOnce matched cs) :
    matched = ['&'] ∨ matched = ['$', '&'] := by
  obtain ⟨rows, hrows, hcount⟩ := exists_rows matched cs
  -- Both readings have the same characters, so the matched text counts as one ampersand at each row.
  have hone : ∀ q : Char → Bool, q '$' = false → q '&' = true → matched.countP q = 1 := by
    intro q hdollar hampersand
    have hq := hcount q hdollar
    rw [← h, countP_joinDollars hdollar, Nat.add_left_cancel_iff] at hq
    have heq := Nat.eq_of_mul_eq_mul_left (Nat.pos_of_ne_zero (hrows hcs)) hq
    rw [← heq, List.countP_singleton, if_pos hampersand]
  exact hmatched.eq_of_countP (hone _ rfl rfl) (hone _ rfl rfl)

end Counts

section Pairs

theorem length_joinDollars_le (cs : List Char) : (joinDollars cs).length ≤ cs.length := by
  fun_induction joinDollars cs with
  | case1 cs ih => exact Nat.le_succ_of_le (Nat.succ_le_succ ih)
  | case2 c cs _ ih => exact Nat.succ_le_succ ih
  | case3 => exact Nat.le_refl 0

/-- Only what has no pair of dollar signs stays as it is. -/
theorem joinDollars_eq_self_iff (cs : List Char) : joinDollars cs = cs ↔ ¬ ['$', '$'] <:+: cs := by
  fun_induction joinDollars cs with
  | case1 cs ih =>
    refine iff_of_false (fun h => ?_) (not_not_intro ⟨[], cs, rfl⟩)
    have hlength := length_joinDollars_le cs
    have heq := congrArg List.length h
    simp only [List.length_cons] at heq
    omega
  | case2 c cs hother ih =>
    have hfirst : ¬ ['$', '$'] <+: c :: cs := by
      rintro ⟨rest, h⟩
      cases h
      exact hother _ rfl rfl
    rw [List.cons.injEq, and_iff_right rfl, ih, List.infix_cons_iff, or_iff_right hfirst]
  | case3 => simp

/-- Whether a text is steady is seen where it is put before a dollar sign. -/
theorem steady_iff_expand_eq : Steady matched ↔
    ∀ new, ¬ EvenRow new → TextMethod.expand matched new = expandOnce matched new := by
  refine ⟨fun h new hnew => ?_, fun h => ?_⟩
  · rw [expand_eq]
    exact expand_eq_expandOnce h fun hrow => absurd hrow hnew
  · have hrow : ¬ EvenRow ['$', '&', '$'] := by
      rw [evenRow_place_iff, evenRow_cons_iff (by simp)]
      exact not_evenRow_nil
    have hread := h _ hrow
    rw [expand_eq] at hread
    exact (joinDollars_eq_self_iff (matched ++ ['$'])).mp hread

end Pairs

namespace TextMethod

variable {call : Caller} {s : Store} {t p r : String} {more : List Value}

/-- A text that is searched for is the argument itself. -/
theorem wanted_string : wanted s (.string p :: more) = p.toList := rfl

theorem replace_missing (h : ¬ p.toList <:+: t.toList) :
    (replace call t (.string p :: .string r :: more)).Gives s (.string t) s := by
  have hnone : occurrence? p.toList t.toList = none := by
    rwa [← Option.not_isSome_iff_eq_none, isSome_occurrence?_iff]
  unfold replace
  refine .bind (.read _) ?_
  rw [wanted_string]
  dsimp only
  rw [hnone]
  exact .pure _

theorem replace_found (h : p.toList <:+: t.toList) : ∃ before after,
    FirstCut p.toList t.toList before after ∧
      (replace call t (.string p :: .string r :: more)).Gives s
        (.string (String.ofList (before ++ expand p.toList r.toList ++ after))) s := by
  obtain ⟨i, hi⟩ := Option.isSome_iff_exists.mp (isSome_occurrence?_iff.mpr h)
  refine ⟨_, _, firstCut_of_occurrence? hi, ?_⟩
  unfold replace
  refine .bind (.read _) ?_
  rw [wanted_string]
  dsimp only
  rw [hi]
  exact .bind (.bind (.read _) (.pure _)) (.pure _)

end TextMethod

namespace Evaluator

variable {self : Evaluator} {c : Context} {s : Store} {m : Address}

/-- Replacing a text by a text. If the text does not occur, nothing is replaced; otherwise its first
occurrence is, by the replacement with each `$&` and then each `$$` expanded. This is what reading the
replacement once gives for all replacements without an even row before an ampersand, exactly if the dollar
signs of the matched text meet no others. If they do not and there is an even row, it is something else,
unless the matched text puts the ampersand back. -/
theorem text_replaced {t p r : String} {more : List Value}
    (hm : s.methods[m]? = some ⟨.string t, .replace⟩) :
    (¬ p.toList <:+: t.toList →
      (self.callStep c (.method m) (.string p :: .string r :: more)).Gives s (.string t) s) ∧
    (p.toList <:+: t.toList → ∃ before after, FirstCut p.toList t.toList before after ∧
      (self.callStep c (.method m) (.string p :: .string r :: more)).Gives s
        (.string (String.ofList (before ++ TextMethod.expand p.toList r.toList ++ after))) s) ∧
    (Steady p.toList ↔
      ∀ new, ¬ EvenRow new → TextMethod.expand p.toList new = expandOnce p.toList new) ∧
    (Steady p.toList → EvenRow r.toList →
      (TextMethod.expand p.toList r.toList = expandOnce p.toList r.toList ↔
        p.toList = ['&'] ∨ p.toList = ['$', '&'])) := by
  have hcall : (self.callStep c (.method m) (.string p :: .string r :: more)).run.run s =
      (TextMethod.replace (self.call c) t (.string p :: .string r :: more)).run.run s := by
    rw [callStep, Run.run_read, hm]
    rfl
  refine ⟨fun hnone => hcall.trans (TextMethod.replace_missing hnone), fun hsome => ?_,
    steady_iff_expand_eq, fun hp hr => ?_⟩
  · obtain ⟨before, after, hcut, hgives⟩ := TextMethod.replace_found hsome
    exact ⟨before, after, hcut, hcall.trans hgives⟩
  · rw [expand_eq]
    exact ⟨eq_of_expand_eq hp hr, fun h => expand_eq_expandOnce hp fun _ => h⟩

/-- An even row before an ampersand is read as the matched text. -/
theorem text_replaced_even_row :
    let s : Store := ⟨#[], #[], #[], #[⟨.string "aa", .replace⟩], #[]⟩
    (∃ before after, FirstCut "a".toList "aa".toList before after ∧
      ((within 0).callStep ⟨[], 0, 0⟩ (.method 0) [.string "a", .string "$$&"]).Gives s
        (.string (String.ofList
          (before ++ TextMethod.expand "a".toList "$$&".toList ++ after))) s) ∧
      TextMethod.expand "a".toList "$$&".toList = ['$', 'a'] ∧
      TextMethod.expand "a".toList "$$&".toList ≠ expandOnce "a".toList "$$&".toList := by
  intro s
  have hinfix : "a".toList <:+: "aa".toList := by decide
  have hsteady : Steady "a".toList := by
    rw [Steady]
    decide
  have hrow : EvenRow "$$&".toList := evenRow_ampersand []
  obtain ⟨-, hfound, -, heven⟩ :=
    @text_replaced (within 0) ⟨[], 0, 0⟩ s 0 "aa" "a" "$$&" [] rfl
  refine ⟨hfound hinfix, ?_, ?_⟩
  · rw [expand_eq]
    rfl
  · rw [Ne, heven hsteady hrow]
    decide

end Evaluator

end Microtemplate.Script
