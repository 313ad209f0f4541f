import Microtemplate.Proofs.Regex.Numbering
import Microtemplate.Template.Scanner

/-!
The expression that a scanner combines from the patterns of its regions. Where it is accepted, and
each pattern can stand in a group, it is a choice between the patterns with their groups numbered
one after the other, and the end of the text.
-/

namespace Microtemplate

open Regex

/-- The source of an expression can stand in a group: what it reads does not take the closing
parenthesis of the group into a comment, and a level is left for the group. -/
def Regex.Closed (source : List Char) : Prop :=
  (ofText? ('(' :: '?' :: ':' :: source ++ [')'])).isSome

instance (source : List Char) : Decidable (Closed source) := inferInstanceAs (Decidable (_ = _))

namespace Scanner

open Read Reader

theorem ofText?_eq_some {source : List Char} {e : Regex} (h : ofText? source = some e) :
    ∃ p t, body (Reader.group nestLimit) (source.length + 1) [] [] ⟨source, .initial, 0, []⟩ =
      some (p, t) ∧ t.rest = [] ∧ p.regex = e := by
  obtain ⟨⟨p, t⟩, hp, rfl⟩ := Option.map_eq_some_iff.mp h
  obtain ⟨q, u, hq, hp⟩ := bind_eq_some (m := body (Reader.group nestLimit) (source.length + 1) [] [])
    (show (body (Reader.group nestLimit) (source.length + 1) [] [] >>= fun q => do
      if !(← rest).isEmpty || nestLimit < q.nesting || weightLimit < q.weight then refuse
      else return q) ⟨source, .initial, 0, []⟩ = some (p, t) from hp)
  obtain ⟨cs, v, hv, hp⟩ := bind_eq_some hp
  obtain ⟨rfl, rfl⟩ := Prod.mk.inj (Option.some.inj hv)
  split at hp
  · exact nomatch hp
  · rename_i hok
    obtain ⟨rfl, rfl⟩ := Prod.mk.inj (Option.some.inj hp)
    refine ⟨q, u, hq, ?_, rfl⟩
    simp only [Bool.or_eq_true, not_or, Bool.not_eq_true', Bool.not_eq_false,
      List.isEmpty_iff] at hok
    exact hok.1.1

theorem content_eq_some {inner : Read Part} {outer : Flags} {s t : ReadState} {p : Part}
    (h : content inner outer s = some (p, t)) :
    ∃ u, body inner (s.rest.length + 1) [] [] s = some (p, u) ∧ u.rest = ')' :: t.rest ∧
      t = { u with rest := t.rest, flags := outer } := by
  obtain ⟨cs, v, hv, h⟩ := bind_eq_some h
  obtain ⟨rfl, rfl⟩ := Prod.mk.inj (Option.some.inj hv)
  obtain ⟨q, u, hq, h⟩ := bind_eq_some h
  obtain ⟨c, w, hw, hclose⟩ := bind_eq_some h
  obtain ⟨rfl, after, hrest⟩ := Local.peek_eq_some hw
  split at hclose
  · rename_i hc
    subst hc
    obtain ⟨rfl, rfl⟩ := Prod.mk.inj (Option.some.inj hclose)
    have htail : w.rest.drop 1 = after := by rw [hrest]; rfl
    exact ⟨w, hq, hrest.trans (congrArg _ htail.symm), rfl⟩
  · exact nomatch hclose

/-- A body that begins with a group reads the group, and goes on. -/
theorem body_group {source after : List Char} {bound groups : Nat} {branches : List Part}
    {names : List String} {p : Part} {t : ReadState}
    (h : body (Reader.group nestLimit) bound branches []
      ⟨'(' :: '?' :: ':' :: source ++ ')' :: after, .initial, groups, names⟩ = some (p, t)) :
    ∃ bound' q u, Reader.group nestLimit
        ⟨'(' :: '?' :: ':' :: source ++ ')' :: after, .initial, groups, names⟩ = some (q, u) ∧
      body (Reader.group nestLimit) bound' branches [q] u = some (p, t) := by
  cases bound with
  | zero => exact nomatch h
  | succ bound =>
    have h : (do body (Reader.group nestLimit) bound branches [← Reader.group nestLimit])
        ⟨'(' :: '?' :: ':' :: source ++ ')' :: after, .initial, groups, names⟩ = some (p, t) := h
    obtain ⟨q, u, hq, hp⟩ := bind_eq_some h
    exact ⟨bound, q, u, hq, hp⟩

/-- What a group gives where it stands: the body of its text, read up to the closing parenthesis. -/
theorem group_eq_some {source after : List Char} {groups : Nat} {names : List String} {q : Part}
    {v : ReadState} (h : Reader.group nestLimit
      ⟨'(' :: '?' :: ':' :: source ++ ')' :: after, .initial, groups, names⟩ = some (q, v)) :
    ∃ q' u, body (Reader.group (nestLimit - 1)) ((source ++ ')' :: after).length + 1) [] []
        ((⟨source, .initial, 0, []⟩ : ReadState).extend ⟨after, groups, names⟩) = some (q', u) ∧
      u.rest = ')' :: v.rest ∧ v = { u with rest := v.rest, flags := .initial } ∧
      q.regex = q'.regex := by
  have h : (do
      let p ← content (Reader.group (nestLimit - 1)) .initial
      return ⟨p.regex, 1 + p.nesting, p.weight, true⟩ : Read Part)
      ⟨source ++ ')' :: after, .initial, groups, names⟩ = some (q, v) := h
  obtain ⟨q', v', hq', h⟩ := bind_eq_some h
  obtain ⟨rfl, rfl⟩ := Prod.mk.inj (Option.some.inj h)
  obtain ⟨u, hu, hrest, hv⟩ := content_eq_some hq'
  exact ⟨q', u, hu, hrest, hv, rfl⟩

/-- An expression in a group of a larger one: the larger one has the same expression there, with its
groups numbered after those before it, and is read on after the group. -/
theorem body_branch {source : List Char} {e : Regex} (he : ofText? source = some e)
    (hclosed : Closed source) :
    ∃ count, (∀ i ∈ e.groupNumbers, 0 < i ∧ i ≤ count) ∧
      ∀ {bound : Nat} {branches : List Part} {after : List Char} {groups : Nat}
        {names : List String} {p : Part} {t : ReadState},
        body (Reader.group nestLimit) bound branches []
          ⟨'(' :: '?' :: ':' :: source ++ ')' :: after, .initial, groups, names⟩ = some (p, t) →
        ∃ bound' q names', q.regex = e.shift groups ∧
          body (Reader.group nestLimit) bound' branches [q]
            ⟨after, .initial, groups + count, names'⟩ = some (p, t) := by
  obtain ⟨p, t, hp, hrest, rfl⟩ := ofText?_eq_some he
  have hfollows := (body_follows (group_follows nestLimit fun _ => nestLimit - 1)
    (source.length + 1) (fun x => (source ++ ')' :: x.after).length + 1) [] []).follows _ _ _ hp
  have hwithin : ∀ i ∈ p.regex.groupNumbers, 0 < i ∧ i ≤ t.groups :=
    body_within (advancing_group nestLimit) (group_numbered nestLimit) hp (.start ⟨_, _, 0, _⟩)
  refine ⟨t.groups, hwithin, ?_⟩
  intro bound branches after groups names r v h
  obtain ⟨bound', q, u, hq, hr⟩ := body_group h
  obtain ⟨q', w, hw, hwrest, hu, hregex⟩ := group_eq_some hq
  rcases hfollows with hsame | ⟨-, hlost⟩
  · rcases hsame ⟨after, groups, names⟩ with hnone | hsome
    · exact nomatch hnone.symm.trans hw
    · obtain ⟨rfl, rfl⟩ := Prod.mk.inj (Option.some.inj (hsome.symm.trans hw))
      refine ⟨bound', q, t.names ++ names, hregex, ?_⟩
      have hurest : u.rest = after := by
        simpa [ReadState.extend, hrest] using hwrest.symm
      rw [hu, hurest] at hr
      exact hr
  · -- alone in a group the expression would not leave the closing parenthesis
    obtain ⟨e, he⟩ := Option.isSome_iff_exists.mp hclosed
    obtain ⟨r', v', hr', -, -⟩ := ofText?_eq_some he
    obtain ⟨_, q'', u', hq'', -⟩ := body_group hr'
    obtain ⟨_, w', hw', hwrest', -, -⟩ := group_eq_some hq''
    have hle := hlost ⟨[], 0, []⟩ _ _ hw'
    rw [hwrest'] at hle
    exact absurd hle (by simp)

/-- After a branch the next one is read. -/
theorem body_bar {bound : Nat} {branches : List Part} {q p : Part} {after : List Char}
    {groups : Nat} {names : List String} {t : ReadState}
    (h : body (Reader.group nestLimit) bound branches [q] ⟨'|' :: after, .initial, groups, names⟩ =
      some (p, t)) :
    ∃ bound', body (Reader.group nestLimit) bound' (q :: branches) []
      ⟨after, .initial, groups, names⟩ = some (p, t) := by
  cases bound with
  | zero => exact nomatch h
  | succ bound => exact ⟨bound, h⟩

/-- The last branch is the end of the text. -/
theorem body_dollar {bound : Nat} {branches : List Part} {p : Part} {groups : Nat}
    {names : List String} {t : ReadState}
    (h : body (Reader.group nestLimit) bound branches [] ⟨['$'], .initial, groups, names⟩ =
      some (p, t)) :
    p = Part.choice (Part.simple (.look .textEnd) 1 :: branches).reverse := by
  match bound with
  | 0 => exact nomatch h
  | 1 => exact nomatch h
  | bound + 2 =>
    obtain ⟨rfl, -⟩ := Prod.mk.inj (Option.some.inj h)
    rfl

theorem toList_combine (a b c : String) : (combine [a, b, c]).toList =
    '(' :: '?' :: ':' :: a.toList ++ ')' :: '|' :: ('(' :: '?' :: ':' :: b.toList ++ ')' :: '|' ::
      ('(' :: '?' :: ':' :: c.toList ++ ')' :: '|' :: ['$'])) := by
  have h : combine [a, b, c] = "(?:" ++ a ++ ")" ++ "|" ++ ("(?:" ++ b ++ ")") ++ "|" ++
      ("(?:" ++ c ++ ")") ++ "|$" := rfl
  simp [h]

/-- A choice between three expressions with their groups numbered one after the other, and the end
of the text. -/
def choiceOf (a b c : Regex) (m n : Nat) : Regex :=
  .either a (.either (b.shift m) (.either (c.shift (m + n)) (.look .textEnd)))

theorem ofText?_combine {a b c : String} {ea eb ec e : Regex} (ha : ofText? a.toList = some ea)
    (hb : ofText? b.toList = some eb) (hc : ofText? c.toList = some ec)
    (hclosed : Closed a.toList ∧ Closed b.toList ∧ Closed c.toList)
    (h : ofText? (combine [a, b, c]).toList = some e) :
    ∃ m n, (∀ i ∈ ea.groupNumbers, 0 < i ∧ i ≤ m) ∧ (∀ i ∈ eb.groupNumbers, 0 < i ∧ i ≤ n) ∧
      (∀ i ∈ ec.groupNumbers, 0 < i) ∧ e = choiceOf ea eb ec m n := by
  obtain ⟨m, hm, hreada⟩ := body_branch ha hclosed.1
  obtain ⟨n, hn, hreadb⟩ := body_branch hb hclosed.2.1
  obtain ⟨k, hk, hreadc⟩ := body_branch hc hclosed.2.2
  rw [toList_combine] at h
  obtain ⟨p, t, hp, -, rfl⟩ := ofText?_eq_some h
  obtain ⟨_, qa, names, hqa, hp⟩ := hreada hp
  obtain ⟨_, hp⟩ := body_bar hp
  obtain ⟨_, qb, names', hqb, hp⟩ := hreadb hp
  obtain ⟨_, hp⟩ := body_bar hp
  obtain ⟨_, qc, names'', hqc, hp⟩ := hreadc hp
  obtain ⟨_, hp⟩ := body_bar hp
  obtain rfl := body_dollar hp
  refine ⟨m, n, hm, hn, fun i hi => (hk i hi).1, ?_⟩
  have hshape : (Part.choice (Part.simple (.look .textEnd) 1 :: [qc, qb, qa]).reverse).regex =
      .either qa.regex (.either qb.regex (.either qc.regex (.look .textEnd))) := rfl
  rw [hshape, hqa, hqb, hqc, choiceOf, shift_zero, Nat.zero_add]

/-- Where each expression and the choice have as many groups as they should, each branch has one
group, and its number is that of the branch. -/
theorem choiceOf_counts {a b c : Regex} {m n : Nat} (ha : ∀ i ∈ a.groupNumbers, 0 < i ∧ i ≤ m)
    (hb : ∀ i ∈ b.groupNumbers, 0 < i ∧ i ≤ n)
    (hcount : a.groupCount = 1 ∧ b.groupCount = 1 ∧ c.groupCount = 1)
    (h : (choiceOf a b c m n).groupCount = 3) : m = 1 ∧ n = 1 := by
  have hlast : 1 ∈ c.groupNumbers := hcount.2.2 ▸ groupCount_mem (by omega)
  have hm := (ha 1 (hcount.1 ▸ groupCount_mem (by omega))).2
  have hn := (hb 1 (hcount.2.1 ▸ groupCount_mem (by omega))).2
  have hmem : m + n + 1 ∈ (choiceOf a b c m n).groupNumbers := by
    simp only [choiceOf, groupNumbers, groupNumbers_shift, List.mem_append, List.mem_map]
    exact Or.inr (Or.inr (Or.inl ⟨1, hlast, rfl⟩))
  have hle := le_groupCount hmem
  omega

/-- The match of a choice is the match of the first branch that matches, with the captures under
the numbers of that branch. -/
theorem matchAt?_choiceOf (a b c : Regex) (m n : Nat) (spot : Spot) :
    (choiceOf a b c m n).matchAt? spot =
      (a.matchAt? spot).or
        (((b.matchAt? spot).map fun f => ⟨f.start, f.stop, f.captures.shift m⟩).or
          (((c.matchAt? spot).map fun f => ⟨f.start, f.stop, f.captures.shift (m + n)⟩).or
            (if spot.rest.isEmpty then some ⟨spot, spot, []⟩ else none))) := by
  have hend : (Regex.look .textEnd).matchAt? spot =
      if spot.rest.isEmpty then some ⟨spot, spot, []⟩ else none := by
    by_cases h : spot.rest.isEmpty = true
    · simp [matchAt?, ends, Look.holds, h]
    · simp [matchAt?, ends, Look.holds, h]
  simp only [choiceOf, matchAt?_either, matchAt?_shift, hend]

end Scanner

end Microtemplate
