import Microtemplate.Proofs.Text.Search

/-!
Cutting a text at a separator. The places where the separator is cut out are found from left to right,
each after the end of the one before, and the parts are what stands between them. No part has the separator
in it, and the parts with the separator between them are the text again.
-/

namespace Microtemplate.Text

/-- The places where a text is found in another one from a position on: the first one, and then those from
its end on. -/
inductive FoundFrom (wanted cs : List Char) : Nat → List Nat → Prop
  | none {start : Nat} : (∀ i, start ≤ i → ¬ OccursAt wanted cs i) → FoundFrom wanted cs start []
  | next {start i : Nat} {places : List Nat} : IsLeast {j | start ≤ j ∧ OccursAt wanted cs j} i →
      FoundFrom wanted cs (i + wanted.length) places → FoundFrom wanted cs start (i :: places)

/-- What stands before, between and after texts of a length at some places, from a position on. -/
def between (length : Nat) (cs : List Char) (start : Nat) : List Nat → List (List Char)
  | [] => [cs.drop start]
  | i :: places => (cs.take i).drop start :: between length cs (i + length) places

/-- A text is cut into parts by a separator. An empty separator stands between all characters. -/
structure CutInto (separator cs : List Char) (parts : List (List Char)) : Prop where
  whole : separator.intercalate parts = cs
  apart : separator ≠ [] → ∀ part ∈ parts, ¬ separator <:+: part
  places : separator ≠ [] → ∃ places, FoundFrom separator cs 0 places ∧
    parts = between separator.length cs 0 places
  characters : separator = [] → parts = cs.map ([·])

variable {wanted cs part : List Char} {start i : Nat} {places : List Nat}

theorem length_between (length : Nat) (cs : List Char) (start : Nat) (places : List Nat) :
    (between length cs start places).length = places.length + 1 := by
  induction places generalizing start with
  | nil => rfl
  | cons i places ih => exact congrArg (· + 1) (ih _)

/-- There is one row of places that are found from left to right. -/
theorem FoundFrom.unique {others : List Nat} (h : FoundFrom wanted cs start places)
    (h' : FoundFrom wanted cs start others) : others = places := by
  induction h generalizing others with
  | none hnone =>
    cases h' with
    | none => rfl
    | next hfirst => exact absurd hfirst.1.2 (hnone _ hfirst.1.1)
  | next hfirst _ ih =>
    cases h' with
    | none hnone => exact absurd hfirst.1.2 (hnone _ hfirst.1.1)
    | next hfirst' hmore =>
      obtain rfl := hfirst'.unique hfirst
      exact congrArg (_ :: ·) (ih hmore)

/-- Cutting goes on behind the first occurrence, if there is one. -/
theorem splitAfter_eq (hwanted : wanted ≠ []) (cs : List Char) :
    splitAfter wanted 0 cs = match occurrence? wanted cs with
      | none => [cs]
      | some i => cs.take i :: splitAfter wanted 0 (cs.drop (i + wanted.length)) := by
  induction cs with
  | nil =>
    obtain ⟨c, cs, rfl⟩ := List.exists_cons_of_ne_nil hwanted
    rfl
  | cons c cs ih =>
    by_cases h : wanted <+: c :: cs
    · have hfirst : occurrence? wanted (c :: cs) = some 0 :=
        if_pos (List.isPrefixOf_iff_prefix.mpr h)
      obtain ⟨rest, hrest⟩ := h
      rw [hfirst, ← hrest, splitAfter_append hwanted]
      simp
    · have hlater : occurrence? wanted (c :: cs) = (occurrence? wanted cs).map (· + 1) :=
        if_neg (mt List.isPrefixOf_iff_prefix.mp h)
      rw [splitAfter_cons h, hlater, ih]
      cases occurrence? wanted cs with
      | none => rfl
      | some i =>
        have hnext : i + 1 + wanted.length = i + wanted.length + 1 := by omega
        simp only [extendFirst, Option.map_some, List.take_succ_cons, hnext, List.drop_succ_cons]

/-- A text without an occurrence, and one with a first occurrence and what is behind it. -/
theorem cutting_induction {motive : List Char → Prop} (hwanted : wanted ≠ [])
    (whole : ∀ cs, occurrence? wanted cs = none → motive cs)
    (cut : ∀ cs i, occurrence? wanted cs = some i → motive (cs.drop (i + wanted.length)) → motive cs)
    (cs : List Char) : motive cs := by
  have hpos := List.length_pos_iff.mpr hwanted
  induction hlength : cs.length using Nat.strong_induction_on generalizing cs with
  | _ n ih =>
    cases hfound : occurrence? wanted cs with
    | none => exact whole cs hfound
    | some i =>
      have hcut := congrArg List.length (firstCut_of_occurrence? hfound).text
      refine cut cs i hfound (ih _ ?_ _ rfl)
      simp only [List.length_append] at hcut
      omega

theorem intercalate_splitAfter (hwanted : wanted ≠ []) (cs : List Char) :
    wanted.intercalate (splitAfter wanted 0 cs) = cs := by
  induction cs using cutting_induction hwanted with
  | whole cs hnone =>
    rw [splitAfter_eq hwanted, hnone]
    exact List.intercalate_singleton
  | cut cs i hfound ih =>
    obtain ⟨part, parts, hparts⟩ := List.exists_cons_of_ne_nil
      (@splitAfter_ne_nil wanted 0 (cs.drop (i + wanted.length)))
    rw [hparts] at ih
    rw [splitAfter_eq hwanted, hfound]
    dsimp only
    rw [hparts, List.intercalate_cons_cons, ih]
    exact (firstCut_of_occurrence? hfound).text.symm

theorem not_infix_of_mem_splitAfter (hwanted : wanted ≠ []) (hpart : part ∈ splitAfter wanted 0 cs) :
    ¬ wanted <:+: part := by
  induction cs using cutting_induction hwanted with
  | whole cs hnone =>
    rw [splitAfter_eq hwanted, hnone] at hpart
    obtain rfl := List.mem_singleton.mp hpart
    rw [← isSome_occurrence?_iff, hnone]
    exact Bool.false_ne_true
  | cut cs i hfound ih =>
    rw [splitAfter_eq hwanted, hfound] at hpart
    rcases List.mem_cons.mp hpart with rfl | hpart
    · -- an occurrence inside the first part would be before the first one
      rintro ⟨before, after, hinside⟩
      have hcut := firstCut_of_occurrence? hfound
      have hearlier := hcut.first before (after ++ wanted ++ cs.drop (i + wanted.length)) (by
        rw [← List.append_assoc, ← List.append_assoc, hinside]
        exact hcut.text)
      have hlength := congrArg List.length hinside
      have hpos := List.length_pos_iff.mpr hwanted
      simp only [List.length_append] at hlength
      omega
    · exact ih hpart

/-- The parts from a position on are what stands between the places found from there. -/
theorem exists_foundFrom (hwanted : wanted ≠ []) (hstart : start ≤ cs.length) :
    ∃ places, FoundFrom wanted cs start places ∧
      splitAfter wanted 0 (cs.drop start) = between wanted.length cs start places := by
  have hfrom : ∀ j, occurrenceFrom? wanted start cs = some j ↔ _ := fun j =>
    occurrenceFrom?_eq_some_iff_isLeast hstart
  -- the induction is on what is left of the text, while the places are those in the whole of it
  induction hrest : cs.drop start using cutting_induction hwanted generalizing start with
  | whole rest hnone =>
    have hmissing : occurrenceFrom? wanted start cs = none := by
      rw [occurrenceFrom?, hrest, hnone]
      rfl
    refine ⟨[], .none fun j hj hat => ?_, ?_⟩
    · have hsome := (isSome_iff_of_isLeast hfrom).mpr ⟨j, hj, hat⟩
      rw [hmissing] at hsome
      cases hsome
    · rw [splitAfter_eq hwanted, hnone, between, hrest]
  | cut rest i hfound ih =>
    have hfirst : occurrenceFrom? wanted start cs = some (i + start) := by
      rw [occurrenceFrom?, hrest, hfound]
      rfl
    have hleast := (hfrom _).mp hfirst
    have hnext : i + start + wanted.length ≤ cs.length := by
      have hlength := hleast.1.2.2.length_le
      rw [List.length_drop] at hlength
      have hle := hleast.1.2.1
      omega
    have hdrop : cs.drop (i + start + wanted.length) = rest.drop (i + wanted.length) := by
      rw [← hrest, List.drop_drop]
      congr 1
      omega
    obtain ⟨places, hplaces, hparts⟩ := ih hnext
      (fun j => occurrenceFrom?_eq_some_iff_isLeast hnext) hdrop
    refine ⟨(i + start) :: places, .next hleast hplaces, ?_⟩
    rw [splitAfter_eq hwanted, hfound, between, ← hparts, List.drop_take, Nat.add_sub_cancel, hrest]

theorem intercalate_characters (cs : List Char) : [].intercalate (cs.map ([·])) = cs := by
  induction cs with
  | nil => rfl
  | cons c cs ih =>
    cases cs with
    | nil => rfl
    | cons d ds =>
      rw [List.map_cons] at ih
      rw [List.map_cons, List.map_cons, List.intercalate_cons_cons, ih]
      rfl

/-- Cutting a text gives the parts that there are. -/
theorem cutInto_split (separator cs : List Char) : CutInto separator cs (split separator cs) := by
  by_cases hseparator : separator = []
  · subst hseparator
    exact ⟨intercalate_characters cs, fun h => absurd rfl h, fun h => absurd rfl h, fun _ => rfl⟩
  · have hsplit : split separator cs = splitAfter separator 0 cs :=
      if_neg (mt List.isEmpty_iff.mp hseparator)
    rw [hsplit]
    exact ⟨intercalate_splitAfter hseparator cs, fun h _ => not_infix_of_mem_splitAfter h,
      fun h => exists_foundFrom h (Nat.zero_le _), fun h => absurd h hseparator⟩

end Microtemplate.Text
