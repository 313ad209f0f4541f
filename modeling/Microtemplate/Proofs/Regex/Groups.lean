import Microtemplate.Proofs.Regex.Span

/-!
The numbers of capture groups. An expression whose groups have other numbers matches in the same
places; only the numbers of what it captures differ. Captures have numbers of groups of the
expression.
-/

namespace Microtemplate.Regex

/-- An expression with larger numbers for its groups. -/
def shift (k : Nat) : Regex → Regex
  | empty => empty
  | one s => one s
  | look l => look l
  | group i e => group (k + i) (e.shift k)
  | append a b => append (a.shift k) (b.shift k)
  | either a b => either (a.shift k) (b.shift k)
  | optional greedy e => optional greedy (e.shift k)
  | plus greedy e => plus greedy (e.shift k)

/-- The numbers of the groups of an expression. -/
def groupNumbers : Regex → List Nat
  | group i e => i :: e.groupNumbers
  | append a b => a.groupNumbers ++ b.groupNumbers
  | either a b => a.groupNumbers ++ b.groupNumbers
  | optional _ e => e.groupNumbers
  | plus _ e => e.groupNumbers
  | _ => []

@[simp] theorem shift_zero (e : Regex) : e.shift 0 = e := by
  induction e with
  | empty | one | look => rfl
  | group i e ih => simp [shift, ih]
  | append a b iha ihb | either a b iha ihb => simp [shift, iha, ihb]
  | optional greedy e ih | plus greedy e ih => simp [shift, ih]

/-- The largest of two numbers that may be missing is one of them. -/
private theorem max_eq_or (a b : Option Nat) : max a b = a ∨ max a b = b := by
  cases a with
  | none => cases b <;> simp
  | some a =>
    cases b with
    | none => simp
    | some b =>
      rcases Nat.le_total a b with h | h
      · exact Or.inr (by simp [h])
      · exact Or.inl (by simp [h])

private theorem le_getD_max {a b : Option Nat} {i : Nat} (h : i ≤ a.getD 0 ∨ i ≤ b.getD 0) :
    i ≤ (max a b).getD 0 := by
  cases a <;> cases b <;> simp_all <;> omega

theorem mem_groupNumbers_of_lastGroup? {e : Regex} {n : Nat} (h : e.lastGroup? = some n) :
    n ∈ e.groupNumbers := by
  induction e with
  | empty | one | look => simp [lastGroup?] at h
  | group i e ih =>
    simp only [lastGroup?] at h
    simp only [groupNumbers, List.mem_cons]
    rcases max_eq_or (some i) e.lastGroup? with hm | hm
    · rw [hm] at h
      exact Or.inl (Option.some.inj h).symm
    · exact Or.inr (ih (hm ▸ h))
  | append a b iha ihb | either a b iha ihb =>
    simp only [lastGroup?] at h
    simp only [groupNumbers, List.mem_append]
    rcases max_eq_or a.lastGroup? b.lastGroup? with hm | hm
    · exact Or.inl (iha (hm ▸ h))
    · exact Or.inr (ihb (hm ▸ h))
  | optional greedy e ih | plus greedy e ih => exact ih h

theorem le_groupCount {e : Regex} {i : Nat} (h : i ∈ e.groupNumbers) : i ≤ e.groupCount := by
  unfold groupCount
  induction e with
  | empty | one | look => simp [groupNumbers] at h
  | group j e ih =>
    rcases List.mem_cons.mp h with rfl | h
    · exact le_getD_max (Or.inl (Nat.le_refl i))
    · exact le_getD_max (Or.inr (ih h))
  | append a b iha ihb | either a b iha ihb =>
    rcases List.mem_append.mp h with h | h
    · exact le_getD_max (Or.inl (iha h))
    · exact le_getD_max (Or.inr (ihb h))
  | optional greedy e ih | plus greedy e ih => exact ih h

/-- An expression with groups has one with the largest number. -/
theorem groupCount_mem {e : Regex} (h : e.groupCount ≠ 0) : e.groupCount ∈ e.groupNumbers := by
  unfold groupCount at h ⊢
  cases hlast : e.lastGroup? with
  | none => simp [hlast] at h
  | some n => exact mem_groupNumbers_of_lastGroup? hlast

theorem groupNumbers_shift (k : Nat) (e : Regex) :
    (e.shift k).groupNumbers = e.groupNumbers.map (k + ·) := by
  induction e with
  | empty | one | look => rfl
  | group i e ih => simp [shift, groupNumbers, ih]
  | append a b iha ihb | either a b iha ihb => simp [shift, groupNumbers, iha, ihb]
  | optional greedy e ih | plus greedy e ih => exact ih

/-- Captures with larger numbers. -/
def Captures.shift (k : Nat) (c : Captures) : Captures := c.map fun p => (k + p.1, p.2)

@[simp] theorem Captures.shift_zero (c : Captures) : c.shift 0 = c := by
  simp [shift]

theorem Captures.get?_shift (k i : Nat) (c : Captures) : (c.shift k).get? (k + i) = c.get? i := by
  induction c with
  | nil => rfl
  | cons p c ih =>
    obtain ⟨j, span⟩ := p
    simp only [get?, shift, List.map_cons, List.lookup_cons] at ih ⊢
    by_cases h : i = j
    · simp [h]
    · have h' : k + i ≠ k + j := by omega
      simp [beq_false_of_ne h, beq_false_of_ne h', ih]

theorem Captures.get?_eq_none {c : Captures} {i : Nat} (h : ∀ p ∈ c, p.1 ≠ i) :
    c.get? i = none := by
  rw [get?, List.lookup_eq_none_iff]
  exact fun p hp => bne_iff_ne.mpr (h p hp).symm

theorem Captures.filter_shift (k i : Nat) (c : Captures) :
    (c.shift k).filter (·.1 != k + i) = Captures.shift k (c.filter (·.1 != i)) := by
  simp only [shift, List.filter_map]
  congr 1
  apply List.filter_congr
  intro p _
  by_cases h : p.1 = i
  · simp [h]
  · have h' : k + p.1 ≠ k + i := by omega
    simp [bne, beq_false_of_ne h, beq_false_of_ne h']

namespace Ends

/-- Ends with other captures. -/
def mapCaptures (g : Captures → Captures) (l : Ends) : Ends := l.map fun e => (e.1, g e.2)

theorem distinctFrom_mapCaptures (g : Captures → Captures) (seen : OffsetSet) (l : Ends) :
    distinctFrom seen (l.mapCaptures g) = (distinctFrom seen l).mapCaptures g := by
  induction l generalizing seen with
  | nil => rfl
  | cons e rest ih =>
    simp only [mapCaptures, List.map_cons, distinctFrom] at ih ⊢
    split
    · exact ih seen
    · rw [List.map_cons, ih]

theorem distinct_mapCaptures (g : Captures → Captures) (l : Ends) :
    distinct (l.mapCaptures g) = (distinct l).mapCaptures g := distinctFrom_mapCaptures g _ l

end Ends

/-- Rounds with other captures. -/
def Rounds.mapCaptures (g : Captures → Captures) (r : Rounds) : Rounds :=
  ⟨r.started, r.ended, r.ends.mapCaptures g⟩

theorem Rounds.leave_mapCaptures (g : Captures → Captures) (r : Rounds) (e : Spot × Captures) :
    (r.mapCaptures g).leave (e.1, g e.2) = (r.leave e).mapCaptures g := by
  by_cases h : r.ended.has e.1.offset
  · simp [leave, mapCaptures, h]
  · simp [leave, mapCaptures, h, Ends.mapCaptures]

/-- Repetition does not look at what is captured. -/
theorem rounds_mapCaptures {g : Captures → Captures} {inner inner' : Spot → Captures → Ends}
    (h : ∀ s c, inner' s (g c) = (inner s c).mapCaptures g) (greedy : Bool) (n : Nat) (s : Spot)
    (c : Captures) (r : Rounds) :
    rounds inner' greedy n s (g c) (r.mapCaptures g) =
      (rounds inner greedy n s c r).mapCaptures g := by
  induction n generalizing s c r with
  | zero => rfl
  | succ n ih =>
    have again : ∀ (e : Spot × Captures) (r : Rounds),
        (if (r.mapCaptures g).started.has e.1.offset then r.mapCaptures g
          else rounds inner' greedy n e.1 (g e.2) (r.mapCaptures g)) =
        (if r.started.has e.1.offset then r
          else rounds inner greedy n e.1 e.2 r).mapCaptures g := by
      intro e r
      rw [ih]
      exact (apply_ite _ _ _ _).symm
    have loop : ∀ (l : Ends) (r : Rounds),
        (l.mapCaptures g).foldl (fun r e =>
          let again := fun r : Rounds =>
            if r.started.has e.1.offset then r else rounds inner' greedy n e.1 e.2 r
          if greedy then (again r).leave e else again (r.leave e)) (r.mapCaptures g) =
        (l.foldl (fun r e =>
          let again := fun r : Rounds =>
            if r.started.has e.1.offset then r else rounds inner greedy n e.1 e.2 r
          if greedy then (again r).leave e else again (r.leave e)) r).mapCaptures g := by
      intro l
      induction l with
      | nil => exact fun r => rfl
      | cons e l ihl =>
        intro r
        simp only [Ends.mapCaptures, List.map_cons, List.foldl_cons] at ihl ⊢
        rw [← ihl]
        congr 1
        cases greedy with
        | true => simp only [if_true, again, Rounds.leave_mapCaptures]
        | false =>
          simp only [Bool.false_eq_true, if_false, Rounds.leave_mapCaptures, again]
    simp only [rounds, h]
    exact loop (inner s c) { r with started := r.started.add s.offset }

/-- Expressions that differ in the numbers of groups match alike. -/
theorem ends_shift (k : Nat) (e : Regex) (s : Spot) (c : Captures) :
    ends (e.shift k) s (c.shift k) = (ends e s c).mapCaptures (Captures.shift k) := by
  induction e generalizing s c with
  | empty => rfl
  | one set =>
    obtain ⟨offset, previous, rest⟩ := s
    cases rest with
    | nil => rfl
    | cons char rest =>
      simp only [shift, ends]
      split <;> rfl
  | look l =>
    simp only [shift, ends]
    split <;> rfl
  | group i e ih =>
    simp only [shift, ends, ih, Ends.mapCaptures, List.map_map]
    apply List.map_congr_left
    intro x _
    simp only [Function.comp_apply, Captures.filter_shift]
    rfl
  | append a b iha ihb =>
    simp only [shift, ends, iha, ← Ends.distinct_mapCaptures]
    congr 1
    simp only [Ends.mapCaptures, List.flatMap_map, List.map_flatMap]
    exact congrArg (fun f => (ends a s c).flatMap f) (funext fun x => ihb x.1 x.2)
  | either a b iha ihb =>
    simp only [shift, ends, iha, ihb, ← Ends.distinct_mapCaptures]
    simp only [Ends.mapCaptures, List.map_append]
  | optional greedy e ih =>
    simp only [shift, ends, ih, ← Ends.distinct_mapCaptures]
    cases greedy with
    | true => simp [Ends.mapCaptures]
    | false => simp [Ends.mapCaptures]
  | plus greedy e ih =>
    simp only [shift, ends]
    have h := rounds_mapCaptures ih greedy (s.rest.length + 1) s c Rounds.none
    have hnone : Rounds.none.mapCaptures (Captures.shift k) = Rounds.none := rfl
    rw [hnone] at h
    rw [h]
    simp [Rounds.mapCaptures, Ends.mapCaptures]

/-- What is captured has the number of a group. -/
theorem Matches.mem_groupNumbers {e : Regex} {x y : Spot × Captures} (h : Matches e x y) :
    ∀ p ∈ y.2, p ∈ x.2 ∨ p.1 ∈ e.groupNumbers := by
  induction h with
  | empty | one | look | skip => exact fun p hp => Or.inl hp
  | @group i _ _ _ _ ih =>
    intro p hp
    rcases List.mem_cons.mp hp with rfl | hp
    · exact Or.inr (List.mem_cons_self ..)
    · exact (ih p (List.mem_filter.mp hp).1).imp_right (List.mem_cons_of_mem i)
  | append _ _ iha ihb =>
    intro p hp
    rcases ihb p hp with hp | hp
    · exact (iha p hp).imp_right (List.mem_append_left _)
    · exact Or.inr (List.mem_append_right _ hp)
  | left _ ih => exact fun p hp => (ih p hp).imp_right (List.mem_append_left _)
  | right _ ih => exact fun p hp => (ih p hp).imp_right (List.mem_append_right _)
  | take _ ih | once _ ih => exact ih
  | again _ _ ih ihe => exact fun p hp => (ihe p hp).elim (ih p) Or.inr

theorem mem_groupNumbers_of_matchAt? {e : Regex} {s : Spot} {f : Found}
    (h : e.matchAt? s = some f) : ∀ p ∈ f.captures, p.1 ∈ e.groupNumbers := by
  obtain ⟨x, hx, rfl⟩ := Option.map_eq_some_iff.mp h
  intro p hp
  rcases (matches_of_mem_ends (List.mem_of_head? hx)).mem_groupNumbers p hp with hp | hp
  · exact nomatch hp
  · exact hp

/-- The match of an expression with larger numbers for its groups. -/
theorem matchAt?_shift (k : Nat) (e : Regex) (s : Spot) :
    (e.shift k).matchAt? s =
      (e.matchAt? s).map fun f => ⟨f.start, f.stop, f.captures.shift k⟩ := by
  have h := ends_shift k e s []
  simp only [Captures.shift, List.map_nil] at h
  simp only [matchAt?, h, Ends.mapCaptures, List.head?_map, Option.map_map]
  rfl

/-- Of two expressions the first that matches counts. -/
theorem matchAt?_either (a b : Regex) (s : Spot) :
    (either a b).matchAt? s = (a.matchAt? s).or (b.matchAt? s) := by
  simp only [matchAt?, ends, Ends.head?_distinct, List.head?_append]
  cases (ends a s []).head? <;> rfl

end Microtemplate.Regex
