import Microtemplate.Proofs.Regex.ExpressionReading

/-!
The numbers that capture groups get while an expression is read. The groups read on the way from one
state to another have the numbers after those of the first state, up to those of the second.
-/

namespace Microtemplate.Regex

/-- Expressions that are joined one after another have no groups together but their own. -/
theorem mem_groupNumbers_joined {join : List Regex → Regex} (hnil : (join []).groupNumbers = [])
    (hone : ∀ e, join [e] = e)
    (hmore : ∀ e e' es, (join (e :: e' :: es)).groupNumbers =
      e.groupNumbers ++ (join (e' :: es)).groupNumbers)
    {es : List Regex} {i : Nat} (h : i ∈ (join es).groupNumbers) :
    ∃ e ∈ es, i ∈ e.groupNumbers := by
  induction es with
  | nil =>
    rw [hnil] at h
    exact nomatch h
  | cons e es ih =>
    cases es with
    | nil => exact ⟨e, List.mem_cons_self .., hone e ▸ h⟩
    | cons e' es =>
      rw [hmore, List.mem_append] at h
      rcases h with h | h
      · exact ⟨e, List.mem_cons_self .., h⟩
      · obtain ⟨e'', he, hi⟩ := ih h
        exact ⟨e'', List.mem_cons_of_mem _ he, hi⟩

theorem mem_groupNumbers_sequence {es : List Regex} {i : Nat}
    (h : i ∈ (sequence es).groupNumbers) : ∃ e ∈ es, i ∈ e.groupNumbers :=
  mem_groupNumbers_joined rfl (fun _ => rfl) (fun _ _ _ => rfl) h

theorem mem_groupNumbers_times {e : Regex} {n i : Nat} (h : i ∈ (times e n).groupNumbers) :
    i ∈ e.groupNumbers := by
  obtain ⟨e', he, hi⟩ := mem_groupNumbers_sequence h
  obtain rfl := List.eq_of_mem_replicate he
  exact hi

theorem mem_groupNumbers_atMost {e : Regex} {greedy : Bool} {n i : Nat}
    (h : i ∈ (atMost greedy e n).groupNumbers) : i ∈ e.groupNumbers := by
  induction n with
  | zero => simp [atMost, groupNumbers] at h
  | succ n ih =>
    cases n with
    | zero => exact h
    | succ n =>
      rcases List.mem_append.mp h with h | h
      · exact h
      · exact ih h

theorem mem_groupNumbers_atLeast {e : Regex} {greedy : Bool} {n i : Nat}
    (h : i ∈ (atLeast greedy e n).groupNumbers) : i ∈ e.groupNumbers := by
  match n with
  | 0 => exact h
  | 1 => exact h
  | n + 2 =>
    rcases List.mem_append.mp h with h | h
    · exact mem_groupNumbers_times h
    · exact h

/-- Repeating an expression adds no groups. -/
theorem Count.mem_groupNumbers_apply {n : Count} {greedy : Bool} {e : Regex} {i : Nat}
    (h : i ∈ (n.apply greedy e).groupNumbers) : i ∈ e.groupNumbers := by
  unfold apply at h
  split at h
  · exact mem_groupNumbers_atLeast h
  · simp [groupNumbers] at h
  · exact mem_groupNumbers_atMost h
  · split at h
    · exact mem_groupNumbers_times h
    · rcases List.mem_append.mp h with h | h
      · exact mem_groupNumbers_times h
      · exact mem_groupNumbers_atMost h

namespace Part

/-- The groups of a part have numbers above one and up to another. -/
def Within (p : Part) (low high : Nat) : Prop := ∀ i ∈ p.regex.groupNumbers, low < i ∧ i ≤ high

variable {low low' high high' : Nat}

theorem Within.mono {p : Part} (h : p.Within low high) (hlow : low' ≤ low) (hhigh : high ≤ high') :
    p.Within low' high' := by
  intro i hi
  have := h i hi
  omega

theorem Within.of_nil {p : Part} (h : p.regex.groupNumbers = []) : p.Within low high := by
  intro i hi
  rw [h] at hi
  exact nomatch hi

theorem within_of_mem {p : Part} {parts : List Part} (h : ∀ q ∈ parts, q.Within low high)
    (hp : ∀ i ∈ p.regex.groupNumbers, ∃ e ∈ parts.map (·.regex), i ∈ e.groupNumbers) :
    p.Within low high := by
  intro i hi
  obtain ⟨e, he, hi⟩ := hp i hi
  obtain ⟨q, hq, rfl⟩ := List.mem_map.mp he
  exact h q hq i hi

theorem within_row {parts : List Part} (h : ∀ p ∈ parts, p.Within low high) :
    (row parts).Within low high := by
  match parts with
  | [] => exact Within.of_nil rfl
  | [p] => exact h p (List.mem_cons_self ..)
  | _ :: _ :: _ => exact within_of_mem h fun _ hi => mem_groupNumbers_sequence hi

theorem within_choice {parts : List Part} (h : ∀ p ∈ parts, p.Within low high) :
    (choice parts).Within low high := by
  match parts with
  | [] => exact Within.of_nil rfl
  | [p] => exact h p (List.mem_cons_self ..)
  | _ :: _ :: _ =>
    exact within_of_mem h fun _ hi =>
      @mem_groupNumbers_joined anyOf rfl (fun _ => rfl) (fun _ _ _ => rfl) _ _ hi

end Part

namespace Read

open Reader

variable {α β : Type}

/-- The groups of what a reader gives have the numbers that have been given away meanwhile. -/
def Numbered (m : Read Part) : Prop :=
  ∀ s p t, m s = some (p, t) → p.Within s.groups t.groups

/-- A reader whose results have no groups. -/
def Groupless (m : Read Part) : Prop := ∀ s p t, m s = some (p, t) → p.regex.groupNumbers = []

theorem Numbered.bind {m : Read α} {f : α → Read Part} (hm : Advancing m)
    (hf : ∀ a, Numbered (f a)) : Numbered (m >>= f) := by
  intro s p t h
  obtain ⟨a, u, ha, hp⟩ := bind_eq_some h
  exact (hf a u p t hp).mono (hm s a u ha).groups (Nat.le_refl _)

theorem Numbered.refuse : Numbered refuse := fun _ _ _ h => nomatch h

theorem Groupless.bind {m : Read α} {f : α → Read Part} (hf : ∀ a, Groupless (f a)) :
    Groupless (m >>= f) := by
  intro s p t h
  obtain ⟨a, u, _, hp⟩ := bind_eq_some h
  exact hf a u p t hp

theorem Groupless.pure {p : Part} (h : p.regex.groupNumbers = []) : Groupless (Pure.pure p) := by
  intro s q t hs
  obtain ⟨rfl, -⟩ := Prod.mk.inj (Option.some.inj hs)
  exact h

theorem Groupless.refuse : Groupless refuse := fun _ _ _ h => nomatch h

theorem groupNumbers_literal (f : Flags) (c : Char) :
    (literal f c).regex.groupNumbers = [] := by
  unfold literal
  split
  · simp only [Part.ofSet, Part.simple, groupNumbers]
  · split
    · simp only [Part.ofSet, Part.simple, groupNumbers]
    · simp only [Part.ofSet, Part.simple, groupNumbers]

theorem primitive_groupless : Groupless primitive := by
  unfold primitive
  refine .bind fun f => .bind fun c => ?_
  split
  · refine .bind fun e => ?_
    split
    · exact .pure (groupNumbers_literal f _)
    · split
      · exact .refuse
      · exact .pure rfl
    · exact .pure rfl
  · refine .bind fun _ => ?_
    split
    · exact .pure rfl
    · exact .refuse
  · exact .bind fun _ => .pure rfl
  · exact .bind fun _ => .pure rfl
  · exact .bind fun _ => .pure (groupNumbers_literal f _)

/-- A repeated part has the groups of the part. -/
theorem repetition_within {last : Option Part} {n : Count} {s t : ReadState} {p : Part}
    (h : repetition last n s = some (p, t)) {low high : Nat}
    (hlast : ∀ q ∈ last, q.Within low high) : p.Within low high := by
  obtain ⟨isLazy, u, _, h⟩ := bind_eq_some h
  obtain ⟨f, v, _, h⟩ := bind_eq_some h
  cases last with
  | none => exact nomatch h
  | some q =>
    simp only at h
    split at h
    · exact nomatch h
    · obtain ⟨rfl, -⟩ := Prod.mk.inj (Option.some.inj h)
      exact fun i hi => hlast q rfl i (Count.mem_groupNumbers_apply hi)

/-- What has been read of a body so far, where the groups in it have numbers above one. -/
structure Collected (low : Nat) (branches done : List Part) (s : ReadState) : Prop where
  low_le : low ≤ s.groups
  branches : ∀ p ∈ branches, p.Within low s.groups
  done : ∀ p ∈ done, p.Within low s.groups

namespace Collected

variable {low : Nat} {branches done : List Part} {s t : ReadState} {p : Part}

theorem start (s : ReadState) : Collected s.groups [] [] s :=
  ⟨Nat.le_refl _, by simp, by simp⟩

theorem later (h : Collected low branches done s) (hst : s.groups ≤ t.groups) :
    Collected low branches done t :=
  ⟨Nat.le_trans h.low_le hst, fun p hp => (h.branches p hp).mono (Nat.le_refl _) hst,
    fun p hp => (h.done p hp).mono (Nat.le_refl _) hst⟩

theorem push (h : Collected low branches done s) (hp : p.Within low s.groups) :
    Collected low branches (p :: done) s :=
  ⟨h.low_le, h.branches, List.forall_mem_cons.mpr ⟨hp, h.done⟩⟩

theorem tail (h : Collected low branches done s) : Collected low branches done.tail s :=
  ⟨h.low_le, h.branches, fun p hp => h.done p (List.mem_of_mem_tail hp)⟩

/-- The parts of a branch have been read. -/
theorem branch (h : Collected low branches done s) :
    Collected low (Part.row done.reverse :: branches) [] s :=
  ⟨h.low_le, List.forall_mem_cons.mpr
    ⟨Part.within_row fun p hp => h.done p (List.mem_reverse.mp hp), h.branches⟩, by simp⟩

theorem choice (h : Collected low branches done s) :
    (Part.choice branches.reverse).Within low s.groups :=
  Part.within_choice fun p hp => h.branches p (List.mem_reverse.mp hp)

/-- The last part is repeated. -/
theorem repeated (h : Collected low branches done s) {n : Count}
    (hp : repetition done.head? n s = some (p, t)) : Collected low branches (p :: done.tail) t := by
  have ht := h.later (advancing_repetition _ _ s p t hp).groups
  exact ht.tail.push (repetition_within hp fun q hq => ht.done q (List.mem_of_head? hq))

end Collected

/-- The groups of a body are those of its parts so far and those read meanwhile. -/
theorem body_within {group : Read Part} (hadv : Advancing group) (hgroup : Numbered group)
    {n : Nat} {branches done : List Part} {s t : ReadState} {p : Part}
    (h : body group n branches done s = some (p, t)) {low : Nat}
    (hs : Collected low branches done s) : p.Within low t.groups := by
  induction n generalizing branches done s with
  | zero => exact nomatch h
  | succ n ih =>
    rw [body_succ] at h
    obtain ⟨_, u, hu, h⟩ := bind_eq_some h
    have hu := hs.later (Local.space.advancing s _ u hu).groups
    have hrepeat : ∀ {c : Count} {v : ReadState}, u.groups ≤ v.groups →
        (do body group n branches ((← repetition done.head? c) :: done.tail)) v = some (p, t) →
        p.Within low t.groups := by
      intro c v huv hv
      obtain ⟨q, w, hq, hv⟩ := bind_eq_some hv
      exact ih hv ((hu.later huv).repeated hq)
    have h : bodyAt group n branches done (u.rest.headD ')') u = some (p, t) := h
    -- the cases are those of the character that comes next
    unfold bodyAt at h
    split at h
    · obtain ⟨rfl, rfl⟩ := Prod.mk.inj (Option.some.inj h)
      exact hu.branch.choice
    split at h
    · exact ih (s := { u with rest := u.rest.drop 1 }) h (hu.branch.later (Nat.le_refl _))
    split at h
    · obtain ⟨q, v, hq, h⟩ := bind_eq_some h
      exact ih h ((hu.later (hadv u q v hq).groups).push
        ((hgroup u q v hq).mono hu.low_le (Nat.le_refl _)))
    split at h
    · obtain ⟨c, v, hc, h⟩ := bind_eq_some h
      exact ih h ((hu.later (Local.set.advancing u c v hc).groups).push (.of_nil rfl))
    split at h
    · exact hrepeat (v := { u with rest := u.rest.drop 1 }) (Nat.le_refl _) h
    split at h
    · exact hrepeat (v := { u with rest := u.rest.drop 1 }) (Nat.le_refl _) h
    split at h
    · exact hrepeat (v := { u with rest := u.rest.drop 1 }) (Nat.le_refl _) h
    split at h
    · obtain ⟨c, v, hc, h⟩ := bind_eq_some h
      exact hrepeat (Local.counts.advancing u c v hc).groups h
    · obtain ⟨q, v, hq, h⟩ := bind_eq_some h
      exact ih h ((hu.later (primitive_follows.advancing u q v hq).groups).push
        (.of_nil (primitive_groupless u q v hq)))

theorem content_numbered {inner : Read Part} (hadv : Advancing inner) (hinner : Numbered inner)
    (outer : Flags) : Numbered (content inner outer) := by
  intro s p t h
  obtain ⟨cs, u, hu, h⟩ := bind_eq_some h
  obtain ⟨rfl, rfl⟩ := Prod.mk.inj (Option.some.inj hu)
  obtain ⟨q, v, hq, h⟩ := bind_eq_some h
  have hwithin := body_within hadv hinner hq (.start s)
  obtain ⟨c, w, hw, h⟩ := bind_eq_some h
  have hvw := (Local.peek.advancing v c w hw).groups
  split at h
  · obtain ⟨_, x, hx, h⟩ := bind_eq_some h
    obtain ⟨_, y, hy, h⟩ := bind_eq_some h
    obtain ⟨rfl, rfl⟩ := Prod.mk.inj (Option.some.inj h)
    have hwx := ((Local.drop 1).advancing w _ x hx).groups
    have hxy := ((Local.setFlags outer).advancing x _ y hy).groups
    exact hwithin.mono (Nat.le_refl _) (by omega)
  · exact nomatch h

theorem captured_numbered {inner : Read Part} (hadv : Advancing inner) (hinner : Numbered inner)
    (outer : Flags) {name : Read Unit} (hname : Advancing name) :
    Numbered (captured inner outer name) := by
  intro s p t h
  obtain ⟨i, u, hi, h⟩ := bind_eq_some h
  obtain ⟨rfl, rfl⟩ := Prod.mk.inj (Option.some.inj hi)
  obtain ⟨_, v, hv, h⟩ := bind_eq_some h
  obtain ⟨q, w, hq, h⟩ := bind_eq_some h
  obtain ⟨rfl, rfl⟩ := Prod.mk.inj (Option.some.inj h)
  have huv := (hname _ _ v hv).groups
  have hvw := (advancing_content hadv outer v q w hq).groups
  have hwithin := content_numbered hadv hinner outer v q w hq
  simp only at huv
  intro i hi
  rcases List.mem_cons.mp hi with rfl | hi
  · omega
  · have := hwithin i hi
    omega

theorem flagGroup_numbered {inner : Read Part} (hadv : Advancing inner) (hinner : Numbered inner)
    (outer : Flags) : Numbered (do flagGroup inner outer (← rest)) := by
  intro s p t h
  have h : flagGroup inner outer s.rest s = some (p, t) := h
  obtain ⟨n, f, unset, c, heq, -⟩ := flagGroup_eq_drop h
  rw [heq] at h
  refine Numbered.bind (Local.drop n).advancing (fun _ => ?_) s p t h
  unfold flagged
  split
  · split
    · exact .refuse
    · refine .bind (Local.setFlags f).advancing fun _ => ?_
      intro s p t h
      obtain ⟨rfl, rfl⟩ := Prod.mk.inj (Option.some.inj h)
      exact Part.Within.of_nil rfl
  · refine .bind (Local.setFlags f).advancing fun _ => ?_
    intro s p t h
    obtain ⟨q, u, hq, h⟩ := bind_eq_some h
    obtain ⟨rfl, rfl⟩ := Prod.mk.inj (Option.some.inj h)
    exact content_numbered hadv hinner outer s q u hq

theorem group_numbered (levels : Nat) : Numbered (Reader.group levels) := by
  induction levels with
  | zero => exact .refuse
  | succ levels ih =>
    have hadv := advancing_group levels
    rw [group_succ]
    refine .bind Local.flags.advancing fun outer => .bind (Local.drop 1).advancing fun _ =>
      .bind Local.space.advancing fun _ => .bind (Local.comesNext (by decide)).advancing fun _ => ?_
    extract_lets afterName opening
    have hnamed : ∀ u, Numbered (afterName u) := fun _ =>
      captured_numbered hadv ih outer groupName_local.advancing
    have hopening : ∀ u, Numbered (opening u) := by
      refine fun _ => .bind (Local.comesNext (by decide)).advancing fun named => ?_
      split
      · refine .bind (Local.eat (by decide)).advancing fun _ => ?_
        split
        · exact .bind (Local.drop 2).advancing hnamed
        · exact hnamed ()
      · refine .bind (Local.eat (by decide)).advancing fun _ => ?_
        split
        · exact flagGroup_numbered hadv ih outer
        · exact captured_numbered hadv ih outer (Local.pure ()).advancing
    split
    · exact .bind Local.refuse.advancing hopening
    · exact hopening ()

end Read

end Microtemplate.Regex
