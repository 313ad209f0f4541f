import Microtemplate.Proofs.Regex.Groups
import Microtemplate.Regex.Reader

/-!
Reading an expression that stands in a larger one. A reader that gets through a text gets through
the same text with a closing parenthesis and more after it in the same way, or refuses, since names
and levels may be used up; only the numbers of groups differ. The exception is a text that ends in
a comment: the parenthesis then belongs to the comment, and what has been read goes beyond it.
-/

namespace Microtemplate.Regex

/-- What stands around an expression: the text after the closing parenthesis, and the groups and
the names that come before. -/
structure Extension where
  after : List Char
  groups : Nat
  names : List String

/-- The state in which an expression is read where it stands. -/
def ReadState.extend (s : ReadState) (x : Extension) : ReadState :=
  ⟨s.rest ++ ')' :: x.after, s.flags, x.groups + s.groups, s.names ++ x.names⟩

/-- Readers go forward in the text, and the number of groups grows. -/
structure ReadState.Forward (s t : ReadState) : Prop where
  rest : t.rest.length ≤ s.rest.length
  groups : s.groups ≤ t.groups

theorem ReadState.Forward.refl (s : ReadState) : s.Forward s := ⟨Nat.le_refl _, Nat.le_refl _⟩

theorem ReadState.Forward.trans {s t u : ReadState} (h : s.Forward t) (h' : t.Forward u) :
    s.Forward u :=
  ⟨Nat.le_trans h'.rest h.rest, Nat.le_trans h.groups h'.groups⟩

namespace Read

variable {α β : Type}

/-- The reader goes forward wherever it does not refuse. -/
def Advancing (m : Read α) : Prop := ∀ s a t, m s = some (a, t) → s.Forward t

/-- The second reader does in an extended state what the first one does; results with numbers of
groups are lifted. In an exceptional case the first reader has used up its text, and the second one
goes beyond the closing parenthesis. -/
structure Follows (lift : Nat → α → α) (m : Read α) (m' : Extension → Read α) : Prop where
  advancing : Advancing m
  advancing_extended : ∀ x, Advancing (m' x)
  follows : ∀ s a t, m s = some (a, t) →
    (∀ x, m' x (s.extend x) = none ∨ m' x (s.extend x) = some (lift x.groups a, t.extend x)) ∨
    (t.rest = [] ∧ ∀ x b u, m' x (s.extend x) = some (b, u) → u.rest.length ≤ x.after.length)

/-- A reader that does the same in extended states. -/
abbrev Local (m : Read α) : Prop := Follows (fun _ => id) m fun _ => m

theorem bind_apply (m : Read α) (f : α → Read β) (s : ReadState) :
    (m >>= f) s = (m s).bind fun p => f p.1 p.2 := rfl

theorem bind_eq_some {m : Read α} {f : α → Read β} {s : ReadState} {b : β} {u : ReadState}
    (h : (m >>= f) s = some (b, u)) : ∃ a t, m s = some (a, t) ∧ f a t = some (b, u) := by
  obtain ⟨⟨a, t⟩, hm, hf⟩ := Option.bind_eq_some_iff.mp h
  exact ⟨a, t, hm, hf⟩

theorem Advancing.bind {m : Read α} {f : α → Read β} (hm : Advancing m)
    (hf : ∀ a, Advancing (f a)) : Advancing (m >>= f) := by
  intro s b u h
  obtain ⟨a, t, ha, hb⟩ := bind_eq_some h
  exact (hm s a t ha).trans (hf a t b u hb)

namespace Follows

variable {lift : Nat → α → α} {lift' : Nat → β → β}

/-- Readers one after the other. -/
theorem bind {m : Read α} {m' : Extension → Read α} {f : α → Read β}
    {f' : Extension → α → Read β} (hm : Follows lift m m')
    (hf : ∀ a, Follows lift' (f a) fun x => f' x (lift x.groups a))
    (hadv : ∀ x a, Advancing (f' x a)) :
    Follows lift' (m >>= f) fun x => m' x >>= f' x where
  advancing := hm.advancing.bind fun a => (hf a).advancing
  advancing_extended x := (hm.advancing_extended x).bind (hadv x)
  follows s b u h := by
    obtain ⟨a, t, ha, hb⟩ := bind_eq_some h
    -- what has gone beyond the parenthesis stays beyond it
    have beyond : u.rest = [] → (∀ x b' u', m' x (s.extend x) = some (b', u') →
        u'.rest.length ≤ x.after.length) → u.rest = [] ∧ ∀ x b u',
        (m' x >>= f' x) (s.extend x) = some (b, u') → u'.rest.length ≤ x.after.length := by
      refine fun hu hlost => ⟨hu, fun x b u' hx => ?_⟩
      obtain ⟨a', t', ha', hb'⟩ := bind_eq_some hx
      exact Nat.le_trans (hadv x a' t' b u' hb').rest (hlost x a' t' ha')
    rcases hm.follows s a t ha with hsame | ⟨ht, hlost⟩
    · rcases (hf a).follows t b u hb with hsame' | ⟨hu, hlost'⟩
      · refine Or.inl fun x => ?_
        rcases hsame x with hx | hx
        · exact Or.inl (by rw [bind_apply, hx]; rfl)
        · rw [bind_apply, hx]
          exact hsame' x
      · refine Or.inr ⟨hu, fun x b' u' hx => ?_⟩
        rcases hsame x with hnone | hsome
        · rw [bind_apply, hnone] at hx
          simp at hx
        · rw [bind_apply, hsome] at hx
          exact hlost' x b' u' hx
    · have hu : u.rest = [] := by
        have hle := ((hf a).advancing t b u hb).rest
        rw [ht] at hle
        exact List.eq_nil_of_length_eq_zero (Nat.le_zero.mp hle)
      exact Or.inr (beyond hu hlost)

/-- Readers that take the text that is left, and others after them. -/
theorem bindRest {m : List Char → Read α} {m' : Extension → List Char → Read α} {f : α → Read β}
    {f' : Extension → α → Read β} (hm : Follows lift (do m (← rest)) (fun x => do m' x (← rest)))
    (hf : ∀ a, Follows lift' (f a) fun x => f' x (lift x.groups a))
    (hadv : ∀ x a, Advancing (f' x a)) :
    Follows lift' (do let a ← m (← rest); f a) (fun x => do let a ← m' x (← rest); f' x a) :=
  hm.bind hf hadv

/-- Where the second reader refuses, it need not follow. -/
theorem orRefuse {m : Read α} {m' m'' : Extension → Read α} (h : Follows lift m m')
    (hm : ∀ x, m'' x = m' x ∨ m'' x = Read.refuse) : Follows lift m m'' where
  advancing := h.advancing
  advancing_extended x := by
    rcases hm x with hx | hx
    · exact hx ▸ h.advancing_extended x
    · rw [hx]
      exact fun _ _ _ hs => nomatch hs
  follows s a t hs := by
    rcases h.follows s a t hs with hsame | ⟨ht, hlost⟩
    · refine Or.inl fun x => ?_
      rcases hm x with hx | hx
      · exact hx ▸ hsame x
      · exact Or.inl (by rw [hx]; rfl)
    · refine Or.inr ⟨ht, fun x b u hu => ?_⟩
      rcases hm x with hx | hx
      · exact hlost x b u (hx ▸ hu)
      · rw [hx] at hu
        exact nomatch hu

/-- A reader that refuses is followed by all. -/
theorem ofRefuse {m : Extension → Read α} (hm : ∀ x, Advancing (m x)) :
    Follows lift Read.refuse m :=
  ⟨fun _ _ _ h => (nomatch h), hm, fun _ _ _ h => nomatch h⟩

/-- Readers whose bounds depend on the text that is left. -/
theorem onRest {m : List Char → Read α} {m' : Extension → List Char → Read α}
    (h : ∀ cs (cs' : Extension → List Char), Follows lift (m cs) fun x => m' x (cs' x)) :
    Follows lift (do m (← rest)) (fun x => do m' x (← rest)) where
  advancing s a t hs := (h s.rest fun _ => s.rest).advancing s a t hs
  advancing_extended x s a t hs := (h s.rest fun _ => s.rest).advancing_extended x s a t hs
  follows s a t hs := (h s.rest fun x => (s.extend x).rest).follows s a t hs

end Follows

theorem isBlank_rightParen : Unicode.isBlank ')' = false := by decide +kernel

theorem length_skipVerbose_le (inComment : Bool) (cs : List Char) :
    (skipVerbose inComment cs).length ≤ cs.length := by
  induction cs generalizing inComment with
  | nil => simp [skipVerbose]
  | cons c cs ih =>
    have hfalse := ih false
    have htrue := ih true
    cases inComment <;> simp only [skipVerbose] <;> split <;> (try split) <;>
      simp only [List.length_cons] <;> omega

namespace Local

theorem bind {m : Read α} {f : α → Read β} (hm : Local m) (hf : ∀ a, Local (f a)) :
    Local (m >>= f) :=
  Follows.bind hm hf fun _ a => (hf a).advancing

/-- A local reader, and readers that follow each other after it. -/
theorem bindFollows {lift : Nat → β → β} {m : Read α} {f : α → Read β}
    {f' : Extension → α → Read β} (hm : Local m)
    (hf : ∀ a, Follows lift (f a) fun x => f' x a) :
    Follows lift (m >>= f) fun x => m >>= f' x :=
  Follows.bind hm hf fun x a => (hf a).advancing_extended x

/-- A reader that takes the text that is left, and others after it. -/
theorem bindRest {m : List Char → Read α} {f : α → Read β} (hm : Local (do m (← rest)))
    (hf : ∀ a, Local (f a)) : Local (do let a ← m (← rest); f a) :=
  hm.bind hf

theorem pure (a : α) : Local (Pure.pure a) where
  advancing := by
    intro s b t h
    obtain ⟨-, rfl⟩ := Prod.mk.inj (Option.some.inj h)
    exact .refl _
  advancing_extended _ := by
    intro s b t h
    obtain ⟨-, rfl⟩ := Prod.mk.inj (Option.some.inj h)
    exact .refl _
  follows s b t h := by
    obtain ⟨rfl, rfl⟩ := Prod.mk.inj (Option.some.inj h)
    exact Or.inl fun x => Or.inr rfl

theorem refuse : Local (Read.refuse : Read α) where
  advancing _ _ _ h := nomatch h
  advancing_extended _ _ _ _ h := nomatch h
  follows _ _ _ h := nomatch h

theorem ite {p : Prop} [Decidable p] {m n : Read α} (hm : Local m) (hn : Local n) :
    Local (if p then m else n) := by
  split
  · exact hm
  · exact hn

/-- A reader that changes the text that is left, and never makes it longer. -/
theorem modifyRest {g : List Char → List Char} (hle : ∀ cs, (g cs).length ≤ cs.length)
    (h : ∀ cs, (∀ after, g (cs ++ ')' :: after) = g cs ++ ')' :: after) ∨
      (g cs = [] ∧ ∀ after, (g (cs ++ ')' :: after)).length ≤ after.length)) :
    Local (do setRest (g (← rest))) := by
  have hadv : Advancing (do setRest (g (← rest))) := by
    intro s a t hs
    obtain ⟨-, rfl⟩ := Prod.mk.inj (Option.some.inj hs)
    exact ⟨hle s.rest, Nat.le_refl _⟩
  refine ⟨hadv, fun _ => hadv, fun s a t hs => ?_⟩
  obtain ⟨-, rfl⟩ := Prod.mk.inj (Option.some.inj hs)
  rcases h s.rest with hsame | ⟨hnil, hlost⟩
  · refine Or.inl fun x => Or.inr ?_
    exact congrArg (fun cs => some ((), (⟨cs, s.flags, x.groups + s.groups, s.names ++ x.names⟩ :
      ReadState))) (hsame x.after)
  · refine Or.inr ⟨hnil, fun x b u hx => ?_⟩
    obtain ⟨-, rfl⟩ := Prod.mk.inj (Option.some.inj hx)
    exact hlost x.after

/-- A reader that looks at the next character and changes nothing. -/
theorem peek : Local Read.peek := by
  have hadv : Advancing Read.peek := by
    intro s a t h
    obtain ⟨cs, flags, groups, names⟩ := s
    cases cs with
    | nil => exact nomatch h
    | cons c cs =>
      obtain ⟨-, rfl⟩ := Prod.mk.inj (Option.some.inj h)
      exact .refl _
  refine ⟨hadv, fun _ => hadv, fun s a t h => Or.inl fun x => Or.inr ?_⟩
  obtain ⟨cs, flags, groups, names⟩ := s
  cases cs with
  | nil => exact nomatch h
  | cons c cs =>
    obtain ⟨rfl, rfl⟩ := Prod.mk.inj (Option.some.inj h)
    rfl

theorem flags : Local Read.flags := by
  have hadv : Advancing Read.flags := by
    intro s a t h
    obtain ⟨-, rfl⟩ := Prod.mk.inj (Option.some.inj h)
    exact .refl _
  refine ⟨hadv, fun _ => hadv, fun s a t h => Or.inl fun x => Or.inr ?_⟩
  obtain ⟨rfl, rfl⟩ := Prod.mk.inj (Option.some.inj h)
  rfl

theorem setFlags (f : Flags) : Local (Read.setFlags f) := by
  have hadv : Advancing (Read.setFlags f) := by
    intro s a t h
    obtain ⟨-, rfl⟩ := Prod.mk.inj (Option.some.inj h)
    exact ⟨Nat.le_refl _, Nat.le_refl _⟩
  refine ⟨hadv, fun _ => hadv, fun s a t h => Or.inl fun x => Or.inr ?_⟩
  obtain ⟨rfl, rfl⟩ := Prod.mk.inj (Option.some.inj h)
  rfl

theorem drop (n : Nat) : Local (Read.drop n) := by
  refine modifyRest (g := (·.drop n)) (fun cs => by simp) fun cs => ?_
  rcases Nat.lt_or_ge cs.length n with h | h
  · refine Or.inr ⟨List.drop_of_length_le (by omega), fun after => ?_⟩
    simp only [List.length_drop, List.length_append, List.length_cons]
    omega
  · exact Or.inl fun after => List.drop_append_of_le_length h

theorem skipVerbose_append (inComment : Bool) (cs : List Char) :
    (∀ after, skipVerbose inComment (cs ++ ')' :: after) =
      skipVerbose inComment cs ++ ')' :: after) ∨
    (skipVerbose inComment cs = [] ∧
      ∀ after, (skipVerbose inComment (cs ++ ')' :: after)).length ≤ after.length) := by
  induction cs generalizing inComment with
  | nil =>
    cases inComment with
    | true => exact Or.inr ⟨rfl, fun after => length_skipVerbose_le true after⟩
    | false => exact Or.inl fun after => by simp [skipVerbose, isBlank_rightParen]
  | cons c cs ih =>
    cases inComment with
    | true =>
      simp only [List.cons_append, skipVerbose]
      split
      · exact ih false
      · exact ih true
    | false =>
      simp only [List.cons_append, skipVerbose]
      split
      · exact ih false
      · split
        · exact ih true
        · exact Or.inl fun after => rfl

theorem space : Local Read.space :=
  flags.bind fun _ => ite (modifyRest (length_skipVerbose_le false) (skipVerbose_append false))
    (pure ())

theorem step : Local Read.step := (drop 1).bind fun _ => space

/-- A reader that does in each state that it gets through, and where that is extended, what some
local reader does. -/
theorem of_agrees {m : Read α} (h : ∀ s a t, m s = some (a, t) →
    ∃ n, Local n ∧ m s = n s ∧ ∀ x, m (s.extend x) = n (s.extend x)) : Local m := by
  have hadv : Advancing m := by
    intro s a t hs
    obtain ⟨n, hn, heq, -⟩ := h s a t hs
    exact hn.advancing s a t (heq ▸ hs)
  refine ⟨hadv, fun _ => hadv, fun s a t hs => ?_⟩
  obtain ⟨n, hn, heq, hx⟩ := h s a t hs
  simp only [hx]
  exact hn.follows s a t (heq ▸ hs)

/-- A text without a closing parenthesis comes next or does not, whatever is added. -/
theorem isPrefixOf_append {t : List Char} (ht : ')' ∉ t) (cs after : List Char) :
    t.isPrefixOf (cs ++ ')' :: after) = t.isPrefixOf cs := by
  induction t generalizing cs with
  | nil => simp
  | cons c t ih =>
    obtain ⟨hc, ht⟩ := not_or.mp (fun h => ht (List.mem_cons.mpr h))
    cases cs with
    | nil => simp [List.isPrefixOf, beq_false_of_ne (Ne.symm hc)]
    | cons d cs => simp only [List.cons_append, List.isPrefixOf, ih ht]

theorem comesNext {texts : List String} (h : ∀ t ∈ texts, ')' ∉ t.toList) :
    Local (Reader.comesNext texts) := by
  refine of_agrees fun s _ _ _ => ⟨_, pure (texts.any fun t => t.toList.isPrefixOf s.rest), rfl, ?_⟩
  intro x
  have hany : (texts.any fun t => t.toList.isPrefixOf (s.extend x).rest) =
      texts.any fun t => t.toList.isPrefixOf s.rest := by
    rw [Bool.eq_iff_iff, List.any_eq_true, List.any_eq_true]
    exact exists_congr fun t => and_congr_right fun ht => by
      rw [ReadState.extend, isPrefixOf_append (h t ht)]
  exact congrArg (fun b => some (b, s.extend x)) hany

theorem eat {t : String} (ht : ')' ∉ t.toList) : Local (Read.eat t) := by
  let n (found : Bool) : Read Bool := if found then (do Read.drop t.length; return true) else
    return false
  have hrun : ∀ s, Read.eat t s = n (t.toList.isPrefixOf s.rest) s := fun s => rfl
  refine of_agrees fun s _ _ _ => ⟨n (t.toList.isPrefixOf s.rest), ?_, hrun s, fun x => ?_⟩
  · exact ite ((drop _).bind fun _ => pure _) (pure _)
  · rw [hrun]
    exact congrArg (fun b => n b (s.extend x)) (isPrefixOf_append ht s.rest x.after)

theorem dropBlanks : Local (do setRest ((← rest).dropWhile Unicode.isBlank)) := by
  refine modifyRest (g := (·.dropWhile Unicode.isBlank))
    (fun cs => (List.dropWhile_sublist _).length_le) fun cs => Or.inl fun after => ?_
  induction cs with
  | nil => simp [isBlank_rightParen]
  | cons c cs ih =>
    simp only [List.cons_append, List.dropWhile_cons, ih]
    split <;> rfl

theorem length_step_lt {s t : ReadState} (hs : s.rest ≠ [])
    (h : Read.step s = some ((), t)) : t.rest.length < s.rest.length := by
  have h : Read.space { s with rest := s.rest.drop 1 } = some ((), t) := h
  have hle : t.rest.length ≤ (s.rest.drop 1).length := (space.advancing _ _ _ h).rest
  have hpos := List.length_pos_iff.mpr hs
  simp only [List.length_drop] at hle
  omega

/-- Collecting never refuses. -/
theorem advancing_collect (keep : Char → Bool) (n : Nat) : Advancing (collect keep n) := by
  induction n with
  | zero => exact (pure []).advancing
  | succ n ih =>
    intro s a t h
    obtain ⟨cs, u, hu, h⟩ := bind_eq_some h
    obtain ⟨rfl, rfl⟩ := Prod.mk.inj (Option.some.inj hu)
    cases hrest : s.rest with
    | nil =>
      rw [hrest] at h
      exact (pure []).advancing s a t h
    | cons c cs =>
      simp only [hrest] at h
      split at h
      · exact step.advancing.bind (fun _ => ih.bind fun _ => (pure _).advancing) s a t h
      · exact (pure []).advancing s a t h

/-- Collecting with a positive bound, given the text that is left. -/
def collectFrom (keep : Char → Bool) (n : Nat) : List Char → Read (List Char)
  | c :: _ =>
    if keep c then do
      Read.step
      let more ← collect keep n
      return c :: more
    else return []
  | [] => return []

theorem collect_succ_apply (keep : Char → Bool) (n : Nat) (s : ReadState) :
    collect keep (n + 1) s = collectFrom keep n s.rest s := rfl

theorem collect_cons (keep : Char → Bool) (n : Nat) {s : ReadState} {c : Char} {cs : List Char}
    (h : s.rest = c :: cs) : collect keep (n + 1) s =
      if keep c then (do Read.step; let more ← collect keep n; return c :: more : Read _) s
      else some ([], s) := by
  rw [collect_succ_apply, h, collectFrom]
  by_cases hk : keep c = true
  · simp only [if_pos hk]
  · simp only [if_neg hk]
    rfl

theorem collect_nil (keep : Char → Bool) (n : Nat) {s : ReadState} (h : s.rest = []) :
    collect keep n s = some ([], s) := by
  cases n with
  | zero => rfl
  | succ n =>
    rw [collect_succ_apply, h]
    rfl

theorem length_extend (s : ReadState) (x : Extension) :
    (s.extend x).rest.length = s.rest.length + x.after.length + 1 := by
  simp only [ReadState.extend, List.length_append, List.length_cons]
  omega

theorem advancing_collect_cons (keep : Char → Bool) (c : Char) (n : Nat) :
    Advancing (do let more ← collect keep n; return c :: more) :=
  (advancing_collect keep n).bind fun _ => (pure _).advancing

/-- What collecting with a bound large enough for the text does in extended states. -/
def CollectsAlike (keep : Char → Bool) (s : ReadState) (a : List Char) (t : ReadState) : Prop :=
  (∀ x k, (s.extend x).rest.length ≤ k →
    collect keep k (s.extend x) = none ∨ collect keep k (s.extend x) = some (a, t.extend x)) ∨
  (t.rest = [] ∧ ∀ x k b u, (s.extend x).rest.length ≤ k →
    collect keep k (s.extend x) = some (b, u) → u.rest.length ≤ x.after.length)

/-- An extended text is not empty. -/
theorem exists_bound_eq_succ {s : ReadState} {x : Extension} {k : Nat}
    (h : (s.extend x).rest.length ≤ k) : ∃ m, k = m + 1 := by
  rw [length_extend] at h
  exact ⟨k - 1, by omega⟩

theorem collectsAlike_nil (keep : Char → Bool) {s : ReadState} (hs : s.rest = []) :
    CollectsAlike keep s [] s := by
  have hx : ∀ x, (s.extend x).rest = ')' :: x.after := fun x => by
    rw [ReadState.extend, hs, List.nil_append]
  by_cases hk : keep ')' = true
  · refine Or.inr ⟨hs, fun x k b u hle hu => ?_⟩
    obtain ⟨k, rfl⟩ := exists_bound_eq_succ hle
    rw [collect_cons keep k (hx x), if_pos hk] at hu
    obtain ⟨_, v, hv, hu⟩ := bind_eq_some hu
    have hlt := length_step_lt (by simp [hx]) hv
    have hle := (advancing_collect_cons _ _ _ _ _ _ hu).rest
    rw [hx, List.length_cons] at hlt
    omega
  · refine Or.inl fun x k hle => Or.inr ?_
    obtain ⟨k, rfl⟩ := exists_bound_eq_succ hle
    rw [collect_cons keep k (hx x), if_neg hk]

section Kept

variable {keep : Char → Bool} {c : Char} {cs more : List Char} {s t v : ReadState}
  (hrest : s.rest = c :: cs)

include hrest

theorem rest_extend_of_cons (x : Extension) : (s.extend x).rest = c :: (cs ++ ')' :: x.after) := by
  rw [ReadState.extend, hrest, List.cons_append]

/-- A character that is not kept ends the collecting. -/
theorem collectsAlike_stop (hk : keep c ≠ true) : CollectsAlike keep s [] s := by
  refine Or.inl fun x k hle => Or.inr ?_
  obtain ⟨k, rfl⟩ := exists_bound_eq_succ hle
  rw [collect_cons keep k (rest_extend_of_cons hrest x), if_neg hk]

/-- A character that is kept is gone over in the extended text as well. -/
theorem collectsAlike_cons (hk : keep c = true) (hlt : v.rest.length < s.rest.length)
    (hsame : ∀ x, Read.step (s.extend x) = none ∨ Read.step (s.extend x) = some ((), v.extend x))
    (h : CollectsAlike keep v more t) : CollectsAlike keep s (c :: more) t := by
  have hle : ∀ {x k}, (s.extend x).rest.length ≤ k + 1 → (v.extend x).rest.length ≤ k := by
    intro x k hle
    rw [length_extend] at hle ⊢
    omega
  rcases h with hfollow | ⟨ht, hlost⟩
  · refine Or.inl fun x k hle' => ?_
    obtain ⟨k, rfl⟩ := exists_bound_eq_succ hle'
    rw [collect_cons keep k (rest_extend_of_cons hrest x), if_pos hk, bind_apply]
    rcases hsame x with hnone | hsome
    · exact Or.inl (by rw [hnone]; rfl)
    · rw [hsome, Option.bind_some, bind_apply]
      rcases hfollow x k (hle hle') with hnone | hsome
      · exact Or.inl (by rw [hnone]; rfl)
      · exact Or.inr (by rw [hsome]; rfl)
  · refine Or.inr ⟨ht, fun x k b w hle' hw => ?_⟩
    obtain ⟨k, rfl⟩ := exists_bound_eq_succ hle'
    rw [collect_cons keep k (rest_extend_of_cons hrest x), if_pos hk, bind_apply] at hw
    rcases hsame x with hnone | hsome
    · rw [hnone] at hw
      exact nomatch hw
    · rw [hsome] at hw
      obtain ⟨more', w', hmore', hw⟩ := bind_eq_some hw
      obtain ⟨-, rfl⟩ := Prod.mk.inj (Option.some.inj hw)
      exact hlost x k more' w' (hle hle') hmore'

/-- A character that is kept, after which the extended text is not read in the same way. -/
theorem collectsAlike_lost (hk : keep c = true) (ht : t.rest = [])
    (hlost : ∀ x a u, Read.step (s.extend x) = some (a, u) → u.rest.length ≤ x.after.length) :
    CollectsAlike keep s (c :: more) t := by
  refine Or.inr ⟨ht, fun x k b w hle hw => ?_⟩
  obtain ⟨k, rfl⟩ := exists_bound_eq_succ hle
  rw [collect_cons keep k (rest_extend_of_cons hrest x), if_pos hk] at hw
  obtain ⟨_, v', hv', hw⟩ := bind_eq_some hw
  exact Nat.le_trans (advancing_collect_cons _ _ _ _ _ _ hw).rest (hlost x () v' hv')

end Kept

theorem collect_follows (keep : Char → Bool) (n : Nat) (s : ReadState) (a : List Char)
    (t : ReadState) (hn : s.rest.length ≤ n) (h : collect keep n s = some (a, t)) :
    CollectsAlike keep s a t := by
  induction n generalizing s a t with
  | zero =>
    have hs : s.rest = [] := List.eq_nil_of_length_eq_zero (Nat.le_zero.mp hn)
    obtain ⟨rfl, rfl⟩ := Prod.mk.inj (Option.some.inj h)
    exact collectsAlike_nil keep hs
  | succ n ih =>
    cases hrest : s.rest with
    | nil =>
      rw [collect_nil keep _ hrest] at h
      obtain ⟨rfl, rfl⟩ := Prod.mk.inj (Option.some.inj h)
      exact collectsAlike_nil keep hrest
    | cons c cs =>
      rw [collect_cons keep n hrest] at h
      by_cases hk : keep c = true
      · rw [if_pos hk] at h
        obtain ⟨_, v, hv, h⟩ := bind_eq_some h
        obtain ⟨more, u, hmore, hu⟩ := bind_eq_some h
        obtain ⟨rfl, rfl⟩ := Prod.mk.inj (Option.some.inj hu)
        have hlt := length_step_lt (by simp [hrest]) hv
        rcases step.follows s () v hv with hsame | ⟨hnil, hlost⟩
        · exact collectsAlike_cons hrest hk hlt hsame (ih v more u (by omega) hmore)
        · have hle := (advancing_collect keep n v more u hmore).rest
          rw [hnil] at hle
          exact collectsAlike_lost hrest hk (List.eq_nil_of_length_eq_zero (Nat.le_zero.mp hle)) hlost
      · rw [if_neg hk] at h
        obtain ⟨rfl, rfl⟩ := Prod.mk.inj (Option.some.inj h)
        exact collectsAlike_stop hrest hk

/-- Characters are collected up to the first one that is not kept, or up to the end. -/
theorem collectAll (keep : Char → Bool) : Local (do collect keep (← rest).length) where
  advancing s a t hs := advancing_collect keep s.rest.length s a t hs
  advancing_extended _ s a t hs := advancing_collect keep s.rest.length s a t hs
  follows s a t hs := by
    rcases collect_follows keep s.rest.length s a t (Nat.le_refl _) hs with h | ⟨ht, h⟩
    · exact Or.inl fun x => h x _ (Nat.le_refl _)
    · exact Or.inr ⟨ht, fun x b u => h x _ b u (Nat.le_refl _)⟩

theorem braced : Local Read.braced :=
  step.bind fun _ => (collectAll _).bindRest fun _ => peek.bind fun _ => ite (pure _) refuse

theorem count : Local Read.count :=
  dropBlanks.bindRest fun _ => (collectAll _).bindRest fun _ => dropBlanks.bindRest fun _ =>
    space.bind fun _ => ite refuse (pure _)

theorem charOfHex (ds : List Char) : Local (Read.charOfHex ds) :=
  ite refuse (ite (pure _) refuse)

theorem hexDigits (n : Nat) : Local (Read.hexDigits n) := by
  induction n with
  | zero => exact pure []
  | succ n ih => exact peek.bind fun _ => step.bind fun _ => ih.bind fun _ => pure _

theorem hexEscape (kind : Char) : Local (Read.hexEscape kind) :=
  step.bind fun _ => peek.bind fun _ =>
    ite (braced.bind fun _ => step.bind fun _ => (charOfHex _).bind fun _ => pure _)
      ((hexDigits _).bind fun _ => (charOfHex _).bind fun _ => pure _)

theorem property (negated : Bool) : Local (Read.property negated) := by
  unfold Read.property
  refine flags.bind fun f => step.bind fun _ => peek.bind fun _ => ?_
  extract_lets named
  have hnamed : ∀ name, Local (named name) := by
    intro name
    simp only [named]
    split
    · exact ite (pure _) refuse
    · exact refuse
  refine ite (braced.bind fun _ => (drop 1).bind fun _ => (pure _).bind hnamed) ?_
  refine peek.bind fun c => ?_
  extract_lets single
  have hsingle : ∀ u, Local (single u) := fun _ => step.bind fun _ => (pure _).bind hnamed
  exact ite (refuse.bind hsingle) (hsingle ())

theorem peek_eq_some {s t : ReadState} {c : Char} (h : Read.peek s = some (c, t)) :
    t = s ∧ ∃ cs, s.rest = c :: cs := by
  obtain ⟨cs, flags, groups, names⟩ := s
  cases cs with
  | nil => exact nomatch h
  | cons d cs =>
    obtain ⟨rfl, rfl⟩ := Prod.mk.inj (Option.some.inj h)
    exact ⟨rfl, cs, rfl⟩

/-- The character after the next one, with the space between them. -/
def stepPeek : Read Char := do
  Read.step
  Read.peek

theorem stepPeek_follows {s t : ReadState} {c : Char} (h : stepPeek s = some (c, t)) (x : Extension) :
    stepPeek (s.extend x) = none ∨ stepPeek (s.extend x) = some (c, t.extend x) := by
  have hlocal : Local stepPeek := step.bind fun _ => peek
  rcases hlocal.follows s c t h with hsame | ⟨hnil, -⟩
  · exact hsame x
  · obtain ⟨_, u, _, hu⟩ := bind_eq_some h
    obtain ⟨rfl, cs, hcs⟩ := peek_eq_some hu
    rw [hnil] at hcs
    exact nomatch hcs

/-- The rest of a condition on words after an opening brace and one more character. -/
def boundaryName : Read WordCondition := do
  let name ← collect (fun c => c.isAlpha || c = '-') (← rest).length
  if (← Read.peek) = '\x7d' then Read.drop 1 else Read.refuse
  match String.ofList name with
  | "start" => return .start
  | "end" => return .stop
  | "start-half" => return .startHalf
  | "end-half" => return .stopHalf
  | _ => Read.refuse

theorem boundaryName_local : Local boundaryName := by
  refine (collectAll _).bindRest fun name => peek.bind fun c => ?_
  extract_lets jp
  have hjp : ∀ u, Local (jp u) := by
    intro u
    simp only [jp]
    split
    · exact pure _
    · exact pure _
    · exact pure _
    · exact pure _
    · exact refuse
  exact ite ((drop 1).bind hjp) (refuse.bind hjp)

/-- A condition on words after its letter, given the state there and the text that is left. -/
def boundaryFrom (s : ReadState) : List Char → Read WordCondition
  | '\x7b' :: _ => do
    Read.step
    let c ← Read.peek
    if c.isAlpha || c = '-' then boundaryName else do
      set s
      return .boundary
  | _ => return .boundary

theorem wordBoundary_apply (s : ReadState) : Read.wordBoundary s = boundaryFrom s s.rest s := rfl

theorem wordBoundary_brace {s : ReadState} {cs : List Char} (hs : s.rest = '\x7b' :: cs) :
    Read.wordBoundary s = (stepPeek s).bind fun p =>
      if p.1.isAlpha || p.1 = '-' then boundaryName p.2 else some (.boundary, s) := by
  rw [wordBoundary_apply, hs]
  simp only [boundaryFrom, stepPeek, bind_apply, Option.bind_assoc]
  refine congrArg (Option.bind _) (funext fun p => congrArg (Option.bind _) (funext fun q => ?_))
  split <;> rfl

theorem wordBoundary_other {s : ReadState} (hs : ∀ cs, s.rest ≠ '\x7b' :: cs) :
    Read.wordBoundary s = some (.boundary, s) := by
  have hfrom : boundaryFrom s s.rest = return .boundary := by
    unfold boundaryFrom
    split
    · rename_i cs heq
      exact absurd heq (hs cs)
    · rfl
  rw [wordBoundary_apply, hfrom]
  rfl

theorem advancing_wordBoundary : Advancing Read.wordBoundary := by
  intro s a t h
  by_cases hs : ∃ cs, s.rest = '\x7b' :: cs
  · obtain ⟨cs, hs⟩ := hs
    rw [wordBoundary_brace hs] at h
    obtain ⟨⟨c, u⟩, hu, h⟩ := Option.bind_eq_some_iff.mp h
    split at h
    · exact ((step.bind fun _ => peek).advancing s c u hu).trans
        (boundaryName_local.advancing u a t h)
    · obtain ⟨-, rfl⟩ := Prod.mk.inj (Option.some.inj h)
      exact .refl _
  · rw [wordBoundary_other (not_exists.mp hs)] at h
    obtain ⟨-, rfl⟩ := Prod.mk.inj (Option.some.inj h)
    exact .refl _

/-- Where a brace follows, the character after it decides, wherever the expression stands. -/
theorem wordBoundary_extend {s u : ReadState} {c : Char} {cs : List Char}
    (hs : s.rest = '\x7b' :: cs) (hu : stepPeek s = some (c, u)) (x : Extension) :
    Read.wordBoundary (s.extend x) = none ∨
      Read.wordBoundary (s.extend x) = if c.isAlpha || c = '-' then boundaryName (u.extend x)
        else some (.boundary, s.extend x) := by
  have hx : (s.extend x).rest = '\x7b' :: (cs ++ ')' :: x.after) := by
    rw [ReadState.extend, hs, List.cons_append]
  rw [wordBoundary_brace hx]
  rcases stepPeek_follows hu x with hnone | hsome
  · exact Or.inl (by rw [hnone]; rfl)
  · exact Or.inr (by rw [hsome]; rfl)

theorem wordBoundary : Local Read.wordBoundary := by
  refine ⟨advancing_wordBoundary, fun _ => advancing_wordBoundary, fun s a t h => ?_⟩
  cases hrest : s.rest with
  | nil =>
    rw [wordBoundary_other (by simp [hrest])] at h
    obtain ⟨rfl, rfl⟩ := Prod.mk.inj (Option.some.inj h)
    exact Or.inl fun x => Or.inr (wordBoundary_other (by simp [ReadState.extend, hrest]))
  | cons d cs =>
    by_cases hd : d = '\x7b'
    · subst hd
      rw [wordBoundary_brace hrest] at h
      obtain ⟨⟨c, u⟩, hu, h⟩ := Option.bind_eq_some_iff.mp h
      have hrun := wordBoundary_extend hrest hu
      by_cases hname : (c.isAlpha || c = '-') = true
      · simp only [hname, if_true] at h hrun
        rcases boundaryName_local.follows u a t h with hfollow | ⟨ht, hlost⟩
        · refine Or.inl fun x => ?_
          rcases hrun x with hnone | hsome
          · exact Or.inl hnone
          · rw [hsome]
            exact hfollow x
        · refine Or.inr ⟨ht, fun x b v hv => ?_⟩
          rcases hrun x with hnone | hsome
          · rw [hnone] at hv
            exact nomatch hv
          · exact hlost x b v (hsome ▸ hv)
      · simp only [hname] at h hrun
        obtain ⟨rfl, rfl⟩ := Prod.mk.inj (Option.some.inj h)
        exact Or.inl hrun
    · have hne : ∀ after, ∀ cs', d :: after ≠ '\x7b' :: cs' := fun after cs' heq =>
        hd (List.cons.inj heq).1
      rw [wordBoundary_other (by rw [hrest]; exact hne cs)] at h
      obtain ⟨rfl, rfl⟩ := Prod.mk.inj (Option.some.inj h)
      refine Or.inl fun x => Or.inr (wordBoundary_other ?_)
      rw [ReadState.extend, hrest]
      exact hne _

theorem escape : Local Read.escape := by
  unfold Read.escape
  refine flags.bind fun f => (drop 1).bind fun _ => peek.bind fun c => ite ?_ (ite ?_ ?_)
  · refine (hexEscape c).bind fun p => ?_
    split
    extract_lets jp
    have hjp : ∀ u, Local (jp u) := fun u => pure _
    exact ite (refuse.bind hjp) (hjp ())
  · exact (property _).bind fun _ => pure _
  · refine (drop 1).bind fun _ => ite (pure _) (ite (pure _) ?_)
    split
    · exact pure _
    · split
      · exact pure _
      · exact pure _
      · exact wordBoundary.bind fun _ => pure _
      · exact pure _
      · exact pure _
      · exact pure _
      · exact refuse

end Local

end Read

end Microtemplate.Regex
