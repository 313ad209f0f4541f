import Microtemplate.Proofs.Script.Cutting
import Microtemplate.Proofs.Script.SeparatedItems

/-!
Readers of a text that goes on. What a reader takes from the tokens of a text it takes from the
longer text as well, and it comes to stand at the same place there, if the token after the text goes
on with no expression. A reader may stop at the end of the text only where it would stop before that
token; inside a function no statement ends at the end of the text, since a brace is still to come.
-/

namespace Microtemplate.Script

/-- The tokens that go on with no expression and no statement. -/
def Token.Separate (t : Token) : Prop :=
  t = .punctuator .rightParen ∨ ∃ name, t = .identifier name ∧ name ≠ "of"

namespace Parse

variable {α β : Type}

theorem bind_eq_ok {p : Parse α} {f : α → Parse β} {s w : Tokens} {b : β} :
    (p >>= f) s = .ok (b, w) ↔ ∃ a u, p s = .ok (a, u) ∧ f a u = .ok (b, w) := by
  change Except.bind (p s) (fun r => f r.1 r.2) = .ok (b, w) ↔ _
  cases hp : p s with
  | error e =>
    constructor
    · intro h
      cases h
    · rintro ⟨_, _, h, -⟩
      cases h
  | ok r =>
    obtain ⟨a, u⟩ := r
    constructor
    · intro h
      exact ⟨a, u, rfl, h⟩
    · rintro ⟨_, _, ⟨⟩, h⟩
      exact h

/-- A reader takes from a text what another one takes from the longer text that goes on with `t`.
Only texts with fewer than `n` tokens are looked at, and `atEnd` says whether the readers may stop
where the text ends. -/
structure Follows (t : Tokens) (atEnd : Prop) (n : Nat) (p p' : Parse α) : Prop where
  moves : ∀ (s : Tokens) a u, s.Ended → p s = .ok (a, u) → u.Ended ∧ u.left ≤ s.left
  same : ∀ s s' a u, Tokens.Same t s s' → s.left < n → p s = .ok (a, u) → atEnd ∨ u.left ≠ 0 →
    ∃ u', p' s' = .ok (a, u') ∧ Tokens.Same t u u'

/-- The same of readers that stand before a token and go over it. They do not ask whether a line
ends before it. -/
structure Steps (t : Tokens) (atEnd : Prop) (n : Nat) (p p' : Parse α) : Prop where
  moves : ∀ (l : Located) (s : Tokens) a u, l.token ≠ .endOfInput → s.Ended → p (s.push l) = .ok (a, u) →
    u.Ended ∧ u.left ≤ s.left
  same : ∀ (l l' : Located) (s s' : Tokens) a u, l'.token = l.token → l.token ≠ .endOfInput → Tokens.Same t s s' →
    s.left + 1 < n → p (s.push l) = .ok (a, u) → atEnd ∨ u.left ≠ 0 →
    ∃ u', p' (s'.push l') = .ok (a, u') ∧ Tokens.Same t u u'

/-- The same of readers that refuse the end of a text. -/
structure Leads (t : Tokens) (atEnd : Prop) (n : Nat) (p p' : Parse α) : Prop
    extends Steps t atEnd n p p' where
  refuses : ∀ r, p .finished ≠ .ok r

variable {t : Tokens} {atEnd : Prop} {n : Nat} {p p' : Parse α} {f f' : α → Parse β}

theorem Leads.consumes (h : Leads t atEnd n p p') {s u : Tokens} {a : α} (hs : s.Ended)
    (hp : p s = .ok (a, u)) : u.Ended ∧ u.left < s.left := by
  cases hs with
  | finished => exact absurd hp (h.refuses _)
  | push hend hs =>
    obtain ⟨hu, hle⟩ := h.moves _ _ a u hend hs hp
    exact ⟨hu, Nat.lt_succ_of_le hle⟩

theorem Leads.left_ne_zero (h : Leads t atEnd n p p') {s u : Tokens} {a : α} (hs : s.Ended)
    (hp : p s = .ok (a, u)) : s.left ≠ 0 :=
  Nat.ne_zero_of_lt (h.consumes hs hp).2

theorem Leads.follows (h : Leads t atEnd n p p') : Follows t atEnd n p p' where
  moves s a u hs hp := by
    obtain ⟨hu, hlt⟩ := h.consumes hs hp
    exact ⟨hu, Nat.le_of_lt hlt⟩
  same s s' a u hsame hn hp hstop := by
    cases hsame with
    | stop => exact absurd hp (h.refuses _)
    | step htoken hline hend hrest => exact h.same _ _ _ _ a u htoken hend hrest hn hp hstop

theorem Follows.mono {m : Nat} (h : Follows t atEnd n p p') (hm : m ≤ n) :
    Follows t atEnd m p p' :=
  ⟨h.moves, fun s s' a u hsame hlt => h.same s s' a u hsame (Nat.lt_of_lt_of_le hlt hm)⟩

theorem Leads.mono {m : Nat} (h : Leads t atEnd n p p') (hm : m ≤ n) : Leads t atEnd m p p' :=
  ⟨⟨h.moves, fun l l' s s' a u htoken hend hsame hlt =>
    h.same l l' s s' a u htoken hend hsame (Nat.lt_of_lt_of_le hlt hm)⟩, h.refuses⟩

theorem Follows.pure (a : α) : Follows t atEnd n (pure a) (pure a) where
  moves s b u hs hp := by
    cases hp
    exact ⟨hs, Nat.le_refl _⟩
  same s s' b u hsame hn hp hstop := by
    cases hp
    exact ⟨s', rfl, hsame⟩

theorem Follows.refuse (cause : Cause) (l : Located) : Follows t atEnd n (refuse cause l) p' where
  moves s a u hs hp := by cases hp
  same s s' a u hsame hn hp hstop := by cases hp

theorem Leads.refuse (cause : Cause) (l : Located) : Leads t atEnd n (refuse cause l) p' where
  moves l s a u hend hs hp := by cases hp
  same l l' s s' a u htoken hend hsame hn hp hstop := by cases hp
  refuses r hp := by cases hp

theorem Steps.refuse_bind (cause : Cause) (l : Located) (f : β → Parse α) :
    Steps t atEnd n (Parse.refuse cause l >>= f) p' where
  moves l s a u hend hs hp := by cases hp
  same l l' s s' a u htoken hend hsame hn hp hstop := by cases hp

theorem Leads.unexpected : Leads t atEnd n unexpected p' where
  moves l s a u hend hs hp := by cases hp
  same l l' s s' a u htoken hend hsame hn hp hstop := by cases hp
  refuses r hp := by cases hp

/-- A reader with others after it. The first one has to be one that may stop at the end of the text
only where the others start there and may stop there too. -/
theorem Follows.bindWhere {ends : Prop} (h : Follows t ends n p p')
    (hmore : ∀ a, Follows t atEnd n (f a) (f' a))
    (hends : ∀ a u b w, u.Ended → f a u = .ok (b, w) → atEnd ∨ w.left ≠ 0 → ends ∨ u.left ≠ 0) :
    Follows t atEnd n (p >>= f) (p' >>= f') where
  moves s b w hs hp := by
    obtain ⟨a, u, hpa, hfb⟩ := bind_eq_ok.mp hp
    obtain ⟨hu, hle⟩ := h.moves s a u hs hpa
    obtain ⟨hw, hle'⟩ := (hmore a).moves u b w hu hfb
    exact ⟨hw, Nat.le_trans hle' hle⟩
  same s s' b w hsame hn hp hstop := by
    obtain ⟨a, u, hpa, hfb⟩ := bind_eq_ok.mp hp
    obtain ⟨hu, hle⟩ := h.moves s a u hsame.ended hpa
    obtain ⟨u', hpa', hsame'⟩ := h.same s s' a u hsame hn hpa (hends a u b w hu hfb hstop)
    obtain ⟨w', hfb', hsame''⟩ := (hmore a).same u u' b w hsame' (by omega) hfb hstop
    exact ⟨w', bind_eq_ok.mpr ⟨a, u', hpa', hfb'⟩, hsame''⟩

theorem Steps.bindWhere {ends : Prop} (h : Steps t ends n p p')
    (hmore : ∀ a, Follows t atEnd (n - 1) (f a) (f' a))
    (hends : ∀ a u b w, u.Ended → f a u = .ok (b, w) → atEnd ∨ w.left ≠ 0 → ends ∨ u.left ≠ 0) :
    Steps t atEnd n (p >>= f) (p' >>= f') where
  moves l s b w hend hs hp := by
    obtain ⟨a, u, hpa, hfb⟩ := bind_eq_ok.mp hp
    obtain ⟨hu, hle⟩ := h.moves l s a u hend hs hpa
    obtain ⟨hw, hle'⟩ := (hmore a).moves u b w hu hfb
    exact ⟨hw, Nat.le_trans hle' hle⟩
  same l l' s s' b w htoken hend hsame hn hp hstop := by
    obtain ⟨a, u, hpa, hfb⟩ := bind_eq_ok.mp hp
    obtain ⟨hu, hle⟩ := h.moves l s a u hend hsame.ended hpa
    obtain ⟨u', hpa', hsame'⟩ := h.same l l' s s' a u htoken hend hsame hn hpa (hends a u b w hu hfb hstop)
    obtain ⟨w', hfb', hsame''⟩ := (hmore a).same u u' b w hsame' (by omega) hfb hstop
    exact ⟨w', bind_eq_ok.mpr ⟨a, u', hpa', hfb'⟩, hsame''⟩

/-- A reader that stops before the end of the text started before it. -/
theorem Follows.stops {u w : Tokens} {b : β} {q q' : Parse β} (h : Follows t atEnd n q q') (hu : u.Ended)
    (hq : q u = .ok (b, w)) (hstop : atEnd ∨ w.left ≠ 0) : atEnd ∨ u.left ≠ 0 :=
  hstop.imp_right fun hw => by
    obtain ⟨-, hle⟩ := h.moves u b w hu hq
    omega

theorem Follows.bind (h : Follows t atEnd n p p') (hmore : ∀ a, Follows t atEnd n (f a) (f' a)) :
    Follows t atEnd n (p >>= f) (p' >>= f') :=
  h.bindWhere hmore fun a _ _ _ hu hfb hstop => (hmore a).stops hu hfb hstop

theorem Steps.bind (h : Steps t atEnd n p p') (hmore : ∀ a, Follows t atEnd (n - 1) (f a) (f' a)) :
    Steps t atEnd n (p >>= f) (p' >>= f') :=
  h.bindWhere hmore fun a _ _ _ hu hfb hstop => (hmore a).stops hu hfb hstop

theorem Leads.bind (h : Leads t atEnd n p p') (hmore : ∀ a, Follows t atEnd (n - 1) (f a) (f' a)) :
    Leads t atEnd n (p >>= f) (p' >>= f') where
  toSteps := h.toSteps.bind hmore
  refuses r hp := by
    obtain ⟨a, u, hpa, -⟩ := bind_eq_ok.mp hp
    exact h.refuses _ hpa

theorem steps_advance : Steps t atEnd n advance advance where
  moves l s a u hend hs hp := by
    cases hp
    exact ⟨hs, Nat.le_refl _⟩
  same l l' s s' a u htoken hend hsame hn hp hstop := by
    cases hp
    exact ⟨s', rfl, hsame⟩

/-- Looking at the current token first. -/
theorem Leads.ofToken {g g' : Token → Parse α} (hrefuses : ∀ r, g .endOfInput .finished ≠ .ok r)
    (h : ∀ k, k ≠ .endOfInput → Steps t atEnd n (g k) (g' k)) :
    Leads t atEnd n (token >>= g) (token >>= g') where
  moves l s a u hend hs hp := (h l.token hend).moves l s a u hend hs hp
  same l l' s s' a u htoken hend hsame hn hp hstop := by
    have hlong := (h l.token hend).same l l' s s' a u htoken hend hsame hn hp hstop
    rw [← htoken] at hlong
    exact hlong
  refuses := hrefuses

/-- Looking at the current token and its place first. -/
theorem Leads.ofLocated {g g' : Located → Parse α}
    (hrefuses : ∀ r, g Tokens.finished.current .finished ≠ .ok r)
    (h : ∀ l l', l'.token = l.token → l.token ≠ .endOfInput → Steps t atEnd n (g l) (g' l')) :
    Leads t atEnd n (located >>= g) (located >>= g') where
  moves l s a u hend hs hp := (h l l rfl hend).moves l s a u hend hs hp
  same l l' s s' a u htoken hend hsame hn hp hstop :=
    (h l l' htoken hend).same l l' s s' a u htoken hend hsame hn hp hstop
  refuses := hrefuses

theorem ifEat_apply (k : Token) (a b : Parse α) (s : Tokens) :
    (eat k >>= fun found => if found = true then a else b) s =
      if s.current.token = k then (advance >>= fun _ => a) s else b s := by
  by_cases hk : s.current.token = k
  · rw [if_pos hk]
    simp only [eat, token, bind, StateT.bind, Except.bind, hk, if_true]
    cases advance s <;> rfl
  · rw [if_neg hk]
    simp only [eat, token, bind, StateT.bind, Except.bind, hk, if_false]
    rfl

/-- Going over a token if it is there. -/
theorem Steps.ifEat {k : Token} {a a' b b' : Parse α}
    (ha : Follows t atEnd (n - 1) a a') (hb : Steps t atEnd n b b') :
    Steps t atEnd n (eat k >>= fun found => if found = true then a else b)
      (eat k >>= fun found => if found = true then a' else b') where
  moves l s x u hend hs hp := by
    rw [ifEat_apply] at hp
    split at hp
    · exact ha.moves s x u hs hp
    · exact hb.moves l s x u hend hs hp
  same l l' s s' x u htoken hend hsame hn hp hstop := by
    rw [ifEat_apply, Tokens.current_push] at hp ⊢
    rw [htoken]
    split at hp
    · rename_i hk
      rw [if_pos hk]
      exact ha.same s s' x u hsame (by omega) hp hstop
    · rename_i hk
      rw [if_neg hk]
      exact hb.same l l' s s' x u htoken hend hsame hn hp hstop

theorem Leads.ifEat {k : Token} {a a' b b' : Parse α} (hend : k ≠ .endOfInput)
    (ha : Follows t atEnd (n - 1) a a') (hb : Leads t atEnd n b b') :
    Leads t atEnd n (eat k >>= fun found => if found = true then a else b)
      (eat k >>= fun found => if found = true then a' else b') where
  toSteps := .ifEat ha hb.toSteps
  refuses r hp := by
    rw [ifEat_apply, Tokens.token_finished, if_neg hend.symm] at hp
    exact hb.refuses r hp

/-- Going over a token if it is there, where the text may end as well. -/
theorem Follows.ifEat {k : Token} {a a' b b' : Parse α} (hend : k ≠ .endOfInput)
    (ht : atEnd → t.current.token ≠ k) (ha : Follows t atEnd (n - 1) a a') (hb : Follows t atEnd n b b') :
    Follows t atEnd n (eat k >>= fun found => if found = true then a else b)
      (eat k >>= fun found => if found = true then a' else b') where
  moves s x u hs hp := by
    rw [ifEat_apply] at hp
    cases hs with
    | finished =>
      rw [Tokens.token_finished, if_neg hend.symm] at hp
      exact hb.moves _ x u .finished hp
    | @push l s htoken hs =>
      split at hp
      · obtain ⟨hu, hle⟩ := ha.moves s x u hs hp
        exact ⟨hu, Nat.le_succ_of_le hle⟩
      · exact hb.moves _ x u (.push htoken hs) hp
  same s s' x u hsame hn hp hstop := by
    rw [ifEat_apply] at hp ⊢
    cases hsame with
    | stop =>
      rw [Tokens.token_finished, if_neg hend.symm] at hp
      -- nothing is left to go over, so the reader stops where the text ends
      have hzero : u.left = 0 := Nat.le_zero.mp (hb.moves _ x u .finished hp).2
      rw [if_neg (ht (hstop.resolve_right fun hne => hne hzero))]
      exact hb.same _ _ x u .stop hn hp hstop
    | @step l l' s s' htoken hline hinput hsame =>
      rw [Tokens.current_push] at hp ⊢
      rw [htoken]
      split at hp
      · rename_i hk
        rw [if_pos hk]
        rw [Tokens.left_push] at hn
        exact ha.same s s' x u hsame (by omega) hp hstop
      · rename_i hk
        rw [if_neg hk]
        exact hb.same _ _ x u (.step htoken hline hinput hsame) hn hp hstop

/-- Looking at the current token and its place first, where the text may end as well. What is done
then goes over the token or leaves it. -/
theorem Follows.ofLocated {g g' : Located → Parse α} {last : Parse α}
    (hlast : Follows t atEnd n (g Tokens.finished.current) last) (ht : atEnd → g' t.current = last)
    (h : ∀ l l', l'.token = l.token → l'.newlineBefore = l.newlineBefore → l.token ≠ .endOfInput →
      Steps t atEnd n (g l) (g' l') ∨ Follows t atEnd n (g l) (g' l')) :
    Follows t atEnd n (located >>= g) (located >>= g') where
  moves s x u hs hp := by
    cases hs with
    | finished => exact hlast.moves _ x u .finished hp
    | @push l s hend hs =>
      rcases h l l rfl rfl hend with hsteps | hfollows
      · obtain ⟨hu, hle⟩ := hsteps.moves l s x u hend hs hp
        exact ⟨hu, Nat.le_succ_of_le hle⟩
      · exact hfollows.moves _ x u (.push hend hs) hp
  same s s' x u hsame hn hp hstop := by
    cases hsame with
    | stop =>
      -- nothing is left to go over, so the readers stop where the text ends
      have hzero : u.left = 0 := Nat.le_zero.mp (hlast.moves _ x u .finished hp).2
      have hat : atEnd := hstop.resolve_right fun hne => hne hzero
      obtain ⟨u', hu', hsame⟩ := hlast.same _ _ x u .stop hn hp hstop
      rw [← ht hat] at hu'
      exact ⟨u', hu', hsame⟩
    | @step l l' s s' htoken hline hend hsame =>
      rcases h l l' htoken hline hend with hsteps | hfollows
      · exact hsteps.same l l' s s' x u htoken hend hsame hn hp hstop
      · exact hfollows.same _ _ x u (.step htoken hline hend hsame) hn hp hstop

/-- Looking at the current token first, where the end of the text is refused. -/
theorem Follows.ofRefused {g g' : Token → Parse α} (hrefuses : ∀ r, g .endOfInput .finished ≠ .ok r)
    (h : ∀ k, k ≠ .endOfInput → Steps t atEnd n (g k) (g' k) ∨ Follows t atEnd n (g k) (g' k)) :
    Follows t atEnd n (token >>= g) (token >>= g') where
  moves s x u hs hp := by
    cases hs with
    | finished => exact absurd hp (hrefuses _)
    | @push l s hend hs =>
      rcases h l.token hend with hsteps | hfollows
      · obtain ⟨hu, hle⟩ := hsteps.moves l s x u hend hs hp
        exact ⟨hu, Nat.le_succ_of_le hle⟩
      · exact hfollows.moves _ x u (.push hend hs) hp
  same s s' x u hsame hn hp hstop := by
    cases hsame with
    | stop => exact absurd hp (hrefuses _)
    | @step l l' s s' htoken hline hend hsame =>
      have hlong : ∃ u', g' l.token (s'.push l') = .ok (x, u') ∧ Tokens.Same t u u' := by
        rcases h l.token hend with hsteps | hfollows
        · exact hsteps.same l l' s s' x u htoken hend hsame hn hp hstop
        · exact hfollows.same _ _ x u (.step htoken hline hend hsame) hn hp hstop
      rw [← htoken] at hlong
      exact hlong

/-- Looking at the current token first, where the text may end as well. -/
theorem Follows.ofToken {g g' : Token → Parse α} {last : Parse α}
    (hlast : Follows t atEnd n (g .endOfInput) last) (ht : atEnd → g' t.current.token = last)
    (h : ∀ k, k ≠ .endOfInput → Steps t atEnd n (g k) (g' k) ∨ Follows t atEnd n (g k) (g' k)) :
    Follows t atEnd n (token >>= g) (token >>= g') := by
  have hlocated : Follows t atEnd n (located >>= fun l => g l.token)
      (located >>= fun l => g' l.token) := by
    refine .ofLocated hlast ht fun l l' htoken _ hend => ?_
    rw [htoken]
    exact h l.token hend
  exact hlocated

/-- Keeping the place of the current token. -/
theorem Leads.keepLocated {g g' : Located → Parse α}
    (h : ∀ l l', Leads t atEnd n (g l) (g' l')) :
    Leads t atEnd n (located >>= g) (located >>= g') :=
  .ofLocated (h Tokens.finished.current Tokens.finished.current).refuses
    fun l l' _ _ => (h l l').toSteps

theorem Follows.keepLocated {g g' : Located → Parse α}
    (h : ∀ l l', Follows t atEnd n (g l) (g' l')) :
    Follows t atEnd n (located >>= g) (located >>= g') where
  moves s x u hs hp := (h s.current s.current).moves s x u hs hp
  same s s' x u hsame hn hp hstop := (h s.current s'.current).same s s' x u hsame hn hp hstop

/-- A reader that goes over one token and then another one that does: what the first one does at the
end of the text does not matter. -/
theorem Leads.bindLeads {ends : Prop} (h : Leads t ends n p p')
    (hmore : ∀ a, Leads t atEnd (n - 1) (f a) (f' a)) :
    Leads t atEnd n (p >>= f) (p' >>= f') where
  toSteps := h.toSteps.bindWhere (fun a => (hmore a).follows)
    fun a _ _ _ hu hfb _ => Or.inr ((hmore a).left_ne_zero hu hfb)
  refuses r hp := by
    obtain ⟨a, u, hpa, -⟩ := bind_eq_ok.mp hp
    exact h.refuses _ hpa

/-- The same where the first reader may stop at once. -/
theorem Follows.bindLeads {ends : Prop} (h : Follows t ends n p p')
    (hmore : ∀ a, Leads t atEnd n (f a) (f' a)) : Follows t atEnd n (p >>= f) (p' >>= f') :=
  h.bindWhere (fun a => (hmore a).follows) fun a _ _ _ hu hfb _ => Or.inr ((hmore a).left_ne_zero hu hfb)

section Rounds

variable {ι : Type} {r r' : Nat → ι → Parse α}

/-- Two loops whose rounds go over a token each. `Q m` is what is said of two readers on texts with
fewer than `m` tokens, and with no such text it says nothing of the second reader. As many rounds as
there are tokens are enough. -/
theorem relate_rounds {Q : Nat → Parse α → Parse α → Prop}
    (hnone : ∀ {q q' q''}, Q 0 q q' → Q 0 q q'') (hzero : ∀ i, Q 0 (r 0 i) (r' 0 i))
    (hstep : ∀ k k' m i, m ≤ n → (∀ j, Q (m - 1) (r k j) (r' k' j)) →
      Q m (r (k + 1) i) (r' (k' + 1) i))
    {k k' m : Nat} (hm : m ≤ n) (hk : m ≤ k) (hk' : m ≤ k') (i : ι) : Q m (r k i) (r' k' i) := by
  induction k generalizing k' m i with
  | zero =>
    obtain rfl : m = 0 := Nat.le_zero.mp hk
    exact hnone (hzero i)
  | succ k ih =>
    cases k' with
    | zero =>
      obtain rfl : m = 0 := Nat.le_zero.mp hk'
      exact hnone (hstep k k 0 i hm fun j => ih (Nat.zero_le _) (Nat.zero_le _) (Nat.zero_le _) j)
    | succ k' => exact hstep k k' m i hm fun j => ih (by omega) (by omega) (by omega) j

/-- Rounds that carry nothing with them. -/
theorem relate_loop {Q : Nat → Parse α → Parse α → Prop} {r r' : Nat → Parse α} {k k' : Nat}
    (hnone : ∀ {q q' q''}, Q 0 q q' → Q 0 q q'') (hk : n ≤ k) (hk' : n ≤ k') (hzero : Q 0 (r 0) (r' 0))
    (hstep : ∀ k k' m, m ≤ n → Q (m - 1) (r k) (r' k') → Q m (r (k + 1)) (r' (k' + 1))) :
    Q n (r k) (r' k') :=
  @relate_rounds α n Unit (fun k _ => r k) (fun k _ => r' k) Q hnone (fun _ => hzero)
    (fun k k' m _ hm ih => hstep k k' m hm (ih ())) k k' n (Nat.le_refl n) hk hk' ()

theorem Follows.none {p'' : Parse α} (h : Follows t atEnd 0 p p') : Follows t atEnd 0 p p'' :=
  ⟨h.moves, fun _ _ _ _ _ hlt => absurd hlt (Nat.not_lt_zero _)⟩

theorem Leads.none {p'' : Parse α} (h : Leads t atEnd 0 p p') : Leads t atEnd 0 p p'' :=
  ⟨⟨h.moves, fun _ _ _ _ _ _ _ _ _ hlt => absurd hlt (Nat.not_lt_zero _)⟩, h.refuses⟩

theorem Follows.ofRounds (hzero : ∀ i, Follows t atEnd 0 (r 0 i) (r' 0 i))
    (hstep : ∀ k k' m i, m ≤ n → (∀ j, Follows t atEnd (m - 1) (r k j) (r' k' j)) →
      Follows t atEnd m (r (k + 1) i) (r' (k' + 1) i))
    {k k' m : Nat} (hm : m ≤ n) (hk : m ≤ k) (hk' : m ≤ k') (i : ι) :
    Follows t atEnd m (r k i) (r' k' i) :=
  relate_rounds Follows.none hzero hstep hm hk hk' i

theorem Follows.ofLoop {r r' : Nat → Parse α} {k k' : Nat} (hk : n ≤ k) (hk' : n ≤ k')
    (hzero : Follows t atEnd 0 (r 0) (r' 0))
    (hstep : ∀ k k' m, m ≤ n → Follows t atEnd (m - 1) (r k) (r' k') →
      Follows t atEnd m (r (k + 1)) (r' (k' + 1))) :
    Follows t atEnd n (r k) (r' k') :=
  relate_loop Follows.none hk hk' hzero hstep

theorem Leads.ofLoop {r r' : Nat → Parse α} {k k' : Nat} (hk : n ≤ k) (hk' : n ≤ k')
    (hzero : Leads t atEnd 0 (r 0) (r' 0))
    (hstep : ∀ k k' m, m ≤ n → Leads t atEnd (m - 1) (r k) (r' k') →
      Leads t atEnd m (r (k + 1)) (r' (k' + 1))) :
    Leads t atEnd n (r k) (r' k') :=
  relate_loop Leads.none hk hk' hzero hstep

end Rounds

end Parse

end Microtemplate.Script
