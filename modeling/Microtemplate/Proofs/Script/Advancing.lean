import Microtemplate.Proofs.Script.Following

/-!
Readers that advance. Of a reader three things are said at once: it leaves tokens that it was given
and goes over at least some number of them, a fault it finds lies at a place it was given, and
another reader does the same on all rows of fewer than `n` tokens, even if the tokens have been moved
to other places. So a bound on the rounds of a loop is harmless, since a loop whose rounds go over a
token each is not stopped by its bound; and no reader looks at where its tokens stand.
-/

namespace Microtemplate.Script

/-- The tokens end with the end of input, and their places are as `P` says. -/
def Tokens.Placed (P : List Char → Prop) (s : Tokens) : Prop := s.Ended ∧ ∀ l ∈ s.toList, P l.text

namespace Tokens.Placed

variable {P : List Char → Prop} {s : Tokens}

theorem current (h : s.Placed P) : P s.current.text := h.2 _ (List.mem_cons_self ..)

/-- A state that is not at its end has its current token in front of another state. -/
theorem exists_push (h : s.Placed P) (hend : s.current.token ≠ .endOfInput) :
    ∃ (l : Located) (u : Tokens), s = u.push l ∧ u.Placed P := by
  obtain ⟨hended, hplaces⟩ := h
  cases hended with
  | finished => exact absurd rfl hend
  | @push l u _ hu => exact ⟨l, u, rfl, hu, fun l' hl' => hplaces l' (List.mem_cons_of_mem _ hl')⟩

end Tokens.Placed

section Moved

variable (move : List Char → List Char)

/-- A token that stands at another place. -/
def Located.moved (l : Located) : Located := { l with text := move l.text }

@[simp]
theorem Located.token_moved (l : Located) : (l.moved move).token = l.token := rfl

/-- The tokens of a state at other places. -/
def Tokens.moved (s : Tokens) : Tokens :=
  ⟨s.current.moved move, s.following.map (Located.moved move)⟩

@[simp]
theorem Tokens.current_moved (s : Tokens) : (s.moved move).current = s.current.moved move := rfl

theorem Tokens.moved_id (s : Tokens) : s.moved id = s := by
  obtain ⟨current, following⟩ := s
  exact congrArg (Tokens.mk current) (List.map_id following)

/-- What a reader gives of tokens that have been moved. -/
def Parse.movedResult {α : Type} : Except Fault (α × Tokens) → Except Fault (α × Tokens)
  | .ok (a, s) => .ok (a, s.moved move)
  | .error e => .error ⟨e.cause, move e.text⟩

theorem Parse.movedResult_id {α : Type} (r : Except Fault (α × Tokens)) : movedResult id r = r := by
  cases r with
  | error e => rfl
  | ok p =>
    obtain ⟨a, s⟩ := p
    exact congrArg (fun s => Except.ok (a, s)) s.moved_id

end Moved

namespace Parse

variable {α β : Type}

theorem bind_eq_error {p : Parse α} {f : α → Parse β} {s : Tokens} {e : Fault} :
    (p >>= f) s = .error e ↔ p s = .error e ∨ ∃ a u, p s = .ok (a, u) ∧ f a u = .error e := by
  change Except.bind (p s) (fun r => f r.1 r.2) = .error e ↔ _
  cases hp : p s with
  | error e' => simp [Except.bind]
  | ok r =>
    constructor
    · intro h
      exact Or.inr ⟨r.1, r.2, rfl, h⟩
    · intro h
      rcases h with hfault | ⟨_, _, ⟨⟩, hmore⟩
      · cases hfault
      · exact hmore

/-- Any token. -/
def Anywhere : Located → Prop := fun _ => True

/-- From states whose current token is as `I` says, a reader goes over at least `d` tokens and finds
faults only at places that are as `P` says; with fewer than `n` tokens left another reader does the
same with the tokens at other places. -/
structure Advances (P : List Char → Prop) (move : List Char → List Char) (I : Located → Prop)
    (d n : Nat) (p p' : Parse α) : Prop where
  moves : ∀ s a u, s.Placed P → I s.current → p s = .ok (a, u) → u.Placed P ∧ u.left + d ≤ s.left
  faults : ∀ s e, s.Placed P → I s.current → p s = .error e → P e.text
  same : ∀ s, s.Placed P → I s.current → s.left < n → p' (s.moved move) = movedResult move (p s)

namespace Advances

variable {P : List Char → Prop} {move : List Char → List Char} {I J : Located → Prop}
  {d e n m : Nat} {p p' : Parse α} {f f' : α → Parse β}

theorem mono (h : Advances P move I d n p p') (hd : e ≤ d) (hm : m ≤ n) :
    Advances P move I e m p p' where
  moves s a u hs hI hp := by
    obtain ⟨hu, hle⟩ := h.moves s a u hs hI hp
    exact ⟨hu, by omega⟩
  faults := h.faults
  same s hs hI hlt := h.same s hs hI (by omega)

/-- A reader that may start anywhere is asked for less. -/
theorem less (h : Advances P move Anywhere d n p p') (hd : e ≤ d) (hm : m ≤ n) :
    Advances P move I e m p p' where
  moves s a u hs _ := (h.mono hd hm).moves s a u hs trivial
  faults s e hs _ := h.faults s e hs trivial
  same s hs _ := (h.mono hd hm).same s hs trivial

theorem fewer (h : Advances P move Anywhere d n p p') (hm : m ≤ n) :
    Advances P move I d m p p' :=
  h.less (Nat.le_refl d) hm

theorem pure (a : α) : Advances P move I 0 n (pure a) (pure a) where
  moves s b u hs _ hp := by
    cases hp
    exact ⟨hs, Nat.le_refl _⟩
  faults s e hs _ hp := by cases hp
  same s _ _ _ := rfl

theorem refuse {cause : Cause} {l : Located} (hl : P l.text) :
    Advances P move I d n (refuse cause l : Parse α) (Parse.refuse cause (l.moved move)) where
  moves s a u _ _ hp := by cases hp
  faults s e _ _ hp := by
    cases hp
    exact hl
  same s _ _ _ := rfl

theorem refuse_bind {cause : Cause} {l : Located} (hl : P l.text) :
    Advances P move I d n (Parse.refuse cause l >>= f) (Parse.refuse cause (l.moved move) >>= f') where
  moves s a u _ _ hp := by cases hp
  faults s e _ _ hp := by
    cases hp
    exact hl
  same s _ _ _ := rfl

theorem unexpected : Advances P move I d n (unexpected : Parse α) unexpected where
  moves s a u _ _ hp := by cases hp
  faults s e hs _ hp := by
    cases hp
    exact hs.current
  same s _ _ _ := rfl

theorem bind (h : Advances P move I d n p p')
    (hmore : ∀ a, Advances P move Anywhere (e - d) (n - d) (f a) (f' a)) :
    Advances P move I e n (p >>= f) (p' >>= f') where
  moves s b w hs hI hp := by
    obtain ⟨a, u, hpa, hfb⟩ := bind_eq_ok.mp hp
    obtain ⟨hu, hle⟩ := h.moves s a u hs hI hpa
    obtain ⟨hw, hle'⟩ := (hmore a).moves u b w hu trivial hfb
    exact ⟨hw, by omega⟩
  faults s e hs hI hp := by
    rcases bind_eq_error.mp hp with hpe | ⟨a, u, hpa, hfe⟩
    · exact h.faults s e hs hI hpe
    · exact (hmore a).faults u e (h.moves s a u hs hI hpa).1 trivial hfe
  same s hs hI hlt := by
    change Except.bind (p' (s.moved move)) (fun r => f' r.1 r.2) =
      movedResult move (Except.bind (p s) (fun r => f r.1 r.2))
    rw [h.same s hs hI hlt]
    cases hp : p s with
    | error e => rfl
    | ok r =>
      obtain ⟨hu, hle⟩ := h.moves s r.1 r.2 hs hI hp
      exact (hmore r.1).same r.2 hu trivial (by omega)

/-- A reader with others after it that may go over no token. -/
theorem followed (h : Advances P move I d n p p') (hmore : ∀ a, Advances P move Anywhere 0 n (f a) (f' a)) :
    Advances P move I d n (p >>= f) (p' >>= f') :=
  h.bind fun a => (hmore a).mono (by omega) (by omega)

/-- A reader of more tokens with others after it. -/
theorem bindFewer (h : Advances P move Anywhere d n p p') (hm : m ≤ n)
    (hmore : ∀ a, Advances P move Anywhere (e - d) (m - d) (f a) (f' a)) :
    Advances P move I e m (p >>= f) (p' >>= f') :=
  (h.fewer hm).bind hmore

theorem advance (hend : ∀ l, I l → l.token ≠ .endOfInput) : Advances P move I 1 n advance advance where
  moves s a u hs hI hp := by
    obtain ⟨l, v, rfl, hv⟩ := hs.exists_push (hend _ hI)
    cases hp
    exact ⟨hv, Nat.le_refl _⟩
  faults s e hs hI hp := by
    obtain ⟨l, v, rfl, -⟩ := hs.exists_push (hend _ hI)
    cases hp
  same s hs hI _ := by
    obtain ⟨l, v, rfl, -⟩ := hs.exists_push (hend _ hI)
    rfl

/-- Looking at the current token and its place first. -/
theorem located {g g' : Located → Parse α}
    (h : ∀ l, P l.text → I l → Advances P move (· = l) d n (g l) (g' (l.moved move))) :
    Advances P move I d n (located >>= g) (located >>= g') where
  moves s a u hs hI hp := (h s.current hs.current hI).moves s a u hs rfl hp
  faults s e hs hI hp := (h s.current hs.current hI).faults s e hs rfl hp
  same s hs hI hlt := (h s.current hs.current hI).same s hs rfl hlt

/-- Looking at the current token first. -/
theorem token {g g' : Token → Parse α}
    (h : ∀ t, Advances P move (fun l => I l ∧ l.token = t) d n (g t) (g' t)) :
    Advances P move I d n (token >>= g) (token >>= g') where
  moves s a u hs hI hp := (h s.current.token).moves s a u hs ⟨hI, rfl⟩ hp
  faults s e hs hI hp := (h s.current.token).faults s e hs ⟨hI, rfl⟩ hp
  same s hs hI hlt := (h s.current.token).same s hs ⟨hI, rfl⟩ hlt

/-- Going on in one of two ways, on a condition that does not depend on places. -/
theorem ite {c c' : Prop} [Decidable c] [Decidable c'] {a a' b b' : Parse α} (hc : c' ↔ c)
    (ha : c → Advances P move I d n a a') (hb : ¬ c → Advances P move I d n b b') :
    Advances P move I d n (if c then a else b) (if c' then a' else b') := by
  by_cases h : c
  · rw [if_pos h, if_pos (hc.mpr h)]
    exact ha h
  · rw [if_neg h, if_neg (mt hc.mp h)]
    exact hb h

/-- Going over a token if it is there. -/
theorem ifEat {k : Token} {a a' b b' : Parse α} (hk : k ≠ .endOfInput)
    (ha : Advances P move Anywhere (d - 1) (n - 1) a a') (hb : Advances P move I d n b b') :
    Advances P move I d n (eat k >>= fun found => if found = true then a else b)
      (eat k >>= fun found => if found = true then a' else b') := by
  have hover : Advances P move (fun l => I l ∧ l.token = k) 1 n Parse.advance Parse.advance :=
    advance fun l hl => hl.2 ▸ hk
  have heaten : Advances P move (fun l => I l ∧ l.token = k) d n
      (Parse.advance >>= fun _ => a) (Parse.advance >>= fun _ => a') := hover.bind fun _ => ha
  refine ⟨fun s x u hs hI hp => ?_, fun s e hs hI hp => ?_, fun s hs hI hlt => ?_⟩
  · rw [ifEat_apply] at hp
    split at hp
    · rename_i htoken
      exact heaten.moves s x u hs ⟨hI, htoken⟩ hp
    · exact hb.moves s x u hs hI hp
  · rw [ifEat_apply] at hp
    split at hp
    · rename_i htoken
      exact heaten.faults s e hs ⟨hI, htoken⟩ hp
    · exact hb.faults s e hs hI hp
  · rw [ifEat_apply, ifEat_apply, Tokens.current_moved, Located.token_moved]
    split
    · rename_i htoken
      exact heaten.same s hs ⟨hI, htoken⟩ hlt
    · exact hb.same s hs hI hlt

section Rounds

variable {ι : Type} {r r' : Nat → ι → Parse α}

theorem none {p'' : Parse α} (h : Advances P move I d 0 p p') : Advances P move I d 0 p p'' :=
  ⟨h.moves, h.faults, fun _ _ _ hlt => absurd hlt (Nat.not_lt_zero _)⟩

/-- Rounds of a loop, each of which goes over a token before the next one: as many rounds as there
are tokens are enough. -/
theorem ofRounds (hzero : ∀ i, Advances P move I d 0 (r 0 i) (r' 0 i))
    (hstep : ∀ k k' m i, m ≤ n → (∀ j, Advances P move I d (m - 1) (r k j) (r' k' j)) →
      Advances P move I d m (r (k + 1) i) (r' (k' + 1) i))
    {k k' m : Nat} (hm : m ≤ n) (hk : m ≤ k) (hk' : m ≤ k') (i : ι) :
    Advances P move I d m (r k i) (r' k' i) :=
  relate_rounds none hzero hstep hm hk hk' i

/-- Rounds that carry nothing with them. -/
theorem ofLoop {r r' : Nat → Parse α} {k k' : Nat} (hk : n ≤ k) (hk' : n ≤ k')
    (hzero : Advances P move I d 0 (r 0) (r' 0))
    (hstep : ∀ k k' m, m ≤ n → Advances P move I d (m - 1) (r k) (r' k') →
      Advances P move I d m (r (k + 1)) (r' (k' + 1))) :
    Advances P move I d n (r k) (r' k') :=
  relate_loop none hk hk' hzero hstep

end Rounds

end Advances

end Parse

end Microtemplate.Script
