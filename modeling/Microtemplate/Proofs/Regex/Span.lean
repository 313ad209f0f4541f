import Microtemplate.Regex.Matching
import Microtemplate.Text.Position

/-!
Spots of a text and what lies between them. A match goes forward: it ends at a spot reached from
its start over some text, and what its groups have captured lies in this text. Successive matches
come one after the other and do not overlap.
-/

namespace Microtemplate.Regex

open Text (byteLength byteLength_append)

/-- One spot is reached from another over a text. -/
structure Spot.Spans (s : Spot) (w : List Char) (t : Spot) : Prop where
  rest : s.rest = w ++ t.rest
  offset : t.offset = s.offset + byteLength w
  previous : t.previous = w.getLast?.or s.previous

namespace Spot.Spans

theorem refl (s : Spot) : s.Spans [] s := ⟨rfl, rfl, rfl⟩

theorem trans {s t u : Spot} {v w : List Char} (h : s.Spans v t) (h' : t.Spans w u) :
    s.Spans (v ++ w) u where
  rest := by rw [h.rest, h'.rest, List.append_assoc]
  offset := by rw [h'.offset, h.offset, byteLength_append, Nat.add_assoc]
  previous := by
    rw [h'.previous, h.previous, List.getLast?_append, Option.or_assoc]

theorem one (offset : Nat) (previous : Option Char) (c : Char) (cs : List Char) :
    Spot.Spans ⟨offset, previous, c :: cs⟩ [c] ⟨offset + c.utf8Size, some c, cs⟩ :=
  ⟨rfl, by simp [byteLength], rfl⟩

/-- The text between two spots is what has been gone over. -/
theorem upTo_eq {s t : Spot} {w : List Char} (h : s.Spans w t) : s.upTo t = w := by
  simp [Spot.upTo, h.rest]

/-- Over one text only one spot is reached. -/
theorem unique {s t u : Spot} {w : List Char} (h : s.Spans w t) (h' : s.Spans w u) : t = u := by
  have hrest : t.rest = u.rest := List.append_cancel_left (h.rest.symm.trans h'.rest)
  have hoffset : t.offset = u.offset := h.offset.trans h'.offset.symm
  have hprevious : t.previous = u.previous := h.previous.trans h'.previous.symm
  cases t
  cases u
  simp_all

/-- What is left to go over after a part of the way. -/
theorem of_append {s t u : Spot} {v w : List Char} (h : s.Spans (v ++ w) u) (h' : s.Spans v t) :
    t.Spans w u where
  rest := by
    have hrest := h'.rest.symm.trans h.rest
    rw [List.append_assoc] at hrest
    exact List.append_cancel_left hrest
  offset := by
    have hu := h.offset
    have ht := h'.offset
    rw [byteLength_append] at hu
    omega
  previous := by
    rw [h.previous, h'.previous, List.getLast?_append, Option.or_assoc]

end Spot.Spans

/-- Two spots lie one after the other between two others. -/
def Spot.Encloses (s t : Spot) (p : Spot × Spot) : Prop :=
  ∃ a b d, s.Spans a p.1 ∧ p.1.Spans b p.2 ∧ p.2.Spans d t

/-- How a match goes from a spot with captures to another one: forward, and what is captured on the
way lies between the two. -/
structure Advances (x y : Spot × Captures) : Prop where
  spans : ∃ w, x.1.Spans w y.1
  captures : ∀ p ∈ y.2, p ∈ x.2 ∨ x.1.Encloses y.1 p.2

namespace Advances

theorem refl (e : Spot × Captures) : Advances e e :=
  ⟨⟨[], Spot.Spans.refl _⟩, fun _ hp => Or.inl hp⟩

theorem trans {x y z : Spot × Captures} (h : Advances x y) (h' : Advances y z) : Advances x z := by
  obtain ⟨v, hv⟩ := h.spans
  obtain ⟨w, hw⟩ := h'.spans
  refine ⟨⟨v ++ w, hv.trans hw⟩, fun p hp => ?_⟩
  rcases h'.captures p hp with hy | ⟨a, b, d, ha, hb, hd⟩
  · rcases h.captures p hy with hx | ⟨a, b, d, ha, hb, hd⟩
    · exact Or.inl hx
    · exact Or.inr ⟨a, b, d ++ w, ha, hb, hd.trans hw⟩
  · exact Or.inr ⟨v ++ a, b, d, hv.trans ha, hb, hd⟩

end Advances

namespace Ends

theorem mem_of_mem_distinctFrom {x : Spot × Captures} {seen : OffsetSet} {l : Ends}
    (h : x ∈ distinctFrom seen l) : x ∈ l := by
  induction l generalizing seen with
  | nil => simp [distinctFrom] at h
  | cons e rest ih =>
    simp only [distinctFrom] at h
    split at h
    · exact List.mem_cons_of_mem _ (ih h)
    · rcases List.mem_cons.mp h with rfl | h
      · exact List.mem_cons_self ..
      · exact List.mem_cons_of_mem _ (ih h)

theorem mem_of_mem_distinct {x : Spot × Captures} {l : Ends} (h : x ∈ distinct l) : x ∈ l :=
  mem_of_mem_distinctFrom h

/-- The most preferred end is never left out. -/
theorem head?_distinct (l : Ends) : (distinct l).head? = l.head? := by
  cases l with
  | nil => rfl
  | cons e rest => simp [distinct, distinctFrom, OffsetSet.has_empty]

end Ends

namespace Rounds

theorem mem_ends_leave {r : Rounds} {e x : Spot × Captures} (h : x ∈ (r.leave e).ends) :
    x = e ∨ x ∈ r.ends := by
  unfold leave at h
  split at h
  · exact Or.inr h
  · exact List.mem_cons.mp h

end Rounds

/-- What holds where the first round of a repetition ends and is kept by one round holds at all its
ends. -/
theorem rounds_induction {P : Spot × Captures → Prop} {inner : Spot → Captures → Ends}
    (hinner : ∀ x, P x → ∀ y ∈ inner x.1 x.2, P y) (greedy : Bool) (n : Nat) (s : Spot)
    (c : Captures) (r : Rounds) (hs : ∀ y ∈ inner s c, P y) (hr : ∀ x ∈ r.ends, P x) :
    ∀ x ∈ (rounds inner greedy n s c r).ends, P x := by
  induction n generalizing s c r with
  | zero => exact hr
  | succ n ih =>
    have again : ∀ (e : Spot × Captures) (r : Rounds), P e → (∀ x ∈ r.ends, P x) →
        ∀ x ∈ (if r.started.has e.1.offset then r else rounds inner greedy n e.1 e.2 r).ends,
          P x := by
      intro e r he hr
      split
      · exact hr
      · exact ih e.1 e.2 r (hinner e he) hr
    have leave : ∀ (e : Spot × Captures) (r : Rounds), P e → (∀ x ∈ r.ends, P x) →
        ∀ x ∈ (r.leave e).ends, P x := by
      intro e r he hr x hx
      rcases Rounds.mem_ends_leave hx with rfl | hx
      · exact he
      · exact hr x hx
    have loop : ∀ (l : Ends) (r : Rounds), (∀ e ∈ l, P e) → (∀ x ∈ r.ends, P x) →
        ∀ x ∈ (l.foldl (fun r e =>
          let again := fun r : Rounds =>
            if r.started.has e.1.offset then r else rounds inner greedy n e.1 e.2 r
          if greedy then (again r).leave e else again (r.leave e)) r).ends, P x := by
      intro l
      induction l with
      | nil => exact fun r _ hr => hr
      | cons e l ihl =>
        intro r hl hr
        have he : P e := hl e (List.mem_cons_self ..)
        refine ihl _ (fun x hx => hl x (List.mem_cons_of_mem _ hx)) ?_
        cases greedy with
        | true => exact leave e _ he (again e r he hr)
        | false => exact again e _ he (leave e r he hr)
    exact loop (inner s c) _ hs hr

/-- From one spot with captures an expression matches up to another one. -/
inductive Matches : Regex → Spot × Captures → Spot × Captures → Prop
  | empty (x : Spot × Captures) : Matches .empty x x
  | one {set : CharSet} {char : Char} (offset : Nat) (previous : Option Char) (rest : List Char)
      (c : Captures) (h : set.holds char = true) : Matches (.one set) (⟨offset, previous, char :: rest⟩, c)
        (⟨offset + char.utf8Size, some char, rest⟩, c)
  | look {l : Look} {x : Spot × Captures} (h : l.holds x.1 = true) : Matches (.look l) x x
  | group {i : Nat} {e : Regex} {x y : Spot × Captures} (h : Matches e x y) :
      Matches (.group i e) x (y.1, (i, x.1, y.1) :: y.2.filter (·.1 != i))
  | append {a b : Regex} {x y z : Spot × Captures} (ha : Matches a x y) (hb : Matches b y z) :
      Matches (.append a b) x z
  | left {a b : Regex} {x y : Spot × Captures} (h : Matches a x y) : Matches (.either a b) x y
  | right {a b : Regex} {x y : Spot × Captures} (h : Matches b x y) : Matches (.either a b) x y
  | skip {greedy : Bool} {e : Regex} (x : Spot × Captures) : Matches (.optional greedy e) x x
  | take {greedy : Bool} {e : Regex} {x y : Spot × Captures} (h : Matches e x y) :
      Matches (.optional greedy e) x y
  | once {greedy : Bool} {e : Regex} {x y : Spot × Captures} (h : Matches e x y) :
      Matches (.plus greedy e) x y
  | again {greedy : Bool} {e : Regex} {x y z : Spot × Captures} (h : Matches (.plus greedy e) x y)
      (he : Matches e y z) : Matches (.plus greedy e) x z

/-- What is found as an end is matched up to. -/
theorem matches_of_mem_ends {e : Regex} {s : Spot} {c : Captures} {x : Spot × Captures}
    (hx : x ∈ ends e s c) : Matches e (s, c) x := by
  induction e generalizing s c x with
  | empty =>
    rw [List.mem_singleton.mp hx]
    exact .empty _
  | one set =>
    obtain ⟨offset, previous, rest⟩ := s
    cases rest with
    | nil => simp [ends] at hx
    | cons char rest =>
      simp only [ends] at hx
      split at hx
      · rename_i hholds
        rw [List.mem_singleton.mp hx]
        exact .one _ _ _ _ hholds
      · simp at hx
  | look l =>
    simp only [ends] at hx
    split at hx
    · rename_i hholds
      rw [List.mem_singleton.mp hx]
      exact .look hholds
    · simp at hx
  | group i e ih =>
    obtain ⟨y, hy, rfl⟩ := List.mem_map.mp hx
    exact .group (ih hy)
  | append a b iha ihb =>
    obtain ⟨y, hy, hxy⟩ := List.mem_flatMap.mp (Ends.mem_of_mem_distinct hx)
    exact .append (iha hy) (ihb hxy)
  | either a b iha ihb =>
    rcases List.mem_append.mp (Ends.mem_of_mem_distinct hx) with hx | hx
    · exact .left (iha hx)
    · exact .right (ihb hx)
  | optional greedy e ih =>
    have hx : x ∈ ends e s c ∨ x = (s, c) := by
      have hx := Ends.mem_of_mem_distinct hx
      cases greedy with
      | true => simpa using hx
      | false => simpa [or_comm] using hx
    rcases hx with hx | rfl
    · exact .take (ih hx)
    · exact .skip _
  | plus greedy e ih =>
    exact rounds_induction (P := Matches (.plus greedy e) (s, c)) (fun y hy z hz => hy.again (ih hz))
      greedy _ s c Rounds.none (fun y hy => .once (ih hy)) (by simp [Rounds.none]) x
      (List.mem_reverse.mp hx)

/-- Matches go forward. -/
theorem Matches.advances {e : Regex} {x y : Spot × Captures} (h : Matches e x y) : Advances x y := by
  induction h with
  | empty | look | skip => exact .refl _
  | one => exact ⟨⟨_, Spot.Spans.one ..⟩, fun _ hp => Or.inl hp⟩
  | group _ ih =>
    obtain ⟨w, hw⟩ := ih.spans
    refine ⟨⟨w, hw⟩, fun p hp => ?_⟩
    rcases List.mem_cons.mp hp with rfl | hp
    · exact Or.inr ⟨[], w, [], Spot.Spans.refl _, hw, Spot.Spans.refl _⟩
    · exact ih.captures p (List.mem_filter.mp hp).1
  | append _ _ ih ih' | again _ _ ih ih' => exact ih.trans ih'
  | left _ ih | right _ ih | take _ ih | once _ ih => exact ih

/-- What is known of a match: it goes forward, and its groups have matched inside it. -/
structure Found.Sound (f : Found) : Prop where
  spans : f.start.Spans f.text f.stop
  encloses : ∀ p ∈ f.captures, f.start.Encloses f.stop p.2

theorem matchAt?_start {e : Regex} {s : Spot} {f : Found} (h : e.matchAt? s = some f) :
    f.start = s := by
  obtain ⟨x, _, rfl⟩ := Option.map_eq_some_iff.mp h
  rfl

theorem matchAt?_sound {e : Regex} {s : Spot} {f : Found} (h : e.matchAt? s = some f) :
    f.Sound := by
  obtain ⟨x, hx, rfl⟩ := Option.map_eq_some_iff.mp h
  have hadv := (matches_of_mem_ends (List.mem_of_head? hx)).advances
  obtain ⟨w, hw⟩ := hadv.spans
  refine ⟨?_, fun p hp => ?_⟩
  · simpa only [Found.text, hw.upTo_eq] using hw
  · rcases hadv.captures p hp with hp | hp
    · simp at hp
    · exact hp

/-- A match that is found starts at or after the spot from which it is searched. -/
theorem find?_spans {e : Regex} {s : Spot} {f : Found} (h : e.find? s = some f) :
    (∃ w, s.Spans w f.start) ∧ e.matchAt? f.start = some f := by
  obtain ⟨offset, previous, cs⟩ := s
  simp only [find?] at h
  induction cs generalizing offset previous with
  | nil =>
    have hstart := matchAt?_start h
    exact ⟨⟨[], hstart ▸ Spot.Spans.refl _⟩, hstart ▸ h⟩
  | cons c cs ih =>
    simp only [findFrom?] at h
    split at h
    · rename_i g hg
      have hstart := matchAt?_start hg
      obtain rfl := Option.some.inj h
      exact ⟨⟨[], hstart ▸ Spot.Spans.refl _⟩, hstart ▸ hg⟩
    · obtain ⟨⟨w, hw⟩, hat⟩ := ih _ _ h
      exact ⟨⟨[c] ++ w, (Spot.Spans.one ..).trans hw⟩, hat⟩

theorem next?_spans {s t : Spot} (h : s.next? = some t) : ∃ c, s.Spans [c] t := by
  obtain ⟨offset, previous, rest⟩ := s
  cases rest with
  | nil => simp [Spot.next?] at h
  | cons c rest =>
    simp only [Spot.next?, Option.some.injEq] at h
    exact ⟨c, h ▸ Spot.Spans.one ..⟩

theorem findAfter?_spans {e : Regex} {last : Option Nat} {s : Spot} {f : Found}
    (h : e.findAfter? last s = some f) :
    (∃ w, s.Spans w f.start) ∧ e.matchAt? f.start = some f := by
  unfold findAfter? at h
  split at h
  · simp at h
  · rename_i g hg
    split at h
    · obtain ⟨t, ht, hf⟩ := Option.bind_eq_some_iff.mp h
      obtain ⟨c, hc⟩ := next?_spans ht
      obtain ⟨⟨w, hw⟩, hat⟩ := find?_spans hf
      exact ⟨⟨[c] ++ w, hc.trans hw⟩, hat⟩
    · obtain rfl := Option.some.inj h
      exact find?_spans hg

/-- Matches one after the other from a spot on. -/
inductive Successive : Spot → List Found → Prop
  | nil (s : Spot) : Successive s []
  | cons {s : Spot} {gap : List Char} {f : Found} {more : List Found}
      (hgap : s.Spans gap f.start) (hf : f.Sound) (hmore : Successive f.stop more) :
      Successive s (f :: more)

theorem findAll_successive (e : Regex) (n : Nat) (last : Option Nat) (s : Spot) :
    Successive s (e.findAll n last s) := by
  induction n generalizing last s with
  | zero => exact .nil s
  | succ n ih =>
    simp only [findAll]
    split
    · exact .nil s
    · rename_i f hf
      obtain ⟨⟨gap, hgap⟩, hat⟩ := findAfter?_spans hf
      exact .cons hgap (matchAt?_sound hat) (ih _ _)

theorem allMatches_successive (e : Regex) (text : List Char) :
    Successive (Spot.start text) (e.allMatches text) :=
  findAll_successive e _ _ _

end Microtemplate.Regex
