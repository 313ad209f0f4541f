import Microtemplate.Proofs.Regex.Reading

/-!
Reading a class in square brackets that stands in a larger expression. A class has to be closed, so
its readers never come to the end of the text.
-/

namespace Microtemplate.Regex.Read.Local

theorem atom : Local ClassReader.atom :=
  peek.bind fun _ => ite escape ((drop 1).bind fun _ => pure _)

theorem classChar (e : Escaped) : Local (ClassReader.classChar e) := by
  unfold ClassReader.classChar
  split
  · exact flags.bind fun _ => ite (pure _) refuse
  · exact refuse

theorem single (e : Escaped) : Local (ClassReader.single e) := by
  unfold ClassReader.single
  split
  · exact pure _
  · exact refuse
  · exact (classChar _).bind fun _ => pure _

/-- The rest of a range after its first character. -/
def rangeEnd (first : Escaped) : Read ClassPart := do
  Read.step
  let _ ← Read.peek
  let last ← ClassReader.atom
  let a ← ClassReader.classChar first
  let b ← ClassReader.classChar last
  if a ≤ b then return ⟨[⟨a.toNat, b.toNat⟩], 0⟩ else Read.refuse

theorem rangeEnd_local (first : Escaped) : Local (rangeEnd first) :=
  step.bind fun _ => peek.bind fun _ => atom.bind fun _ => (classChar _).bind fun _ =>
    (classChar _).bind fun _ => ite (pure _) refuse

/-- The text after the next character and the space after it. -/
def afterStep (f : Flags) (cs : List Char) : List Char :=
  if f.verbose then skipVerbose false (cs.drop 1) else cs.drop 1

theorem second?_apply (s : ReadState) :
    ClassReader.second? s = some ((afterStep s.flags s.rest).head?, s) := by
  obtain ⟨rest, f, groups, names⟩ := s
  match rest with
  | [] => cases hf : f.verbose <;> simp [afterStep, hf, skipVerbose] <;> rfl
  | [c] => cases hf : f.verbose <;> simp [afterStep, hf, skipVerbose] <;> rfl
  | c :: d :: cs => rfl

theorem step_apply (s : ReadState) :
    Read.step s = some ((), { s with rest := afterStep s.flags s.rest }) := by
  have hrun : Read.step s = (if s.flags.verbose then
      (do setRest (skipVerbose false (← rest)) : Read Unit) else Pure.pure ())
        { s with rest := s.rest.drop 1 } := rfl
  rw [hrun, afterStep]
  split <;> rfl

theorem rangeEnd_eq_none {first : Escaped} {s : ReadState} (h : afterStep s.flags s.rest = []) :
    rangeEnd first s = none := by
  rw [rangeEnd, bind_apply, step_apply, h]
  rfl

/-- Where something is left after a step, it starts with the same character in extended states. -/
theorem head?_afterStep {s : ReadState} (h : afterStep s.flags s.rest ≠ []) (x : Extension) :
    (afterStep s.flags (s.extend x).rest).head? = (afterStep s.flags s.rest).head? := by
  obtain ⟨cs, f, groups, names⟩ := s
  cases cs with
  | nil => cases hf : f.verbose <;> simp [afterStep, hf, skipVerbose] at h
  | cons c cs =>
    simp only [afterStep, ReadState.extend, List.cons_append, List.drop_succ_cons,
      List.drop_zero] at h ⊢
    split
    · rename_i hf
      simp only [hf, if_true] at h
      rcases skipVerbose_append false cs with hsame | ⟨hnil, -⟩
      · obtain ⟨d, ds, hd⟩ := List.exists_cons_of_ne_nil h
        rw [hsame, hd]
        rfl
      · exact absurd hnil h
    · rename_i hf
      simp only [hf] at h
      obtain ⟨d, ds, rfl⟩ := List.exists_cons_of_ne_nil h
      rfl

/-- A character, a set or a range after its first character and the space after that, given the
next character and the one after it. -/
def rangeFrom (first : Escaped) (c : Char) (after : Option Char) : Read ClassPart :=
  if c != '-' || after == some ']' || after == some '-' then ClassReader.single first
  else rangeEnd first

theorem rangeFrom_local (first : Escaped) (c : Char) (after : Option Char) :
    Local (rangeFrom first c after) :=
  ite (single first) (rangeEnd_local first)

theorem range : Local ClassReader.range := by
  refine atom.bind fun first => space.bind fun _ => of_agrees fun s a t hs => ?_
  have hrun : ∀ (s : ReadState) (c : Char) (cs : List Char), s.rest = c :: cs →
      (do
        let c ← Read.peek
        let after ← ClassReader.second?
        rangeFrom first c after) s =
      rangeFrom first c (afterStep s.flags s.rest).head? s := by
    intro s c cs h
    have hpeek : Read.peek s = some (c, s) := by
      obtain ⟨rest, f, groups, names⟩ := s
      subst h
      rfl
    rw [bind_apply, hpeek, Option.bind_some, bind_apply, second?_apply]
    rfl
  cases hrest : s.rest with
  | nil =>
    obtain ⟨rest, f, groups, names⟩ := s
    subst hrest
    cases hs
  | cons c cs =>
    have hx : ∀ x, (s.extend x).rest = c :: (cs ++ ')' :: x.after) := fun x => by
      rw [ReadState.extend, hrest, List.cons_append]
    have hs : rangeFrom first c (afterStep s.flags s.rest).head? s = some (a, t) :=
      (hrun s c cs hrest).symm.trans hs
    refine ⟨rangeFrom first c (afterStep s.flags s.rest).head?, rangeFrom_local _ _ _,
      hrun s c cs hrest, fun x => (hrun _ c _ (hx x)).trans ?_⟩
    by_cases hafter : afterStep s.flags s.rest = []
    · -- a hyphen would have to be followed by the last character of the range
      cases hc : c != '-' with
      | true => simp only [rangeFrom, hc, Bool.true_or]
      | false =>
        rw [rangeFrom, hafter] at hs
        simp only [hc, List.head?_nil] at hs
        rw [if_neg (by simp), rangeEnd_eq_none hafter] at hs
        cases hs
    · have hflags : (s.extend x).flags = s.flags := rfl
      rw [hflags, head?_afterStep hafter]

/-- Whether a name is negated, and the text from the name itself on. -/
def negatedOf (cs : List Char) : Bool × List Char :=
  match cs with
  | '^' :: cs => (true, cs)
  | _ => (false, cs)

/-- A class with a name at the start of a text, and the text after it. -/
def namedOf (f : Flags) : List Char → Option (ClassPart × List Char)
  | '[' :: ':' :: cs =>
    match (negatedOf cs).2.dropWhile (· != ':'),
      NamedClass.posix? (String.ofList ((negatedOf cs).2.takeWhile (· != ':'))) with
    | ':' :: ']' :: after, some s =>
      let last := if f.unicode then CharSet.lastCode else 0xFF
      some (⟨if (negatedOf cs).1 then CharSet.complement last s else s, 0⟩, after)
    | _, _ => none
  | _ => none

/-- What is done with a class with a name. -/
def takeNamed : Option (ClassPart × List Char) → Read (Option ClassPart)
  | some (p, after) => do
    setRest after
    return some p
  | none => return none

/-- A class with a name, given the text after the name and the set of this name. -/
def afterName (f : Flags) (negated : Bool) : List Char → Option CharSet → Read (Option ClassPart)
  | ':' :: ']' :: after, some s => do
    setRest after
    let last := if f.unicode then CharSet.lastCode else 0xFF
    return some ⟨if negated then CharSet.complement last s else s, 0⟩
  | _, _ => return none

/-- A class with a name, given the text that is left. -/
def namedFrom (f : Flags) : List Char → Read (Option ClassPart)
  | '[' :: ':' :: cs =>
    afterName f (negatedOf cs).1 ((negatedOf cs).2.dropWhile (· != ':'))
      (NamedClass.posix? (String.ofList ((negatedOf cs).2.takeWhile (· != ':'))))
  | _ => return none

theorem named?_apply (s : ReadState) :
    ClassReader.named? s = takeNamed (namedOf s.flags s.rest) s := by
  have hrun : ClassReader.named? s = namedFrom s.flags s.rest s := rfl
  rw [hrun]
  refine congrFun ?_ s
  unfold namedFrom namedOf
  split
  · unfold afterName
    split <;> rfl
  · rfl

/-- No class has a name with a closing parenthesis. -/
theorem posix?_eq_none {name : List Char} (h : ')' ∈ name) :
    NamedClass.posix? (String.ofList name) = none := by
  unfold NamedClass.posix?
  split
  case h_15 => rfl
  all_goals
    rename_i heq
    rw [← String.toList_ofList (l := name), heq] at h
    exact absurd h (by decide)

theorem negatedOf_append (cs after : List Char) :
    negatedOf (cs ++ ')' :: after) = ((negatedOf cs).1, (negatedOf cs).2 ++ ')' :: after) := by
  unfold negatedOf
  cases cs with
  | nil => rfl
  | cons c cs =>
    by_cases h : c = '^'
    · subst h
      rfl
    · simp [h]

/-- A name up to a mark and what is left after it, in a longer text: either the name has not ended,
or both are as before. -/
theorem cutName_append {mark : Char} (hmark : ')' ≠ mark) (cs after : List Char) :
    (cs.dropWhile (· != mark) = [] ∧
      ')' ∈ (cs ++ ')' :: after).takeWhile (· != mark)) ∨
    (cs.dropWhile (· != mark) ≠ [] ∧
      (cs ++ ')' :: after).takeWhile (· != mark) = cs.takeWhile (· != mark) ∧
      (cs ++ ')' :: after).dropWhile (· != mark) =
        cs.dropWhile (· != mark) ++ ')' :: after) := by
  induction cs with
  | nil => exact Or.inl ⟨rfl, by simp [hmark]⟩
  | cons c cs ih =>
    by_cases h : c = mark
    · subst h
      exact Or.inr (by simp)
    · rcases ih with ⟨hdrop, hmem⟩ | ⟨hdrop, htake, hdrop'⟩
      · exact Or.inl ⟨by simpa [h] using hdrop, by simp [h, hmem]⟩
      · exact Or.inr ⟨by simpa [h] using hdrop, by simp [h, htake], by simp [h, hdrop']⟩

theorem namedOf_append (f : Flags) (cs after : List Char) :
    namedOf f (cs ++ ')' :: after) = (namedOf f cs).map fun p => (p.1, p.2 ++ ')' :: after) := by
  match cs with
  | [] => rfl
  | [c] =>
    by_cases h : c = '['
    · subst h
      rfl
    · simp [namedOf, h]
  | c :: d :: cs =>
    by_cases hc : c = '['
    case neg => simp [namedOf, hc]
    by_cases hd : d = ':'
    case neg => simp [namedOf, hd]
    · subst hc hd
      simp only [namedOf, List.cons_append, negatedOf_append]
      rcases cutName_append (by decide : ')' ≠ ':') (negatedOf cs).2 after with ⟨hdrop, hmem⟩ | ⟨hdrop, htake, hdrop'⟩
      · rw [hdrop, posix?_eq_none hmem]
        simp
      · rw [htake, hdrop']
        obtain ⟨e, es, he⟩ := List.exists_cons_of_ne_nil hdrop
        rw [he]
        by_cases h : e = ':'
        · subst h
          cases es with
          | nil => simp
          | cons e' es =>
            by_cases h' : e' = ']'
            · subst h'
              cases NamedClass.posix? _ <;> rfl
            · simp [h']
        · simp [h]

theorem length_namedOf {f : Flags} {cs after : List Char} {p : ClassPart}
    (h : namedOf f cs = some (p, after)) : after.length ≤ cs.length := by
  have hneg : ∀ cs, (negatedOf cs).2.length ≤ cs.length := by
    intro cs
    unfold negatedOf
    split
    · exact Nat.le_succ _
    · exact Nat.le_refl _
  unfold namedOf at h
  split at h
  · rename_i cs
    split at h
    · rename_i after' _ heq _
      obtain ⟨-, rfl⟩ := Prod.mk.inj (Option.some.inj h)
      have hle := (List.dropWhile_sublist (l := (negatedOf cs).2) (· != ':')).length_le
      rw [heq] at hle
      have := hneg cs
      simp only [List.length_cons] at hle ⊢
      omega
    · exact nomatch h
  · exact nomatch h

theorem named? : Local ClassReader.named? := by
  have hadv : Advancing ClassReader.named? := by
    intro s a t hs
    rw [named?_apply] at hs
    cases h : namedOf s.flags s.rest with
    | none =>
      rw [h] at hs
      obtain ⟨-, rfl⟩ := Prod.mk.inj (Option.some.inj hs)
      exact .refl _
    | some p =>
      rw [h] at hs
      obtain ⟨-, rfl⟩ := Prod.mk.inj (Option.some.inj hs)
      exact ⟨length_namedOf h, Nat.le_refl _⟩
  refine ⟨hadv, fun _ => hadv, fun s a t hs => Or.inl fun x => Or.inr ?_⟩
  rw [named?_apply] at hs ⊢
  have hx : namedOf (s.extend x).flags (s.extend x).rest = _ := namedOf_append s.flags s.rest x.after
  rw [hx]
  cases h : namedOf s.flags s.rest with
  | none =>
    rw [h] at hs
    obtain ⟨rfl, rfl⟩ := Prod.mk.inj (Option.some.inj hs)
    rfl
  | some p =>
    rw [h] at hs
    obtain ⟨rfl, rfl⟩ := Prod.mk.inj (Option.some.inj hs)
    rfl

theorem operation? : Local ClassReader.operation? :=
  (eat (by decide)).bind fun _ => ite (pure _) <| (eat (by decide)).bind fun _ => ite (pure _) <|
    (eat (by decide)).bind fun _ => ite (pure _) (pure _)

theorem advancing_parts {inner : Read ClassPart} (hinner : Local inner) (n : Nat)
    (pending : Option ClassReader.Pending) (done : List ClassPart) :
    Advancing (ClassReader.parts inner n pending done) := by
  induction n generalizing pending done with
  | zero => exact refuse.advancing
  | succ n ih =>
    refine space.advancing.bind fun _ => flags.advancing.bind fun f => peek.advancing.bind fun c => ?_
    split
    · exact (drop 1).advancing.bind fun _ => (pure _).advancing
    · refine named?.advancing.bind fun p => ?_
      split
      · exact ih _ _
      · exact hinner.advancing.bind fun _ => ih _ _
    · refine operation?.advancing.bind fun o => ?_
      split
      · exact ih _ _
      · exact range.advancing.bind fun _ => ih _ _

theorem parts {inner : Read ClassPart} (hinner : Local inner) (n : Nat) (k : Extension → Nat)
    (pending : Option ClassReader.Pending) (done : List ClassPart) :
    Follows (fun _ => id) (ClassReader.parts inner n pending done) fun x =>
      ClassReader.parts inner (k x) pending done := by
  induction n generalizing k pending done with
  | zero => exact Follows.ofRefuse fun x => advancing_parts hinner _ _ _
  | succ n ih =>
    have h : Follows (fun _ => id) (ClassReader.parts inner (n + 1) pending done) fun x =>
        ClassReader.parts inner (k x - 1 + 1) pending done := by
      refine space.bindFollows fun _ => flags.bindFollows fun f => peek.bindFollows fun c => ?_
      split
      · exact (drop 1).bind fun _ => pure _
      · refine named?.bindFollows fun p => ?_
        split
        · exact ih _ _ _
        · exact hinner.bindFollows fun _ => ih _ _ _
      · refine operation?.bindFollows fun o => ?_
        split
        · exact ih _ _ _
        · exact range.bindFollows fun _ => ih _ _ _
    refine h.orRefuse fun x => ?_
    cases k x with
    | zero => exact Or.inr rfl
    | succ k => exact Or.inl rfl

/-- After the hyphens something is left, so a bound that is large enough is never met. -/
theorem hyphens_follows (n : Nat) (s : ReadState) (a : List ClassPart) (t : ReadState)
    (hn : s.rest.length < n) (h : ClassReader.hyphens n s = some (a, t)) (x : Extension) (k : Nat)
    (hk : (s.extend x).rest.length < k) :
    ClassReader.hyphens k (s.extend x) = none ∨
      ClassReader.hyphens k (s.extend x) = some (a, t.extend x) := by
  induction n generalizing s a t k with
  | zero => omega
  | succ n ih =>
    obtain ⟨k, rfl⟩ := Nat.exists_eq_add_one_of_ne_zero (n := k) (by omega)
    have hrun : ∀ n, ClassReader.hyphens (n + 1) = do
        if (← Read.peek) = '-' then
          Read.step
          let more ← ClassReader.hyphens n
          return ⟨[⟨'-'.toNat, '-'.toNat⟩], 0⟩ :: more
        else return [] := fun n => rfl
    rw [hrun] at h ⊢
    obtain ⟨c, u, hc, hnext⟩ := bind_eq_some h
    obtain ⟨rfl, cs, hrest⟩ := peek_eq_some hc
    have hc' : Read.peek (u.extend x) = some (c, u.extend x) := by
      obtain ⟨rest, f, groups, names⟩ := u
      subst hrest
      rfl
    rw [bind_apply, hc', Option.bind_some]
    by_cases heq : c = '-'
    · simp only [if_pos heq] at hnext ⊢
      obtain ⟨_, v, hv, hnext⟩ := bind_eq_some hnext
      obtain ⟨more, w, hmore, hw⟩ := bind_eq_some hnext
      obtain ⟨rfl, rfl⟩ := Prod.mk.inj (Option.some.inj hw)
      have hlt := length_step_lt (by simp [hrest]) hv
      rcases step.follows u () v hv with hsame | ⟨hnil, -⟩
      · rcases hsame x with hnone | hsome
        · exact Or.inl (by rw [bind_apply, hnone]; rfl)
        · rw [bind_apply, hsome, Option.bind_some, bind_apply]
          have hle : (v.extend x).rest.length < k := by
            rw [length_extend] at hk ⊢
            omega
          rcases ih v more w (by omega) hmore k hle with hnone | hsome
          · exact Or.inl (by rw [hnone]; rfl)
          · exact Or.inr (by rw [hsome]; rfl)
      · -- the next round finds no character
        obtain ⟨n, rfl⟩ := Nat.exists_eq_add_one_of_ne_zero (n := n) (by
          rw [hrest, List.length_cons] at hn
          omega)
        rw [hrun] at hmore
        obtain ⟨d, u', hd, -⟩ := bind_eq_some hmore
        obtain ⟨-, ds, hds⟩ := peek_eq_some hd
        rw [hnil] at hds
        exact nomatch hds
    · simp only [if_neg heq] at hnext ⊢
      obtain ⟨rfl, rfl⟩ := Prod.mk.inj (Option.some.inj hnext)
      exact Or.inr rfl

theorem advancing_hyphens (n : Nat) : Advancing (ClassReader.hyphens n) := by
  induction n with
  | zero => exact (pure []).advancing
  | succ n ih =>
    refine peek.advancing.bind fun c => ?_
    split
    · exact step.advancing.bind fun _ => ih.bind fun _ => (pure _).advancing
    · exact (pure []).advancing

theorem allHyphens : Local (do ClassReader.hyphens ((← rest).length + 1)) where
  advancing s a t hs := advancing_hyphens _ s a t hs
  advancing_extended _ s a t hs := advancing_hyphens _ s a t hs
  follows s a t hs := Or.inl fun x =>
    hyphens_follows _ s a t (Nat.lt_succ_self _) hs x _ (Nat.lt_succ_self _)

theorem bracketed (n : Nat) : Local (ClassReader.bracketed n) := by
  induction n with
  | zero => exact refuse
  | succ n ih =>
    unfold ClassReader.bracketed
    refine step.bind fun _ => peek.bind fun c => ?_
    extract_lets negated inside body
    have hinside : ∀ first, Local (inside first) := fun first => flags.bind fun f =>
      bindRest (Follows.onRest fun cs cs' => parts ih _ (fun x => (cs' x).length + 1) _ _) fun _ => pure _
    have hbody : ∀ u, Local (body u) := fun _ =>
      allHyphens.bindRest fun first => peek.bind fun d =>
        ite (step.bind fun _ => peek.bind fun _ => (pure _).bind hinside)
          ((pure _).bind hinside)
    exact ite (step.bind hbody) (hbody ())

theorem set : Local ClassReader.set :=
  (bracketed _).bind fun _ => flags.bind fun _ => ite refuse (pure _)

end Microtemplate.Regex.Read.Local
