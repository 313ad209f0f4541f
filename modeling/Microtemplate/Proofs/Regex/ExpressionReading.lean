import Microtemplate.Proofs.Regex.ClassReading

/-!
Reading a whole expression that stands in a group of a larger one. What is read there is the same
expression, with larger numbers for its groups where others come before it.
-/

namespace Microtemplate.Regex

@[simp] theorem shift_sequence (k : Nat) (es : List Regex) :
    (sequence es).shift k = sequence (es.map (shift k)) := by
  induction es with
  | nil => rfl
  | cons e es ih =>
    cases es with
    | nil => rfl
    | cons e' es => simp only [sequence, shift, List.map_cons, ih]

@[simp] theorem shift_times (k n : Nat) (e : Regex) : (times e n).shift k = times (e.shift k) n := by
  simp [times]

@[simp] theorem shift_atMost (k n : Nat) (greedy : Bool) (e : Regex) :
    (atMost greedy e n).shift k = atMost greedy (e.shift k) n := by
  induction n with
  | zero => rfl
  | succ n ih =>
    cases n with
    | zero => rfl
    | succ n => simp only [atMost, shift, ih]

@[simp] theorem shift_atLeast (k n : Nat) (greedy : Bool) (e : Regex) :
    (atLeast greedy e n).shift k = atLeast greedy (e.shift k) n := by
  match n with
  | 0 => rfl
  | 1 => rfl
  | n + 2 => simp [atLeast, shift]

/-- Repeating an expression does not look at the numbers of its groups. -/
theorem Count.shift_apply (k : Nat) (n : Count) (greedy : Bool) (e : Regex) :
    (n.apply greedy e).shift k = n.apply greedy (e.shift k) := by
  unfold Count.apply
  split
  · exact shift_atLeast ..
  · rfl
  · exact shift_atMost ..
  · split
    · exact shift_times ..
    · simp [shift]

namespace Part

/-- A part with larger numbers for its groups. -/
def shift (k : Nat) (p : Part) : Part := { p with regex := p.regex.shift k }

theorem shift_ofSet (k : Nat) (s : CharSet) : (ofSet s).shift k = ofSet s := rfl

theorem measure_map_shift (k : Nat) (parts : List Part) :
    measure (parts.map (shift k)) = measure parts := by
  simp only [measure, List.map_map]
  rfl

theorem map_regex_shift (k : Nat) (parts : List Part) :
    (parts.map (shift k)).map (·.regex) = (parts.map (·.regex)).map (Regex.shift k) := by
  simp only [List.map_map]
  rfl

theorem row_cons_cons (p q : Part) (ps : List Part) :
    row (p :: q :: ps) = ⟨sequence ((p :: q :: ps).map (·.regex)),
      1 + (measure (p :: q :: ps)).1, (measure (p :: q :: ps)).2, true⟩ := rfl

theorem shift_row (k : Nat) (parts : List Part) :
    (row parts).shift k = row (parts.map (shift k)) := by
  match parts with
  | [] => rfl
  | [p] => rfl
  | p :: q :: parts =>
    rw [List.map_cons, List.map_cons, row_cons_cons, row_cons_cons]
    simp only [← List.map_cons, measure_map_shift, map_regex_shift]
    rw [shift, shift_sequence]

theorem shift_anyOf (k : Nat) (es : List Regex) :
    (anyOf es).shift k = anyOf (es.map (Regex.shift k)) := by
  induction es with
  | nil => rfl
  | cons e es ih =>
    cases es with
    | nil => rfl
    | cons e' es => simp only [anyOf, Regex.shift, List.map_cons, ih]

theorem choice_cons_cons (p q : Part) (ps : List Part) :
    choice (p :: q :: ps) = ⟨anyOf ((p :: q :: ps).map (·.regex)),
      1 + (measure (p :: q :: ps)).1, 1 + (measure (p :: q :: ps)).2, true⟩ := rfl

theorem shift_choice (k : Nat) (parts : List Part) :
    (choice parts).shift k = choice (parts.map (shift k)) := by
  match parts with
  | [] => rfl
  | [p] => rfl
  | p :: q :: parts =>
    rw [List.map_cons, List.map_cons, choice_cons_cons, choice_cons_cons]
    simp only [← List.map_cons, measure_map_shift, map_regex_shift]
    rw [shift, shift_anyOf]

end Part

namespace Read

open Reader

namespace Local

theorem lazyMark : Local Reader.lazyMark := eat (by decide)

theorem counts : Local Reader.counts := by
  unfold Reader.counts
  refine step.bind fun _ => peek.bind fun _ => count.bind fun least => peek.bind fun c => ?_
  split
  · refine step.bind fun _ => peek.bind fun d => ite (step.bind fun _ => pure _) ?_
    refine count.bind fun most => peek.bind fun d => ?_
    extract_lets close
    have hclose : ∀ u, Local (close u) := fun _ => ite refuse (pure _)
    exact ite (step.bind hclose) (refuse.bind hclose)
  · exact step.bind fun _ => pure _
  · exact refuse

end Local

namespace Follows

variable {α : Type} {lift : Nat → α → α}

theorem pure (a : α) : Follows lift (Pure.pure a) fun x => Pure.pure (lift x.groups a) where
  advancing := (Local.pure a).advancing
  advancing_extended _ := (Local.pure _).advancing
  follows s b t h := by
    obtain ⟨rfl, rfl⟩ := Prod.mk.inj (Option.some.inj h)
    exact Or.inl fun x => Or.inr rfl

/-- Readers that do in each state what others do which follow each other. -/
theorem of_agrees {m : Read α} {m' : Extension → Read α} (hadv : ∀ x, Advancing (m' x))
    (h : ∀ s a t, m s = some (a, t) → ∃ n n', Follows lift n n' ∧ m s = n s ∧
      ∀ x, m' x (s.extend x) = n' x (s.extend x)) : Follows lift m m' := by
  refine ⟨fun s a t hs => ?_, hadv, fun s a t hs => ?_⟩
  · obtain ⟨n, n', hn, heq, -⟩ := h s a t hs
    exact hn.advancing s a t (heq ▸ hs)
  · obtain ⟨n, n', hn, heq, hx⟩ := h s a t hs
    simp only [hx]
    exact hn.follows s a t (heq ▸ hs)

/-- Readers that look at the next character; the end is like a closing parenthesis to them. -/
theorem onHead {f : Char → Read α} {f' : Extension → Char → Read α}
    (hf : ∀ c, Follows lift (f c) fun x => f' x c) :
    Follows lift (do f ((← rest).headD ')')) (fun x => do f' x ((← rest).headD ')')) := by
  have hrun : ∀ (f : Char → Read α) (s : ReadState),
      (do f ((← rest).headD ')')) s = f (s.rest.headD ')') s := fun _ _ => rfl
  have hhead : ∀ (s : ReadState) (x : Extension),
      (s.extend x).rest.headD ')' = s.rest.headD ')' := by
    intro s x
    cases hs : s.rest <;> simp [ReadState.extend, hs]
  refine of_agrees (fun x s => (hf (s.rest.headD ')')).advancing_extended x s) fun s _ _ _ => ?_
  refine ⟨_, _, hf (s.rest.headD ')'), hrun f s, fun x => ?_⟩
  rw [hrun, hhead]

end Follows

theorem shift_literal (k : Nat) (f : Flags) (c : Char) : (literal f c).shift k = literal f c := by
  unfold literal
  split
  · exact Part.shift_ofSet ..
  · split
    · exact Part.shift_ofSet ..
    · exact Part.shift_ofSet ..

theorem primitive_follows : Follows Part.shift primitive fun _ => primitive := by
  have hpure : ∀ p : Part, (∀ k, p.shift k = p) →
      Follows Part.shift (Pure.pure p) fun _ => Pure.pure p := by
    intro p hp
    have h : Follows Part.shift (Pure.pure p) fun x => Pure.pure (p.shift x.groups) := .pure p
    simpa only [hp] using h
  have hrefuse : Follows Part.shift refuse fun _ => refuse :=
    Follows.ofRefuse fun _ => Local.refuse.advancing
  unfold primitive
  refine Local.flags.bindFollows fun f => Local.peek.bindFollows fun c => ?_
  split
  · refine Local.escape.bindFollows fun e => ?_
    split
    · exact hpure _ fun k => shift_literal k f _
    · split
      · exact hrefuse
      · exact hpure _ fun _ => rfl
    · exact hpure _ fun _ => rfl
  · refine (Local.drop 1).bindFollows fun _ => ?_
    split
    · exact hpure _ fun _ => rfl
    · exact hrefuse
  · exact (Local.drop 1).bindFollows fun _ => hpure _ fun _ => rfl
  · exact (Local.drop 1).bindFollows fun _ => hpure _ fun _ => rfl
  · exact (Local.drop 1).bindFollows fun _ => hpure _ fun k => shift_literal k f _

theorem repetition_follows (last : Option Part) (n : Count) :
    Follows Part.shift (repetition last n) fun x =>
      repetition (last.map (Part.shift x.groups)) n := by
  unfold repetition
  refine Local.lazyMark.bindFollows fun isLazy => Local.flags.bindFollows fun f => ?_
  cases last with
  | none => exact Follows.ofRefuse fun x => Local.refuse.advancing
  | some p =>
    simp only [Option.map_some, Part.shift]
    split
    · exact Follows.ofRefuse fun x => Local.refuse.advancing
    · simp only [← Count.shift_apply]
      exact Follows.pure _

/-- What stands at a character in a group, and the rest of the group. -/
def bodyAt (group : Read Part) (bound : Nat) (branches done : List Part) (c : Char) : Read Part :=
  if c = ')' then return Part.choice ((Part.row done.reverse :: branches).reverse)
  else if c = '|' then do
    drop 1
    body group bound (Part.row done.reverse :: branches) []
  else if c = '(' then do
    let p ← group
    body group bound branches (p :: done)
  else if c = '[' then do
    let s ← ClassReader.set
    body group bound branches ({ Part.ofSet s.ranges with nesting := s.nesting } :: done)
  else if c = '?' then do
    drop 1
    let p ← repetition done.head? ⟨0, some 1⟩
    body group bound branches (p :: done.tail)
  else if c = '*' then do
    drop 1
    let p ← repetition done.head? ⟨0, none⟩
    body group bound branches (p :: done.tail)
  else if c = '+' then do
    drop 1
    let p ← repetition done.head? ⟨1, none⟩
    body group bound branches (p :: done.tail)
  else if c = '\x7b' then do
    let n ← counts
    let p ← repetition done.head? n
    body group bound branches (p :: done.tail)
  else do
    let p ← primitive
    body group bound branches (p :: done)

theorem body_succ (group : Read Part) (n : Nat) (branches done : List Part) :
    body group (n + 1) branches done = (do
      space
      bodyAt group n branches done ((← rest).headD ')')) := by
  rw [body]
  refine congrArg (bind space) (funext fun _ => congrArg (bind rest) (funext fun cs => ?_))
  cases cs with
  | nil => rfl
  | cons c cs =>
    rw [List.headD_cons, bodyAt]
    split <;> simp_all

theorem advancing_repetition (last : Option Part) (n : Count) : Advancing (repetition last n) :=
  (repetition_follows last n).advancing

theorem advancing_body {group : Read Part} (hgroup : Advancing group) (n : Nat)
    (branches done : List Part) : Advancing (body group n branches done) := by
  induction n generalizing branches done with
  | zero => exact Local.refuse.advancing
  | succ n ih =>
    rw [body_succ]
    refine Local.space.advancing.bind fun _ => ?_
    refine Advancing.bind (m := rest) (fun s a t h => ?_) fun cs => ?_
    · obtain ⟨-, rfl⟩ := Prod.mk.inj (Option.some.inj h)
      exact .refl _
    · unfold bodyAt
      have hdrop : Advancing (drop 1) := (Local.drop 1).advancing
      split
      · exact (Local.pure _).advancing
      split
      · exact hdrop.bind fun _ => ih _ _
      split
      · exact hgroup.bind fun _ => ih _ _
      split
      · exact Local.set.advancing.bind fun _ => ih _ _
      split
      · exact hdrop.bind fun _ => (advancing_repetition _ _).bind fun _ => ih _ _
      split
      · exact hdrop.bind fun _ => (advancing_repetition _ _).bind fun _ => ih _ _
      split
      · exact hdrop.bind fun _ => (advancing_repetition _ _).bind fun _ => ih _ _
      split
      · exact Local.counts.advancing.bind fun _ => (advancing_repetition _ _).bind fun _ => ih _ _
      · exact primitive_follows.advancing.bind fun _ => ih _ _

section

variable {group : Read Part} {group' : Extension → Read Part}

/-- A repeated part and the rest of the group. -/
theorem repeat_follows (hgroup : Follows Part.shift group group') {n : Nat} {k : Extension → Nat}
    (ih : ∀ branches done : List Part, Follows Part.shift (body group n branches done) fun x =>
      body (group' x) (k x) (branches.map (Part.shift x.groups)) (done.map (Part.shift x.groups)))
    (branches done : List Part) (c : Count) :
    Follows Part.shift (do body group n branches ((← repetition done.head? c) :: done.tail))
      (fun x => do
        body (group' x) (k x) (branches.map (Part.shift x.groups))
          ((← repetition (done.map (Part.shift x.groups)).head? c) ::
            (done.map (Part.shift x.groups)).tail)) := by
  simp only [List.head?_map, ← List.map_tail]
  refine (repetition_follows done.head? c).bind (fun p => ?_) fun x p =>
    advancing_body (hgroup.advancing_extended x) _ _ _
  simpa only [List.map_cons, List.map_tail] using ih branches (p :: done.tail)

theorem bodyAt_follows (hgroup : Follows Part.shift group group') {n : Nat} {k : Extension → Nat}
    (ih : ∀ branches done : List Part, Follows Part.shift (body group n branches done) fun x =>
      body (group' x) (k x) (branches.map (Part.shift x.groups)) (done.map (Part.shift x.groups)))
    (branches done : List Part) (c : Char) :
    Follows Part.shift (bodyAt group n branches done c) fun x =>
      bodyAt (group' x) (k x) (branches.map (Part.shift x.groups))
        (done.map (Part.shift x.groups)) c := by
  unfold bodyAt
  have hplain : ∀ (p : Part), (∀ k, p.shift k = p) → Follows Part.shift
      (body group n branches (p :: done)) fun x => body (group' x) (k x)
        (branches.map (Part.shift x.groups)) (p :: done.map (Part.shift x.groups)) := by
    intro p hp
    simpa only [List.map_cons, hp] using ih branches (p :: done)
  split
  · have h : Follows Part.shift
        (Pure.pure (Part.choice ((Part.row done.reverse :: branches).reverse))) fun x =>
        Pure.pure ((Part.choice ((Part.row done.reverse :: branches).reverse)).shift x.groups) :=
      .pure _
    simpa only [Part.shift_choice, Part.shift_row, List.map_reverse, List.map_cons] using h
  split
  · refine (Local.drop 1).bindFollows fun _ => ?_
    simpa only [List.map_cons, List.map_nil, Part.shift_row, List.map_reverse] using
      ih (Part.row done.reverse :: branches) []
  split
  · refine hgroup.bind (fun p => ?_) fun x p => advancing_body (hgroup.advancing_extended x) _ _ _
    exact ih branches (p :: done)
  split
  · exact Local.set.bindFollows fun s => hplain _ fun _ => rfl
  split
  · exact (Local.drop 1).bindFollows fun _ => repeat_follows hgroup ih branches done _
  split
  · exact (Local.drop 1).bindFollows fun _ => repeat_follows hgroup ih branches done _
  split
  · exact (Local.drop 1).bindFollows fun _ => repeat_follows hgroup ih branches done _
  split
  · exact Local.counts.bindFollows fun _ => repeat_follows hgroup ih branches done _
  · refine primitive_follows.bind (fun p => ?_) fun x p =>
      advancing_body (hgroup.advancing_extended x) _ _ _
    exact ih branches (p :: done)

theorem body_follows (hgroup : Follows Part.shift group group') (n : Nat) (k : Extension → Nat)
    (branches done : List Part) :
    Follows Part.shift (body group n branches done) fun x =>
      body (group' x) (k x) (branches.map (Part.shift x.groups))
        (done.map (Part.shift x.groups)) := by
  induction n generalizing k branches done with
  | zero => exact Follows.ofRefuse fun x => advancing_body (hgroup.advancing_extended x) _ _ _
  | succ n ih =>
    have h : Follows Part.shift (body group (n + 1) branches done) fun x =>
        body (group' x) (k x - 1 + 1) (branches.map (Part.shift x.groups))
          (done.map (Part.shift x.groups)) := by
      simp only [body_succ]
      exact Local.space.bindFollows fun _ => Follows.onHead fun c =>
        bodyAt_follows hgroup (fun branches done => ih (fun x => k x - 1) branches done) branches
          done c
    refine h.orRefuse fun x => ?_
    cases k x with
    | zero => exact Or.inr rfl
    | succ k => exact Or.inl rfl

theorem content_follows (hgroup : Follows Part.shift group group') (outer : Flags) :
    Follows Part.shift (content group outer) fun x => content (group' x) outer := by
  have hadv : ∀ p : Part, Advancing
      (do if (← peek) = ')' then drop 1; setFlags outer; return p else refuse) :=
    fun p => (Local.peek.bind fun _ => Local.ite ((Local.drop 1).bind fun _ =>
      (Local.setFlags outer).bind fun _ => Local.pure p) Local.refuse).advancing
  have hbody : Follows Part.shift (do body group ((← rest).length + 1) [] [])
      (fun x => do body (group' x) ((← rest).length + 1) [] []) :=
    Follows.onRest fun cs cs' => body_follows hgroup _ (fun x => (cs' x).length + 1) [] []
  refine hbody.bindRest (fun p => Local.peek.bindFollows fun c => ?_) fun _ p => hadv p
  split
  · exact (Local.drop 1).bindFollows fun _ => (Local.setFlags outer).bindFollows fun _ =>
      Follows.pure p
  · exact Follows.ofRefuse fun _ => Local.refuse.advancing

end

/-- The number of the next group is larger where groups come before. -/
theorem nextGroup_follows : Follows (fun k i => k + i) nextGroup fun _ => nextGroup := by
  have hadv : Advancing nextGroup := by
    intro s a t h
    obtain ⟨-, rfl⟩ := Prod.mk.inj (Option.some.inj h)
    exact ⟨Nat.le_refl _, Nat.le_succ _⟩
  refine ⟨hadv, fun _ => hadv, fun s a t h => Or.inl fun x => Or.inr ?_⟩
  obtain ⟨rfl, rfl⟩ := Prod.mk.inj (Option.some.inj h)
  rfl

/-- The name of a group after which a text is left. -/
def nameOf? (cs : List Char) : Option (String × List Char) :=
  match cs.takeWhile (· != '>'), cs.dropWhile (· != '>') with
  | c :: more, _ :: after =>
    if isNamePart true c && more.all (isNamePart false) then
      some (String.ofList (c :: more), after)
    else none
  | _, _ => none

theorem groupName_apply (s : ReadState) :
    groupName s = (nameOf? s.rest).bind fun p =>
      if s.names.contains p.1 then none
      else some ((), { s with rest := p.2, names := p.1 :: s.names }) := by
  let from_ (cs : List Char) : Read Unit :=
    let name := cs.takeWhile (· != '>')
    match name, cs.dropWhile (· != '>') with
    | c :: more, _ :: after =>
      if isNamePart true c && more.all (isNamePart false) then do
        let s ← get
        if s.names.contains (String.ofList name) then refuse
        else set { s with rest := after, names := String.ofList name :: s.names }
      else refuse
    | _, _ => refuse
  have hfrom : ∀ cs, from_ cs = fun s => (nameOf? cs).bind fun p =>
      if s.names.contains p.1 then none
      else some ((), { s with rest := p.2, names := p.1 :: s.names }) := by
    intro cs
    simp only [from_, nameOf?]
    split
    · rename_i c more d after hname _
      split
      · rw [hname]
        funext s
        have hrun : (do
            let s ← get
            if s.names.contains (String.ofList (c :: more)) then refuse
            else set ({ s with rest := after, names := String.ofList (c :: more) :: s.names } :
              ReadState) : Read Unit) s =
            (if s.names.contains (String.ofList (c :: more)) then refuse
            else set ({ s with rest := after, names := String.ofList (c :: more) :: s.names } :
              ReadState) : Read Unit) s := rfl
        rw [hrun, Option.bind_some]
        split <;> rfl
      · rfl
    · rfl
  exact congrFun (hfrom s.rest) s

theorem nameOf?_append {cs : List Char} {name : String} {left : List Char}
    (h : nameOf? cs = some (name, left)) (after : List Char) :
    nameOf? (cs ++ ')' :: after) = some (name, left ++ ')' :: after) := by
  unfold nameOf? at h ⊢
  rcases Local.cutName_append (by decide : ')' ≠ '>') cs after with
    ⟨hdrop, -⟩ | ⟨-, htake, hdrop⟩
  · rw [hdrop] at h
    simp at h
  · rw [htake, hdrop]
    split at h
    · rename_i c more d left' hname hleft
      split at h
      · obtain ⟨rfl, rfl⟩ := Prod.mk.inj (Option.some.inj h)
        rename_i hok
        simp only [hname, hleft, List.cons_append, hok, if_true]
      · exact nomatch h
    · exact nomatch h

theorem length_nameOf? {cs : List Char} {name : String} {left : List Char}
    (h : nameOf? cs = some (name, left)) : left.length ≤ cs.length := by
  unfold nameOf? at h
  split at h
  · rename_i c more d left' hname hleft
    split at h
    · obtain ⟨-, rfl⟩ := Prod.mk.inj (Option.some.inj h)
      have hle := (List.dropWhile_sublist (l := cs) (· != '>')).length_le
      rw [hleft, List.length_cons] at hle
      omega
    · exact nomatch h
  · exact nomatch h

theorem groupName_local : Local groupName := by
  have hadv : Advancing groupName := by
    intro s a t h
    rw [groupName_apply] at h
    obtain ⟨p, hp, h⟩ := Option.bind_eq_some_iff.mp h
    split at h
    · exact nomatch h
    · obtain ⟨-, rfl⟩ := Prod.mk.inj (Option.some.inj h)
      exact ⟨length_nameOf? hp, Nat.le_refl _⟩
  refine ⟨hadv, fun _ => hadv, fun s a t h => Or.inl fun x => ?_⟩
  rw [groupName_apply] at h ⊢
  obtain ⟨p, hp, h⟩ := Option.bind_eq_some_iff.mp h
  have hx : nameOf? (s.extend x).rest = some (p.1, p.2 ++ ')' :: x.after) :=
    nameOf?_append hp x.after
  rw [hx, Option.bind_some]
  split at h
  · exact nomatch h
  · obtain ⟨-, rfl⟩ := Prod.mk.inj (Option.some.inj h)
    split
    · exact Or.inl rfl
    · exact Or.inr rfl

/-- Letters of flags end at a colon or a closing parenthesis of their own. -/
theorem flagLetters_append {cs : List Char} {value : Bool} {seen : List Char} {f f' : Flags}
    {left : List Char} (h : flagLetters cs value seen f = some (f', left)) :
    (∃ letters c ds, cs = letters ++ c :: ds ∧ left = c :: ds) ∧
    ∀ after, flagLetters (cs ++ after) value seen f = some (f', left ++ after) := by
  induction cs generalizing value seen f with
  | nil => exact nomatch h
  | cons c cs ih =>
    have hlonger : (∃ letters d ds, cs = letters ++ d :: ds ∧ left = d :: ds) →
        ∃ letters d ds, c :: cs = letters ++ d :: ds ∧ left = d :: ds := by
      rintro ⟨letters, d, ds, rfl, hleft⟩
      exact ⟨c :: letters, d, ds, rfl, hleft⟩
    simp only [flagLetters] at h
    simp only [List.cons_append, flagLetters]
    split at h
    · rename_i hc
      split at h
      · exact nomatch h
      · rename_i hok
        obtain ⟨rfl, rfl⟩ := Prod.mk.inj (Option.some.inj h)
        refine ⟨⟨[], c, cs, rfl, rfl⟩, fun after => ?_⟩
        rw [if_pos hc, if_neg hok]
        rfl
    · rename_i hc
      simp only [if_neg hc]
      split at h
      · exact nomatch h
      · rename_i hseen
        simp only [if_neg hseen]
        split at h
        · rename_i hdash
          simp only [if_pos hdash]
          exact (ih h).imp_left hlonger
        · rename_i hdash
          simp only [if_neg hdash]
          obtain ⟨f1, hf1, h⟩ := Option.bind_eq_some_iff.mp h
          simp only [hf1, Option.bind_some]
          exact (ih h).imp_left hlonger

/-- A group whose flags have been read, after the character that ends them. -/
def flagged (inner : Read Part) (outer f : Flags) (unset : Bool) (c : Char) : Read Part :=
  if c = ')' then
    if unset then refuse
    else do
      setFlags f
      return ⟨.empty, 0, 0, false⟩
  else do
    setFlags f
    let p ← content inner outer
    return ⟨p.regex, 1 + p.nesting, p.weight, true⟩

/-- A group after its question mark, given the text that is left. -/
def flagGroup (inner : Read Part) (outer : Flags) (before : List Char) : Read Part :=
  match flagLetters before true [] outer with
  | some (f, c :: cs) => do
    setRest cs
    flagged inner outer f (before.head? == some ')') c
  | _ => refuse

/-- A capture group after its name, if it has one. -/
def captured (inner : Read Part) (outer : Flags) (name : Read Unit) : Read Part := do
  let i ← nextGroup
  name
  let p ← content inner outer
  return ⟨.group i p.regex, 1 + p.nesting, 2 + p.weight, true⟩

theorem group_succ (levels : Nat) : Reader.group (levels + 1) = (do
    let outer ← flags
    drop 1
    space
    if ← comesNext ["?=", "?!", "?<=", "?<!"] then refuse
    if ← comesNext ["?P<", "?<"] then
      if !(← eat "?P<") then drop 2
      captured (Reader.group levels) outer groupName
    else if ← eat "?" then flagGroup (Reader.group levels) outer (← rest)
    else captured (Reader.group levels) outer (return ())) := rfl

theorem advancing_rest : Advancing rest := by
  intro s a t h
  obtain ⟨-, rfl⟩ := Prod.mk.inj (Option.some.inj h)
  exact .refl _

theorem advancing_content {inner : Read Part} (hinner : Advancing inner) (outer : Flags) :
    Advancing (content inner outer) :=
  advancing_rest.bind fun _ => (advancing_body hinner _ _ _).bind fun _ =>
    (Local.peek.bind fun _ => Local.ite ((Local.drop 1).bind fun _ =>
      (Local.setFlags outer).bind fun _ => Local.pure _) Local.refuse).advancing

theorem advancing_captured {inner : Read Part} (hinner : Advancing inner) (outer : Flags)
    {name : Read Unit} (hname : Advancing name) : Advancing (captured inner outer name) :=
  nextGroup_follows.advancing.bind fun _ => hname.bind fun _ =>
    (advancing_content hinner outer).bind fun _ => (Local.pure _).advancing

theorem advancing_flagged {inner : Read Part} (hinner : Advancing inner) (outer f : Flags)
    (unset : Bool) (c : Char) : Advancing (flagged inner outer f unset c) := by
  unfold flagged
  split
  · split
    · exact Local.refuse.advancing
    · exact ((Local.setFlags f).bind fun _ => Local.pure _).advancing
  · exact (Local.setFlags f).advancing.bind fun _ => (advancing_content hinner outer).bind fun _ =>
      (Local.pure _).advancing

theorem drop_bind_apply {α : Type} (n : Nat) (m : Read α) (s : ReadState) :
    (do drop n; m) s = m { s with rest := s.rest.drop n } := rfl

theorem setRest_bind_apply {α : Type} (cs : List Char) (m : Read α) (s : ReadState) :
    (do setRest cs; m) s = m { s with rest := cs } := rfl

/-- The letters of flags are gone over, and what ends them, in each extended state alike. -/
theorem flagGroup_eq_drop {inner : Read Part} {outer : Flags} {s t : ReadState} {p : Part}
    (h : flagGroup inner outer s.rest s = some (p, t)) :
    ∃ n f unset c, (∀ inner', flagGroup inner' outer s.rest s =
        (do drop n; flagged inner' outer f unset c) s) ∧
      ∀ (inner' : Read Part) (x : Extension), flagGroup inner' outer (s.extend x).rest (s.extend x) =
        (do drop n; flagged inner' outer f unset c) (s.extend x) := by
  obtain ⟨cs, flags, groups, names⟩ := s
  cases hletters : flagLetters cs true [] outer with
  | none =>
    simp only [flagGroup, hletters] at h
    exact nomatch h
  | some p =>
    obtain ⟨f, left⟩ := p
    obtain ⟨⟨letters, c, ds, rfl, rfl⟩, happend⟩ := flagLetters_append hletters
    refine ⟨letters.length + 1, f, (letters ++ c :: ds).head? == some ')', c, fun inner' => ?_,
      fun inner' x => ?_⟩
    · have hdrop : (letters ++ c :: ds).drop (letters.length + 1) = ds := by simp
      simp only [flagGroup, hletters]
      rw [drop_bind_apply, setRest_bind_apply]
      simp only [hdrop]
    · have hdrop : (letters ++ c :: ds ++ ')' :: x.after).drop (letters.length + 1) =
          ds ++ ')' :: x.after := by simp
      have hhead : (letters ++ c :: ds ++ ')' :: x.after).head? = (letters ++ c :: ds).head? := by
        cases letters <;> rfl
      rw [drop_bind_apply, flagGroup]
      simp only [ReadState.extend]
      rw [happend]
      simp only [List.cons_append]
      rw [setRest_bind_apply, hhead]
      simp only [hdrop]

theorem advancing_flagGroup {inner : Read Part} (hinner : Advancing inner) (outer : Flags) :
    Advancing (do flagGroup inner outer (← rest)) := by
  intro s p t h
  have h : flagGroup inner outer s.rest s = some (p, t) := h
  obtain ⟨n, f, unset, c, heq, -⟩ := flagGroup_eq_drop h
  rw [heq] at h
  exact (Local.drop n).advancing.bind (fun _ => advancing_flagged hinner outer f unset c) s p t h

section

variable {inner : Read Part} {inner' : Extension → Read Part}

theorem flagged_follows (hinner : Follows Part.shift inner inner') (outer f : Flags) (unset : Bool)
    (c : Char) :
    Follows Part.shift (flagged inner outer f unset c) fun x =>
      flagged (inner' x) outer f unset c := by
  unfold flagged
  split
  · split
    · exact Follows.ofRefuse fun _ => Local.refuse.advancing
    · exact (Local.setFlags f).bindFollows fun _ => Follows.pure _
  · refine (Local.setFlags f).bindFollows fun _ => (content_follows hinner outer).bind
      (fun p => Follows.pure _) fun _ _ => (Local.pure _).advancing

theorem flagGroup_follows (hinner : Follows Part.shift inner inner') (outer : Flags) :
    Follows Part.shift (do flagGroup inner outer (← rest))
      (fun x => do flagGroup (inner' x) outer (← rest)) := by
  refine Follows.of_agrees
    (fun x => advancing_flagGroup (hinner.advancing_extended x) outer) fun s p t h => ?_
  have h : flagGroup inner outer s.rest s = some (p, t) := h
  obtain ⟨n, f, unset, c, heq, heq'⟩ := flagGroup_eq_drop h
  exact ⟨_, _, (Local.drop n).bindFollows fun _ => flagged_follows hinner outer f unset c,
    heq inner, fun x => heq' (inner' x) x⟩

theorem captured_follows (hinner : Follows Part.shift inner inner') (outer : Flags)
    {name : Read Unit} (hname : Local name) :
    Follows Part.shift (captured inner outer name) fun x => captured (inner' x) outer name :=
  nextGroup_follows.bind
    (fun _ => hname.bindFollows fun _ => (content_follows hinner outer).bind
      (fun _ => Follows.pure _) fun _ _ => (Local.pure _).advancing)
    fun x _ => hname.advancing.bind fun _ =>
      (advancing_content (hinner.advancing_extended x) outer).bind fun _ => (Local.pure _).advancing

end

theorem advancing_group (levels : Nat) : Advancing (Reader.group levels) := by
  induction levels with
  | zero => exact Local.refuse.advancing
  | succ levels ih =>
    rw [group_succ]
    refine Local.flags.advancing.bind fun outer => (Local.drop 1).advancing.bind fun _ =>
      Local.space.advancing.bind fun _ => (Local.comesNext (by decide)).advancing.bind fun _ => ?_
    extract_lets afterName opening
    have hnamed : ∀ u, Advancing (afterName u) := fun _ =>
      advancing_captured ih outer groupName_local.advancing
    have hopening : ∀ u, Advancing (opening u) := by
      refine fun _ => (Local.comesNext (by decide)).advancing.bind fun named => ?_
      split
      · refine (Local.eat (by decide)).advancing.bind fun _ => ?_
        split
        · exact (Local.drop 2).advancing.bind hnamed
        · exact hnamed ()
      · refine (Local.eat (by decide)).advancing.bind fun _ => ?_
        split
        · exact advancing_flagGroup ih outer
        · exact advancing_captured ih outer (Local.pure ()).advancing
    split
    · exact Local.refuse.advancing.bind hopening
    · exact hopening ()

/-- A group is read alike where it stands in a larger expression, whatever levels are left. -/
theorem group_follows (levels : Nat) (levels' : Extension → Nat) :
    Follows Part.shift (Reader.group levels) fun x => Reader.group (levels' x) := by
  induction levels generalizing levels' with
  | zero => exact Follows.ofRefuse fun x => advancing_group (levels' x)
  | succ levels ih =>
    have hinner := ih fun x => levels' x - 1
    have h : Follows Part.shift (Reader.group (levels + 1)) fun x =>
        Reader.group (levels' x - 1 + 1) := by
      simp only [group_succ]
      refine Local.flags.bindFollows fun outer => (Local.drop 1).bindFollows fun _ =>
        Local.space.bindFollows fun _ => (Local.comesNext (by decide)).bindFollows fun ahead => ?_
      split
      · exact Follows.ofRefuse fun x => Local.refuse.advancing
      refine (Local.comesNext (by decide)).bindFollows fun named => ?_
      split
      · refine (Local.eat (by decide)).bindFollows fun long => ?_
        split
        · exact (Local.drop 2).bindFollows fun _ => captured_follows hinner outer groupName_local
        · exact captured_follows hinner outer groupName_local
      · refine (Local.eat (by decide)).bindFollows fun flagged => ?_
        split
        · exact flagGroup_follows hinner outer
        · exact captured_follows hinner outer (Local.pure ())
    refine h.orRefuse fun x => ?_
    cases levels' x with
    | zero => exact Or.inr rfl
    | succ n => exact Or.inl rfl

end Read

end Microtemplate.Regex
