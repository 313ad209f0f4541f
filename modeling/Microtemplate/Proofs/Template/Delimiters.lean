import Microtemplate.Proofs.Template.RegionSearch

/-!
What the patterns of the default settings match. Each of them is an opening delimiter, a lazy
repetition of any character in a capture group, and the closing delimiter: it matches nowhere but
at its opening delimiter, and then up to the first closing one.
-/

namespace Microtemplate

namespace Regex

open Text (byteLength byteLength_append)

/-- The spot after a text that comes next. -/
def Spot.skip (s : Spot) (w : List Char) : Spot :=
  ⟨s.offset + byteLength w, w.getLast?.or s.previous, s.rest.drop w.length⟩

theorem Spot.skip_spans {s : Spot} {w rest : List Char} (h : s.rest = w ++ rest) :
    s.Spans w (s.skip w) where
  rest := by simp [Spot.skip, h]
  offset := rfl
  previous := rfl

theorem Spot.rest_skip {s : Spot} {w rest : List Char} (h : s.rest = w ++ rest) :
    (s.skip w).rest = rest := by
  simp [Spot.skip, h]

theorem Spot.skip_append {s : Spot} {v w rest : List Char} (h : s.rest = v ++ w ++ rest) :
    s.skip (v ++ w) = (s.skip v).skip w := by
  have hv : s.rest = v ++ (w ++ rest) := by rw [h, List.append_assoc]
  have hw : (s.skip v).rest = w ++ rest := Spot.rest_skip hv
  exact (Spot.skip_spans h).unique ((Spot.skip_spans hv).trans (Spot.skip_spans hw))

theorem head?_ends_append (a b : Regex) (s : Spot) (c : Captures) :
    (ends (append a b) s c).head? =
      (ends a s c).findSome? fun x => (ends b x.1 x.2).head? := by
  rw [ends, Ends.head?_distinct, List.head?_flatMap]

theorem holds_single (c d : Char) : (CharSet.single c).holds d = (d == c) := by
  have hcode : (c.toNat ≤ d.toNat && d.toNat ≤ c.toNat) = (d == c) := by
    by_cases h : d = c
    · simp [h]
    · have hne : d.toNat ≠ c.toNat := fun he => h (Char.toNat_inj.mp he)
      rw [beq_false_of_ne h, Bool.and_eq_false_iff, decide_eq_false_iff_not,
        decide_eq_false_iff_not]
      omega
  simpa [CharSet.single, CharSet.holds, Unicode.CharRange.anyHolds, Unicode.CharRange.holds]
    using hcode

theorem holds_all (c : Char) : CharSet.all.holds c = true := by
  have hle : c.toNat ≤ CharSet.lastCode := by
    have hvalid : c.toNat < 0xd800 ∨ (0xdfff < c.toNat ∧ c.toNat < 0x110000) := c.valid
    rw [CharSet.lastCode]
    omega
  simp [CharSet.all, CharSet.holds, Unicode.CharRange.anyHolds, Unicode.CharRange.holds, hle]

/-- The spots after each of the characters that are left. -/
def spotsAfter (offset : Nat) : List Char → List Spot
  | [] => []
  | c :: cs => ⟨offset + c.utf8Size, some c, cs⟩ :: spotsAfter (offset + c.utf8Size) cs

theorem ends_all_cons (offset : Nat) (previous : Option Char) (d : Char) (ds : List Char)
    (c : Captures) : ends (one CharSet.all) ⟨offset, previous, d :: ds⟩ c =
      [(⟨offset + d.utf8Size, some d, ds⟩, c)] := by
  simp only [ends, holds_all, if_true]

/-- A lazy repetition of any character ends after each character, the first ones first. -/
theorem ends_rounds (n offset : Nat) (previous : Option Char) (cs : List Char) (c : Captures)
    (r : Rounds) (hn : cs.length < n)
    (hfresh : ∀ i, offset < i → r.started.has i = false ∧ r.ended.has i = false) :
    (rounds (ends (one CharSet.all)) false n ⟨offset, previous, cs⟩ c r).ends =
      ((spotsAfter offset cs).map (·, c)).reverse ++ r.ends := by
  induction cs generalizing n offset previous r with
  | nil =>
    cases n with
    | zero => cases hn
    | succ n => rfl
  | cons d ds ih =>
    cases n with
    | zero => cases hn
    | succ n =>
      have hlt : offset < offset + d.utf8Size := Nat.lt_add_of_pos_right d.utf8Size_pos
      obtain ⟨hstarted, hended⟩ := hfresh _ hlt
      have hagain : (r.started.add offset).has (offset + d.utf8Size) = false := by
        rw [OffsetSet.has_add, hstarted, Bool.false_or]
        exact beq_false_of_ne (Nat.ne_of_lt hlt)
      simp only [rounds, ends_all_cons, List.foldl_cons, List.foldl_nil, Bool.false_eq_true,
        if_false, Rounds.leave, hended, hagain]
      rw [ih _ _ _ _ (Nat.lt_of_succ_lt_succ hn)]
      · simp [spotsAfter]
      · intro i hi
        obtain ⟨hstarted, hended⟩ := hfresh i (by omega)
        simp only [OffsetSet.has_add, hstarted, hended, Bool.false_or]
        exact ⟨beq_false_of_ne (by omega), beq_false_of_ne (by omega)⟩

theorem ends_plus_all (s : Spot) (c : Captures) :
    ends (plus false (one CharSet.all)) s c = (spotsAfter s.offset s.rest).map (·, c) := by
  rw [ends, ends_rounds _ _ _ _ _ _ (Nat.lt_succ_self _) fun i _ => ?_]
  · simp [Rounds.none]
  · exact ⟨OffsetSet.has_empty i, OffsetSet.has_empty i⟩

/-- A character and then an expression. -/
theorem head?_ends_single (d : Char) (e : Regex) (s : Spot) (c : Captures) :
    (ends (append (one (CharSet.single d)) e) s c).head? =
      if s.rest.head? = some d then (ends e (s.skip [d]) c).head? else none := by
  rw [head?_ends_append]
  obtain ⟨offset, previous, cs⟩ := s
  cases cs with
  | nil => rfl
  | cons x xs =>
    simp only [ends, holds_single, List.head?_cons, Option.some.injEq]
    by_cases h : x = d
    · subst h
      simp [Spot.skip, byteLength]
    · simp [h]

/-- The closing delimiter. -/
def closing : Regex := append (one (CharSet.single '%')) (one (CharSet.single '>'))

theorem head?_ends_closing (s : Spot) (c : Captures) :
    (ends closing s c).head? =
      if ['%', '>'] <+: s.rest then some (s.skip ['%', '>'], c) else none := by
  rw [closing, head?_ends_single]
  obtain ⟨offset, previous, cs⟩ := s
  cases cs with
  | nil => rfl
  | cons x xs =>
    by_cases hx : x = '%'
    · subst hx
      cases xs with
      | nil => rfl
      | cons y ys =>
        by_cases hy : y = '>'
        · subst hy
          simp [Spot.skip, ends, holds_single, byteLength, Nat.add_assoc]
        · have hy' : ¬ '>' = y := fun h => hy h.symm
          simp [Spot.skip, ends, holds_single, hy, hy']
    · have hx' : ¬ '%' = x := fun h => hx h.symm
      simp [hx, hx']

/-- What lies inside a region, and the closing delimiter. -/
def inside : Regex := append (group 1 (plus false (one CharSet.all))) closing

/-- The pattern of a region with the given opening delimiter. -/
def delimited (opening : List Char) : Regex :=
  opening.foldr (fun d e => append (one (CharSet.single d)) e) inside

theorem head?_ends_delimited (opening : List Char) (s : Spot) (c : Captures) :
    (ends (delimited opening) s c).head? =
      if opening <+: s.rest then (ends inside (s.skip opening) c).head? else none := by
  induction opening generalizing s with
  | nil => simp [delimited, Spot.skip, byteLength]
  | cons d ds ih =>
    have hcons : delimited (d :: ds) = append (one (CharSet.single d)) (delimited ds) := rfl
    rw [hcons, head?_ends_single, ih]
    by_cases h : d :: ds <+: s.rest
    · obtain ⟨rest, hrest⟩ := h
      have hd : s.rest.head? = some d := by rw [← hrest]; rfl
      have hds : ds <+: (s.skip [d]).rest := ⟨rest, (Spot.rest_skip (w := [d]) hrest.symm).symm⟩
      rw [if_pos hd, if_pos hds, if_pos ⟨rest, hrest⟩]
      rw [← Spot.skip_append (v := [d]) (w := ds) hrest.symm, List.singleton_append]
    · rw [if_neg h]
      split
      · rename_i hd
        rw [if_neg]
        rintro ⟨rest, hrest⟩
        refine h ⟨rest, ?_⟩
        cases hs : s.rest with
        | nil =>
          rw [hs] at hd
          cases hd
        | cons x xs =>
          rw [hs] at hd
          obtain rfl := Option.some.inj hd
          rw [Spot.rest_skip (w := [x]) hs] at hrest
          rw [← hrest]
          rfl
      · rfl

/-- Of the ends of a lazy repetition the first one counts that something may follow. -/
theorem findSome?_spotsAfter {β : Type} {f : Spot → Option β} {b : β} {s : Spot}
    {inner rest : List Char} (h : s.rest = inner ++ rest) (hne : inner ≠ [])
    (hinner : ∀ t : Spot, ∀ d ∈ inner, t.rest.head? = some d → f t = none)
    (hb : f (s.skip inner) = some b) : (spotsAfter s.offset s.rest).findSome? f = some b := by
  obtain ⟨offset, previous, cs⟩ := s
  simp only at h
  subst h
  induction inner generalizing offset previous with
  | nil => exact absurd rfl hne
  | cons d ds ih =>
    have hskip : Spot.skip ⟨offset, previous, d :: (ds ++ rest)⟩ (d :: ds) =
        Spot.skip ⟨offset + d.utf8Size, some d, ds ++ rest⟩ ds :=
      Spot.skip_append (v := [d]) (w := ds) rfl
    rw [List.cons_append, hskip] at hb
    rw [List.cons_append, spotsAfter, List.findSome?_cons]
    cases ds with
    | nil =>
      change f ⟨offset + d.utf8Size, some d, rest⟩ = some b at hb
      simp only [List.nil_append, hb]
    | cons e es =>
      -- what is inside goes on here, so the repetition does too
      have hmore : f ⟨offset + d.utf8Size, some d, e :: es ++ rest⟩ = none :=
        hinner _ e (by simp) rfl
      rw [hmore]
      exact ih (by simp) (fun t x hx => hinner t x (List.mem_cons_of_mem d hx)) _ _ hb

theorem head?_ends_inside {s : Spot} {inner rest : List Char}
    (h : s.rest = inner ++ ['%', '>'] ++ rest) (hne : inner ≠ []) (hinner : '%' ∉ inner) :
    (ends inside s []).head? =
      some (s.skip (inner ++ ['%', '>']), [(1, s, s.skip inner)]) := by
  have hrest : (s.skip inner).rest = ['%', '>'] ++ rest :=
    Spot.rest_skip (by rw [h, List.append_assoc])
  rw [inside, head?_ends_append, ends, ends_plus_all, List.map_map, List.findSome?_map]
  have happend : s.rest = inner ++ (['%', '>'] ++ rest) := by rw [h, List.append_assoc]
  refine findSome?_spotsAfter happend hne (fun t d hd ht => ?_) ?_
  · simp only [Function.comp, head?_ends_closing]
    refine if_neg ?_
    rintro ⟨more, hmore⟩
    rw [← hmore] at ht
    obtain rfl := Option.some.inj ht
    exact hinner hd
  · simp only [Function.comp, head?_ends_closing, List.filter_nil]
    rw [if_pos ⟨rest, hrest.symm⟩, Spot.skip_append h]

/-- A region is matched where its opening delimiter stands and the closing one follows. -/
theorem matchAt?_delimited {opening inner rest : List Char} {s : Spot}
    (h : s.rest = opening ++ (inner ++ ['%', '>']) ++ rest) (hne : inner ≠ [])
    (hinner : '%' ∉ inner) :
    (delimited opening).matchAt? s = some ⟨s, s.skip (opening ++ (inner ++ ['%', '>'])),
      [(1, s.skip opening, s.skip (opening ++ inner))]⟩ := by
  have hopening : s.rest = opening ++ (inner ++ ['%', '>'] ++ rest) := by
    rw [h, List.append_assoc]
  have hinside : s.rest = opening ++ inner ++ (['%', '>'] ++ rest) := by
    rw [h]
    simp only [List.append_assoc]
  rw [matchAt?, head?_ends_delimited, if_pos ⟨_, hopening.symm⟩,
    head?_ends_inside (Spot.rest_skip hopening) hne hinner, Spot.skip_append h,
    Spot.skip_append hinside]
  rfl

/-- No region is matched where its opening delimiter does not stand. -/
theorem matchAt?_delimited_eq_none {opening : List Char} {s : Spot} (h : ¬ opening <+: s.rest) :
    (delimited opening).matchAt? s = none := by
  rw [matchAt?, head?_ends_delimited, if_neg h]
  rfl

end Regex

open Regex (delimited Found Spot)

/-- The opening delimiter of a region in the default settings. -/
def Region.opening : Region → List Char
  | escape => ['<', '%', '-']
  | interpolate => ['<', '%', '=']
  | evaluate => ['<', '%']

namespace Settings

theorem ofText?_defaultSource (r : Region) :
    Regex.ofText? (defaultSource r).toList = some (delimited r.opening) := by
  cases r <;> decide +kernel

/-- The pattern of a region in the default settings. -/
def defaultPattern (r : Region) : Pattern :=
  ⟨defaultSource r, defaultSource r, true, delimited r.opening, ofText?_defaultSource r⟩

theorem default_pattern (r : Region) : default.pattern r = some (defaultPattern r) := by
  have hbuild : Pattern.build (defaultSource r) _ true = _ :=
    Pattern.build_eq_ok (ofText?_defaultSource r)
  simp only [default, Pattern.ofSource, hbuild]
  rfl

end Settings

end Microtemplate
