import Mathlib.Data.List.TakeWhile
import Microtemplate.Proofs.Template.Combination

/-!
The scan against a search with the patterns one by one. From a spot on, the leftmost place counts at
which the pattern of some region matches, and there the first of these regions. The scan finds the
same regions one after the other, up to the first one whose capture group has taken no part.
-/

namespace Microtemplate

open Regex (Captures Closed Found Spot)
open Text (byteLength)

namespace Settings

/-- The first region whose own pattern matches at a spot, with the match. -/
def matchAt? (s : Settings) (spot : Spot) : Option (Region × Found) :=
  Region.all.findSome? fun r => (s.pattern r).bind fun p => (p.regex.matchAt? spot).map (r, ·)

/-- The leftmost match of the patterns at or after a spot. -/
def Leftmost (s : Settings) (spot : Spot) (m : Region × Found) : Prop :=
  ∃ gap, spot.Spans gap m.2.start ∧ s.matchAt? m.2.start = some m ∧
    ∀ w t, spot.Spans w t → w.length < gap.length → s.matchAt? t = none

/-- No pattern matches at or after a spot. -/
def Exhausted (s : Settings) (spot : Spot) : Prop := ∀ w t, spot.Spans w t → s.matchAt? t = none

/-- An empty match where the match before it has ended. It does not count. -/
def Stale (last : Option Nat) (f : Found) : Prop := f.isEmpty = true ∧ last = some f.stop.offset

/-- The matches of the patterns from a spot on, given where the match before it has ended. Where the
leftmost match is empty and directly after the one before it, the search goes on one character
further. -/
inductive Finds (s : Settings) : Option Nat → Spot → List (Region × Found) → Prop
  | exhausted {last : Option Nat} {spot : Spot} (h : s.Exhausted spot) : Finds s last spot []
  | found {last : Option Nat} {spot : Spot} {m : Region × Found} {more : List (Region × Found)}
      (h : s.Leftmost spot m) (hnew : ¬ Stale last m.2)
      (hmore : Finds s (some m.2.stop.offset) m.2.stop more) : Finds s last spot (m :: more)
  | staleEnd {last : Option Nat} {spot : Spot} {old : Region × Found} (h : s.Leftmost spot old)
      (hold : Stale last old.2) (hend : ∀ t, spot.next? = some t → s.Exhausted t) :
      Finds s last spot []
  | stale {last : Option Nat} {spot t : Spot} {old m : Region × Found}
      {more : List (Region × Found)} (h : s.Leftmost spot old) (hold : Stale last old.2)
      (hnext : spot.next? = some t) (hm : s.Leftmost t m)
      (hmore : Finds s (some m.2.stop.offset) m.2.stop more) : Finds s last spot (m :: more)

end Settings

/-- Whether the capture group of a region has taken part in a match. -/
def tookPart (m : Region × Found) : Bool := (m.2.group? 1).isSome

/-- The match of a region in a template; what has taken no part has matched nothing. -/
def Match.ofFound (m : Region × Found) : Match :=
  .region m.1 m.2.start.offset m.2.text ((m.2.group? 1).getD [])

namespace Settings

theorem Leftmost.unique {s : Settings} {spot : Spot} {m m' : Region × Found}
    (h : s.Leftmost spot m) (h' : s.Leftmost spot m') : m = m' := by
  obtain ⟨gap, hgap, hm, hfirst⟩ := h
  obtain ⟨gap', hgap', hm', hfirst'⟩ := h'
  have hle : gap.length ≤ gap'.length := by
    refine Nat.le_of_not_lt fun hlt => ?_
    rw [hfirst gap' _ hgap' hlt] at hm'
    cases hm'
  have hge : gap'.length ≤ gap.length := by
    refine Nat.le_of_not_lt fun hlt => ?_
    rw [hfirst' gap _ hgap hlt] at hm
    cases hm
  have heq : gap = gap' := by
    have happend : gap ++ m.2.start.rest = gap' ++ m'.2.start.rest :=
      hgap.rest.symm.trans hgap'.rest
    exact (List.append_inj happend (by omega)).1
  subst heq
  rw [hgap.unique hgap', hm'] at hm
  exact (Option.some.inj hm).symm

theorem Leftmost.not_exhausted {s : Settings} {spot : Spot} {m : Region × Found}
    (h : s.Leftmost spot m) : ¬ s.Exhausted spot := by
  intro hex
  obtain ⟨gap, hgap, hm, -⟩ := h
  rw [hex gap _ hgap] at hm
  cases hm

theorem Leftmost.here {s : Settings} {m : Region × Found} (h : s.matchAt? m.2.start = some m) :
    s.Leftmost m.2.start m :=
  ⟨[], .refl _, h, fun _ _ _ hlt => absurd hlt (Nat.not_lt_zero _)⟩

section Next

variable {s : Settings} {offset : Nat} {previous : Option Char} {c : Char} {cs : List Char}

/-- Where nothing matches at a spot, a match from there on is one from the next spot on. -/
theorem matchAt?_eq_none_or_next (hnone : s.matchAt? ⟨offset, previous, c :: cs⟩ = none)
    {w : List Char} {t : Spot} (hw : Spot.Spans ⟨offset, previous, c :: cs⟩ w t) :
    s.matchAt? t = none ∨ ∃ v, w = [c] ++ v ∧ Spot.Spans ⟨offset + c.utf8Size, some c, cs⟩ v t := by
  cases w with
  | nil => exact Or.inl (hw.unique (Spot.Spans.refl _) ▸ hnone)
  | cons d v =>
    obtain ⟨rfl, -⟩ := List.cons.inj hw.rest
    exact Or.inr ⟨v, rfl, hw.of_append (Spot.Spans.one ..)⟩

theorem Leftmost.of_next {m : Region × Found} (h : s.Leftmost ⟨offset + c.utf8Size, some c, cs⟩ m)
    (hnone : s.matchAt? ⟨offset, previous, c :: cs⟩ = none) :
    s.Leftmost ⟨offset, previous, c :: cs⟩ m := by
  obtain ⟨gap, hgap, hm, hfirst⟩ := h
  refine ⟨[c] ++ gap, (Spot.Spans.one ..).trans hgap, hm, fun w t hw hlt => ?_⟩
  rcases matchAt?_eq_none_or_next hnone hw with hnone | ⟨v, rfl, hv⟩
  · exact hnone
  · refine hfirst v t hv ?_
    simp only [List.length_append] at hlt
    omega

theorem Exhausted.of_next (h : s.Exhausted ⟨offset + c.utf8Size, some c, cs⟩)
    (hnone : s.matchAt? ⟨offset, previous, c :: cs⟩ = none) :
    s.Exhausted ⟨offset, previous, c :: cs⟩ := by
  intro w t hw
  rcases matchAt?_eq_none_or_next hnone hw with hnone | ⟨v, -, hv⟩
  · exact hnone
  · exact h v t hv

theorem Exhausted.of_end (hnone : s.matchAt? ⟨offset, previous, []⟩ = none) :
    s.Exhausted ⟨offset, previous, []⟩ := by
  intro w t hw
  obtain ⟨rfl, -⟩ := List.append_eq_nil_iff.mp hw.rest.symm
  exact hw.unique (Spot.Spans.refl _) ▸ hnone

end Next

/-- The patterns find the same matches however they are searched. -/
theorem Finds.unique {s : Settings} {last : Option Nat} {spot : Spot}
    {found found' : List (Region × Found)} (h : s.Finds last spot found)
    (h' : s.Finds last spot found') : found = found' := by
  induction h generalizing found' with
  | exhausted h =>
    cases h' with
    | exhausted => rfl
    | staleEnd => rfl
    | found hm => exact absurd h hm.not_exhausted
    | stale hm => exact absurd h hm.not_exhausted
  | found h hnew _ ih =>
    cases h' with
    | exhausted hex => exact absurd hex h.not_exhausted
    | found h2 _ hmore =>
      obtain rfl := h.unique h2
      rw [ih hmore]
    | staleEnd h2 hold => exact absurd (h.unique h2 ▸ hold) hnew
    | stale h2 hold => exact absurd (h.unique h2 ▸ hold) hnew
  | staleEnd h hold hend =>
    cases h' with
    | exhausted => rfl
    | staleEnd => rfl
    | found h2 hnew => exact absurd (h.unique h2 ▸ hold) hnew
    | stale _ _ hnext hm => exact absurd (hend _ hnext) hm.not_exhausted
  | stale h hold hnext hm _ ih =>
    cases h' with
    | exhausted hex => exact absurd hex h.not_exhausted
    | found h2 hnew => exact absurd (h.unique h2 ▸ hold) hnew
    | staleEnd _ _ hend => exact absurd (hend _ hnext) hm.not_exhausted
    | stale _ _ hnext2 hm2 hmore =>
      obtain rfl := Option.some.inj (hnext.symm.trans hnext2)
      obtain rfl := hm.unique hm2
      rw [ih hmore]

end Settings

namespace Region

/-- How many groups come before the group of a region. -/
def index : Region → Nat
  | escape => 0
  | interpolate => 1
  | evaluate => 2

end Region

namespace Scanner

/-- The match of a region in the combined expression. -/
def lift (m : Region × Found) : Found :=
  ⟨m.2.start, m.2.stop, m.2.captures.shift m.1.index⟩

/-- The combined expression matches where the patterns do, and else at the end of the text. -/
structure Combines (s : Settings) (e : Regex) : Prop where
  matchAt? : ∀ spot, e.matchAt? spot = match s.matchAt? spot with
    | some m => some (lift m)
    | none => if spot.rest.isEmpty then some ⟨spot, spot, []⟩ else none
  captures : ∀ spot m, s.matchAt? spot = some m → ∀ p ∈ m.2.captures, p.1 = 1

/-- What the source of a region reads as: an expression that can stand in a group, has one capture
group, and matches where the pattern of the region does. -/
structure Branch (s : Settings) (r : Region) (source : String) (e : Regex) : Prop where
  reads : Regex.ofText? source.toList = some e
  closed : Closed source.toList
  groupCount : e.groupCount = 1
  matchAt? : ∀ spot, e.matchAt? spot = (s.pattern r).bind (·.regex.matchAt? spot)

/-- The expression of a region that is off. -/
def offRegex : Regex := .append (.group 1 (.one (Regex.Reader.dot .initial))) (.look .textStart)

theorem ofText?_offSource : Regex.ofText? offSource.toList = some offRegex := rfl

theorem closed_offSource : Closed offSource.toList := by
  unfold Closed
  rfl

/-- No text starts after a character. -/
theorem matchAt?_offRegex (spot : Spot) : offRegex.matchAt? spot = none := by
  obtain ⟨offset, previous, rest⟩ := spot
  cases rest with
  | nil => rfl
  | cons c cs =>
    cases h : (Regex.Reader.dot .initial).holds c <;>
      simp [Regex.matchAt?, offRegex, Regex.ends, h, Regex.Look.holds, Regex.Ends.distinct,
        Regex.Ends.distinctFrom]

theorem branch_of_branchSource {s : Settings}
    (hclosed : ∀ r p, s.pattern r = some p → Closed p.source.toList) {r : Region} {source : String}
    (h : branchSource s r = .ok source) : ∃ e, Branch s r source e := by
  unfold branchSource at h
  split at h
  · rename_i hoff
    obtain rfl := Except.ok.inj h
    refine ⟨offRegex, ofText?_offSource, closed_offSource, rfl, fun spot => ?_⟩
    rw [matchAt?_offRegex, hoff]
    rfl
  · rename_i p hp
    split at h
    · cases h
    · split at h
      · cases h
      · rename_i hcount
        obtain rfl := Except.ok.inj h
        refine ⟨p.regex, p.reads, hclosed r p hp, ?_, fun spot => ?_⟩
        · exact Decidable.not_not.mp hcount
        · rw [hp]
          rfl

/-- What becomes of a combined expression, if its source can be read. -/
def ofRead (source : String) : Option Regex → Except PatternError Scanner
  | none => .error ⟨none, source, .notRegular⟩
  | some regex =>
    if regex.groupCount ≠ 3 then .error ⟨none, source, .combinedGroups⟩ else .ok ⟨regex⟩

/-- Settings are accepted if each region has a source and the combined expression can be read and
has as many groups as there are regions. -/
theorem ofSettings_eq_ok {s : Settings} {scanner : Scanner} :
    ofSettings s = .ok scanner ↔ ∃ a b c, branchSource s .escape = .ok a ∧
      branchSource s .interpolate = .ok b ∧ branchSource s .evaluate = .ok c ∧
      Regex.ofText? (combine [a, b, c]).toList = some scanner.regex ∧
      scanner.regex.groupCount = 3 := by
  have hall : ∀ {a b c : String}, branchSource s .escape = .ok a →
      branchSource s .interpolate = .ok b → branchSource s .evaluate = .ok c →
      ofSettings s =
        ofRead (combine [a, b, c]) (Regex.ofText? (combine [a, b, c]).toList) := by
    intro a b c ha hb hc
    have hmap : Region.all.mapM (branchSource s) = .ok [a, b, c] := by
      simp only [Region.all, List.mapM_cons, List.mapM_nil, ha, hb, hc]
      rfl
    rw [ofSettings, hmap]
    rfl
  constructor
  · intro h
    cases ha : branchSource s .escape with
    | error e =>
      simp only [ofSettings, Region.all, List.mapM_cons, ha] at h
      cases h
    | ok a =>
      cases hb : branchSource s .interpolate with
      | error e =>
        simp only [ofSettings, Region.all, List.mapM_cons, ha, hb] at h
        cases h
      | ok b =>
        cases hc : branchSource s .evaluate with
        | error e =>
          simp only [ofSettings, Region.all, List.mapM_cons, ha, hb, hc] at h
          cases h
        | ok c =>
          rw [hall ha hb hc] at h
          refine ⟨a, b, c, rfl, rfl, rfl, ?_⟩
          cases hread : Regex.ofText? (combine [a, b, c]).toList with
          | none =>
            rw [hread] at h
            cases h
          | some regex =>
            rw [hread, ofRead] at h
            split at h
            · cases h
            · rename_i hcount
              obtain rfl := Except.ok.inj h
              exact ⟨rfl, Decidable.not_not.mp hcount⟩
  · rintro ⟨a, b, c, ha, hb, hc, hread, hcount⟩
    rw [hall ha hb hc, hread, ofRead, if_neg (not_not_intro hcount)]

/-- A branch matches where the pattern of its region does. -/
theorem Branch.map_matchAt? {s : Settings} {r : Region} {source : String} {e : Regex}
    (h : Branch s r source e) (spot : Spot) :
    ((s.pattern r).bind fun p => (p.regex.matchAt? spot).map (r, ·)) =
      (e.matchAt? spot).map (r, ·) := by
  rw [h.matchAt?]
  cases s.pattern r <;> rfl

section Branches

variable {s : Settings} {a b c : String} {ea eb ec : Regex}

/-- The patterns match where the branches do, the earlier region preferred. -/
theorem matchAt?_of_branches (ha : Branch s .escape a ea) (hb : Branch s .interpolate b eb)
    (hc : Branch s .evaluate c ec) (spot : Spot) :
    s.matchAt? spot = ((ea.matchAt? spot).map (Region.escape, ·)).or
      (((eb.matchAt? spot).map (Region.interpolate, ·)).or
        ((ec.matchAt? spot).map (Region.evaluate, ·))) := by
  simp only [Settings.matchAt?, Region.all, List.findSome?_cons, List.findSome?_nil,
    ha.map_matchAt?, hb.map_matchAt?, hc.map_matchAt?]
  cases ea.matchAt? spot <;> cases eb.matchAt? spot <;> cases ec.matchAt? spot <;> rfl

/-- Where the branches have no group but the first one, a match has captured nothing else. -/
theorem captures_of_branches (ha : Branch s .escape a ea) (hb : Branch s .interpolate b eb)
    (hc : Branch s .evaluate c ec) (hone : ∀ e ∈ [ea, eb, ec], ∀ i ∈ e.groupNumbers, i = 1)
    {spot : Spot} {m : Region × Found} (h : s.matchAt? spot = some m) :
    ∀ p ∈ m.2.captures, p.1 = 1 := by
  have hcaptures : ∀ {e : Regex} {r : Region}, e ∈ [ea, eb, ec] →
      (e.matchAt? spot).map (r, ·) = some m → ∀ p ∈ m.2.captures, p.1 = 1 := by
    intro e r he hm p hp
    obtain ⟨f, hf, rfl⟩ := Option.map_eq_some_iff.mp hm
    exact hone e he _ (Regex.mem_groupNumbers_of_matchAt? hf p hp)
  rw [matchAt?_of_branches ha hb hc, Option.or_eq_some_iff, Option.or_eq_some_iff] at h
  rcases h with h | ⟨-, h | ⟨-, h⟩⟩
  · exact hcaptures (by simp) h
  · exact hcaptures (by simp) h
  · exact hcaptures (by simp) h

end Branches

/-- Where settings are accepted, the combined expression tries the patterns in their order. -/
theorem combines_of_ofSettings {s : Settings} {scanner : Scanner} (h : ofSettings s = .ok scanner)
    (hclosed : ∀ r p, s.pattern r = some p → Closed p.source.toList) :
    Combines s scanner.regex := by
  obtain ⟨a, b, c, ha, hb, hc, hread, hcount⟩ := ofSettings_eq_ok.mp h
  obtain ⟨ea, ha⟩ := branch_of_branchSource hclosed ha
  obtain ⟨eb, hb⟩ := branch_of_branchSource hclosed hb
  obtain ⟨ec, hc⟩ := branch_of_branchSource hclosed hc
  obtain ⟨m, n, hm, hn, hpos, heq⟩ := ofText?_combine ha.reads hb.reads hc.reads
    ⟨ha.closed, hb.closed, hc.closed⟩ hread
  rw [heq] at hcount ⊢
  obtain ⟨rfl, rfl⟩ := choiceOf_counts hm hn ⟨ha.groupCount, hb.groupCount, hc.groupCount⟩ hcount
  refine ⟨fun spot => ?_, fun spot m hspot => captures_of_branches ha hb hc ?_ hspot⟩
  · rw [matchAt?_choiceOf, matchAt?_of_branches ha hb hc]
    cases ea.matchAt? spot with
    | some f => simp [lift, Region.index]
    | none =>
      cases eb.matchAt? spot with
      | some f => rfl
      | none => cases ec.matchAt? spot <;> rfl
  · intro e he i hi
    have hle := hc.groupCount ▸ @Regex.le_groupCount ec i
    simp only [List.mem_cons, List.not_mem_nil, or_false] at he
    rcases he with rfl | rfl | rfl
    · have := hm i hi
      omega
    · have := hn i hi
      omega
    · have := hpos i hi
      have := hle hi
      omega

/-- The scan reports the match of a region if its group has taken part, and else nothing. -/
theorem regionOf?_lift {m : Region × Found} (h : ∀ p ∈ m.2.captures, p.1 = 1) :
    regionOf? (lift m) =
      if tookPart m then some (m.1, (m.2.group? 1).getD []) else none := by
  obtain ⟨r, f⟩ := m
  have hown : ∀ i, (f.captures.shift i).get? (i + 1) = f.captures.get? 1 := fun i =>
    Captures.get?_shift i 1 f.captures
  have hother : ∀ i j, j ≠ i + 1 → (f.captures.shift i).get? j = none := by
    intro i j hne
    refine Captures.get?_eq_none fun p hp => ?_
    obtain ⟨q, hq, rfl⟩ := List.mem_map.mp hp
    have := h q hq
    simp only
    omega
  have hget := Option.eq_none_or_eq_some (f.captures.get? 1)
  simp only [regionOf?, Region.all, List.zipIdx_cons, List.zipIdx_nil, List.findSome?_cons,
    List.findSome?_nil, tookPart, lift, Found.group?]
  cases r with
  | escape =>
    simp only [Region.index]
    rw [hown 0, hother 0 2 (by decide), hother 0 3 (by decide)]
    rcases hget with hget | ⟨p, hget⟩ <;> simp [hget]
  | interpolate =>
    simp only [Region.index]
    rw [hown 1, hother 1 1 (by decide), hother 1 3 (by decide)]
    rcases hget with hget | ⟨p, hget⟩ <;> simp [hget]
  | evaluate =>
    simp only [Region.index]
    rw [hown 2, hother 2 1 (by decide), hother 2 2 (by decide)]
    rcases hget with hget | ⟨p, hget⟩ <;> simp [hget]

theorem stale_iff (last : Option Nat) (m : Region × Found) :
    ((lift m).isEmpty && last == some (lift m).stop.offset) = true ↔ Settings.Stale last m.2 := by
  rw [Bool.and_eq_true, beq_iff_eq]
  rfl

section

variable {s : Settings} {e : Regex} (h : Combines s e)

include h

theorem Combines.start_eq {spot : Spot} {m : Region × Found} (hm : s.matchAt? spot = some m) :
    m.2.start = spot := by
  have hat := h.matchAt? spot
  rw [hm] at hat
  exact Regex.matchAt?_start (f := lift m) hat

theorem Combines.spans {spot : Spot} {m : Region × Found} (hm : s.matchAt? spot = some m) :
    spot.Spans m.2.text m.2.stop := by
  have hat := h.matchAt? spot
  rw [hm] at hat
  have hspans := (Regex.matchAt?_sound (f := lift m) hat).spans
  rwa [← h.start_eq hm]

theorem Combines.leftmost {spot : Spot} {m : Region × Found} (hm : s.matchAt? spot = some m) :
    s.Leftmost spot m := by
  obtain rfl := h.start_eq hm
  exact .here hm

/-- The combined expression finds the leftmost match of the patterns, and the end of the text if
there is none. -/
theorem Combines.find? (spot : Spot) :
    (∃ m, s.Leftmost spot m ∧ e.find? spot = some (lift m)) ∨
    (s.Exhausted spot ∧ ∃ t, e.find? spot = some ⟨t, t, []⟩) := by
  obtain ⟨offset, previous, cs⟩ := spot
  simp only [Regex.find?]
  induction cs generalizing offset previous with
  | nil =>
    simp only [Regex.findFrom?, h.matchAt? ⟨offset, previous, []⟩]
    cases hm : s.matchAt? ⟨offset, previous, []⟩ with
    | some m => exact Or.inl ⟨m, h.leftmost hm, rfl⟩
    | none => exact Or.inr ⟨.of_end hm, _, rfl⟩
  | cons c cs ih =>
    simp only [Regex.findFrom?, h.matchAt? ⟨offset, previous, c :: cs⟩]
    cases hm : s.matchAt? ⟨offset, previous, c :: cs⟩ with
    | some m => exact Or.inl ⟨m, h.leftmost hm, rfl⟩
    | none =>
      simp only [List.isEmpty_cons, Bool.false_eq_true, if_false]
      rcases ih (offset + c.utf8Size) (some c) with ⟨m, hleft, hfind⟩ | ⟨hex, t, hfind⟩
      · exact Or.inl ⟨m, hleft.of_next hm, hfind⟩
      · exact Or.inr ⟨hex.of_next hm, t, hfind⟩

/-- Where no pattern matches any more, the scan ends. -/
theorem Combines.regions_findAll_nil {spot : Spot} (hex : s.Exhausted spot) (n : Nat)
    (last : Option Nat) : regions (e.findAll n last spot) = [] := by
  have hend : ∀ spot f, s.Exhausted spot → e.find? spot = some f → regionOf? f = none := by
    intro spot f hex hf
    rcases h.find? spot with ⟨m, hm, -⟩ | ⟨-, t, ht⟩
    · exact absurd hex hm.not_exhausted
    · obtain rfl := Option.some.inj (ht.symm.trans hf)
      rfl
  cases n with
  | zero => rfl
  | succ n =>
    simp only [Regex.findAll]
    split
    · rfl
    · rename_i f hf
      have hnone : regionOf? f = none := by
        unfold Regex.findAfter? at hf
        split at hf
        · cases hf
        · rename_i g hg
          split at hf
          · obtain ⟨t, ht, hf⟩ := Option.bind_eq_some_iff.mp hf
            obtain ⟨c, hc⟩ := Regex.next?_spans ht
            exact hend t f (fun w u hw => hex _ u (hc.trans hw)) hf
          · obtain rfl := Option.some.inj hf
            exact hend spot g hex hg
      simp only [regions, hnone]

/-- The scan goes on after a match. -/
theorem Combines.regions_cons {spot : Spot} {m : Region × Found} (hm : s.matchAt? spot = some m)
    (more : List Found) : regions (lift m :: more) =
      if tookPart m then Match.ofFound m :: regions more else [] := by
  simp only [regions, regionOf?_lift (h.captures spot m hm)]
  split
  · rename_i heq
    split at heq
    · rename_i htook
      obtain ⟨rfl, rfl⟩ := Prod.mk.inj (Option.some.inj heq)
      rw [if_pos htook]
      rfl
    · cases heq
  · rename_i heq
    split at heq
    · cases heq
    · rename_i htook
      rw [if_neg htook]

/-- After a match less text is left to search, or as much if the match before it has not ended
where the search begins. -/
theorem Combines.length_stop {last : Option Nat} {spot : Spot} {m : Region × Found}
    (hm : s.Leftmost spot m) (hnew : ¬ Settings.Stale last m.2) :
    m.2.stop.rest.length + (if last = some spot.offset then 1 else 0) ≤ spot.rest.length := by
  obtain ⟨gap, hgap, hat, -⟩ := hm
  have hspans := hgap.trans (h.spans hat)
  have hlength := congrArg List.length hspans.rest
  rw [List.length_append] at hlength
  split
  · rename_i hlast
    cases hw : gap ++ m.2.text with
    | nil =>
      -- an empty match that starts where the one before it has ended
      obtain ⟨hnil, htext⟩ := List.append_eq_nil_iff.mp hw
      have hstart := hgap.offset
      have hstop := (h.spans hat).offset
      rw [hnil, byteLength] at hstart
      rw [htext, byteLength] at hstop
      refine absurd ⟨?_, ?_⟩ hnew
      · simp only [Found.isEmpty, hstop, Nat.add_zero, BEq.rfl]
      · rw [hlast, hstop, Nat.add_zero, hstart, Nat.add_zero]
    | cons c w =>
      rw [hw, List.length_cons] at hlength
      omega
  · omega

/-- The regions that the scan finds from a spot on are the matches of the patterns, up to the first
one whose group has taken no part. -/
theorem Combines.regions_findAll (n : Nat) (last : Option Nat) (spot : Spot)
    (hn : spot.rest.length + (if last = some spot.offset then 0 else 1) < n) :
    ∃ found, s.Finds last spot found ∧
      regions (e.findAll n last spot) = (found.takeWhile tookPart).map Match.ofFound := by
  induction n generalizing last spot with
  | zero => cases hn
  | succ n ih =>
    -- one more match, and those after it
    have hcons : ∀ m : Region × Found, s.matchAt? m.2.start = some m →
        m.2.stop.rest.length < n → ∃ more, s.Finds (some m.2.stop.offset) m.2.stop more ∧
          regions (lift m :: e.findAll n (some (lift m).stop.offset) (lift m).stop) =
            ((m :: more).takeWhile tookPart).map Match.ofFound := by
      intro m hm hlt
      obtain ⟨more, hmore, heq⟩ := ih (some m.2.stop.offset) m.2.stop (by simpa using hlt)
      refine ⟨more, hmore, ?_⟩
      have hlift : e.findAll n (some (lift m).stop.offset) (lift m).stop =
          e.findAll n (some m.2.stop.offset) m.2.stop := rfl
      rw [h.regions_cons hm, hlift, heq, List.takeWhile_cons]
      split <;> rfl
    rcases h.find? spot with ⟨m, hm, hfind⟩ | ⟨hex, -⟩
    · by_cases hstale : Settings.Stale last m.2
      · have hcond : ((lift m).isEmpty && last == some (lift m).stop.offset) = true :=
          (stale_iff last m).mpr hstale
        cases hnext : spot.next? with
        | none =>
          refine ⟨[], .staleEnd hm hstale fun t ht => ?_, ?_⟩
          · rw [hnext] at ht
            cases ht
          · simp only [Regex.findAll, Regex.findAfter?, hfind, hcond, if_true, hnext]
            rfl
        | some t =>
          have hafter : e.findAfter? last spot = e.find? t := by
            simp only [Regex.findAfter?, hfind, hcond, if_true, hnext, Option.bind_some]
          obtain ⟨c, hc⟩ := Regex.next?_spans hnext
          have hlength := congrArg List.length hc.rest
          simp only [List.length_append, List.length_singleton] at hlength
          rcases h.find? t with ⟨m', hm', hfind'⟩ | ⟨hex, u, hfind'⟩
          · have hfresh : ¬ Settings.Stale none m'.2 := fun hold => by cases hold.2
            have hle := h.length_stop hm' hfresh
            obtain ⟨gap, hgap, hat, hfirst⟩ := hm'
            obtain ⟨more, hmore, heq⟩ := hcons m' hat (by omega)
            refine ⟨m' :: more, .stale hm hstale hnext ⟨gap, hgap, hat, hfirst⟩ hmore, ?_⟩
            simp only [Regex.findAll, hafter, hfind']
            exact heq
          · refine ⟨[], .staleEnd hm hstale fun t' ht' => ?_, ?_⟩
            · obtain rfl := Option.some.inj (hnext.symm.trans ht')
              exact hex
            · simp only [Regex.findAll, hafter, hfind']
              rfl
      · have hcond := Bool.eq_false_iff.mpr fun hold => hstale ((stale_iff last m).mp hold)
        have hle := h.length_stop hm hstale
        obtain ⟨gap, hgap, hat, hfirst⟩ := hm
        obtain ⟨more, hmore, heq⟩ := hcons m hat (by split at hn <;> split at hle <;> omega)
        refine ⟨m :: more, .found ⟨gap, hgap, hat, hfirst⟩ hstale hmore, ?_⟩
        simp only [Regex.findAll, Regex.findAfter?, hfind, hcond]
        exact heq
    · exact ⟨[], .exhausted hex, h.regions_findAll_nil hex _ _⟩

end

/-- A pattern whose capture group takes no part where the second letter is missing. -/
def optionalGroup : Pattern where
  text := "a(b)?"
  source := "a(b)?"
  isGlobal := true
  regex :=
    .append (.one (Regex.CharSet.single 'a'))
      (.optional true (.group 1 (.one (Regex.CharSet.single 'b'))))
  reads := rfl

/-- The settings with this pattern alone. -/
def optionalSettings : Settings := Settings.literal.withPattern .escape (some optionalGroup)

deriving instance DecidableEq for Regex.Look
deriving instance DecidableEq for Regex

theorem ofSettings_optionalSettings : ofSettings optionalSettings =
    .ok ⟨choiceOf optionalGroup.regex offRegex offRegex 1 1⟩ :=
  ofSettings_eq_ok.mpr ⟨optionalGroup.source, offSource, offSource, rfl, rfl, rfl,
    by decide +kernel, rfl⟩

/-- A pattern with a comment that has no end. -/
def openComment : Pattern where
  text := "(?x)(a)#"
  source := "(?x)(a)#"
  isGlobal := true
  regex := .append .empty (.group 1 (.one (Regex.CharSet.single 'a')))
  reads := by decide +kernel

/-- A pattern that starts on a new line. -/
def lineBelow : Pattern where
  text := "\n(b)"
  source := "\n(b)"
  isGlobal := true
  regex :=
    .append (.one (Regex.CharSet.single '\n')) (.group 1 (.one (Regex.CharSet.single 'b')))
  reads := by decide +kernel

/-- A pattern without anything special. -/
def plainLetter : Pattern where
  text := "(c)"
  source := "(c)"
  isGlobal := true
  regex := .group 1 (.one (Regex.CharSet.single 'c'))
  reads := by decide +kernel

/-- The settings with these patterns. -/
def commentSettings : Settings where
  pattern
    | .escape => openComment
    | .interpolate => lineBelow
    | .evaluate => plainLetter
  variableName := none

/-- The comment goes on into the pattern after it, so the two become one branch. The settings are
accepted, and the scan does not find what the first pattern matches. -/
theorem scan_misses_open_comment :
    ¬ Closed openComment.source.toList ∧
    ∃ scanner, ofSettings commentSettings = .ok scanner ∧ scanner.scan ['a'] = [.stop 1] ∧
      commentSettings.matchAt? (Spot.start ['a']) =
        some (.escape, ⟨⟨0, none, ['a']⟩, ⟨1, some 'a', []⟩,
          [(1, ⟨0, none, ['a']⟩, ⟨1, some 'a', []⟩)]⟩) := by
  let combined : Regex :=
    .either (.append .empty (.append (.group 1 (.one (Regex.CharSet.single 'a')))
        (.group 2 (.one (Regex.CharSet.single 'b')))))
      (.either (.group 3 (.one (Regex.CharSet.single 'c'))) (.look .textEnd))
  refine ⟨by decide +kernel, ⟨combined⟩, ofSettings_eq_ok.mpr ⟨openComment.source,
    lineBelow.source, plainLetter.source, rfl, rfl, rfl, by decide +kernel, rfl⟩, rfl, rfl⟩

end Scanner

end Microtemplate
