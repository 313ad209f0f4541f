import Microtemplate.Proofs.Template.PlainText
import Microtemplate.Proofs.Text.Search

/-!
The scan with the patterns of the default settings, said with positions in the text alone. A region
stands where its opening delimiter does and a closing one follows after at least one character; the
first such closing delimiter ends it. The scan gives the leftmost region at or after a cursor, puts
the cursor after it, and goes on; what opens no region stays text.
-/

namespace Microtemplate

open Regex (delimited Found Spot)
open Text (byteLength byteLength_append occurrence? occurrenceFrom?)

namespace Text

/-- The first occurrence that is not before a position. -/
theorem occurrenceFrom?_eq_some_iff {wanted cs : List Char} (hwanted : wanted ≠ [])
    {start i : Nat} : occurrenceFrom? wanted start cs = some i ↔
      start ≤ i ∧ wanted <+: cs.drop i ∧ ∀ k, start ≤ k → k < i → ¬ wanted <+: cs.drop k := by
  rw [occurrenceFrom?, Option.map_eq_some_iff]
  constructor
  · rintro ⟨j, hj, rfl⟩
    obtain ⟨-, hat, hfresh⟩ := occurrence?_eq_some_iff.mp hj
    rw [List.drop_drop, Nat.add_comm] at hat
    refine ⟨Nat.le_add_left _ _, hat, fun k hk hlt hopening => hfresh (k - start) (by omega) ?_⟩
    rwa [List.drop_drop, Nat.add_sub_cancel' hk]
  · rintro ⟨hle, hat, hfresh⟩
    refine ⟨i - start, occurrence?_eq_some_iff.mpr ⟨?_, ?_, fun k hk hopening => ?_⟩, by omega⟩
    · have hlt : i < cs.length := by
        refine Nat.lt_of_not_le fun hge => hwanted ?_
        rw [List.drop_eq_nil_of_le hge] at hat
        exact List.prefix_nil.mp hat
      rw [List.length_drop]
      omega
    · rwa [List.drop_drop, Nat.add_sub_cancel' hle]
    · rw [List.drop_drop] at hopening
      exact hfresh (start + k) (Nat.le_add_right _ _) (by omega) hopening

end Text

namespace Regex

/-- Of the ends of a lazy repetition of any character, the first one counts after which a text
stands. -/
theorem findSome?_spotsAfter_prefix {β : Type} (w : List Char) (hw : w ≠ []) (g : Spot → β)
    (s : Spot) : ((spotsAfter s.offset s.rest).findSome? fun t =>
        if w <+: t.rest then some (g t) else none) =
      (occurrenceFrom? w 1 s.rest).map fun i => g (s.skip (s.rest.take i)) := by
  obtain ⟨offset, previous, cs⟩ := s
  induction cs generalizing offset previous with
  | nil =>
    have hnone : occurrenceFrom? w 1 [] = none := by
      cases w with
      | nil => exact absurd rfl hw
      | cons c cs => rfl
    simp [spotsAfter, hnone]
  | cons c cs ih =>
    have hnext := ih (offset + c.utf8Size) (some c)
    simp only [spotsAfter, List.findSome?_cons] at hnext ⊢
    by_cases h : w <+: cs
    · have hone : occurrenceFrom? w 1 (c :: cs) = some 1 :=
        (Text.occurrenceFrom?_eq_some_iff hw).mpr
          ⟨Nat.le_refl 1, h, fun k hk hlt => absurd hk (Nat.not_le_of_lt hlt)⟩
      simp [h, hone, Spot.skip, byteLength]
    · rw [if_neg h, hnext]
      -- the occurrence is one character further from here than from the next spot
      have hshift : occurrenceFrom? w 1 (c :: cs) = (occurrenceFrom? w 1 cs).map (· + 1) := by
        ext i
        simp only [Option.map_eq_some_iff, Text.occurrenceFrom?_eq_some_iff hw]
        constructor
        · rintro ⟨hle, hat, hfresh⟩
          obtain ⟨i, rfl⟩ := Nat.exists_eq_add_of_le' hle
          have hpos : 1 ≤ i := by
            refine Nat.pos_of_ne_zero ?_
            rintro rfl
            exact h hat
          exact ⟨i, ⟨hpos, hat, fun k hk hlt => hfresh (k + 1) (by omega) (by omega)⟩, rfl⟩
        · rintro ⟨i, ⟨hle, hat, hfresh⟩, rfl⟩
          refine ⟨by omega, hat, fun k hk hlt => ?_⟩
          obtain ⟨k, rfl⟩ := Nat.exists_eq_add_of_le' hk
          cases k with
          | zero => exact h
          | succ k => exact hfresh (k + 1) (by omega) (by omega)
      rw [hshift, Option.map_map]
      congr 1
      funext i
      have hsplit : c :: cs = [c] ++ cs.take i ++ cs.drop i := by simp
      have hskip : Spot.skip ⟨offset, previous, c :: cs⟩ (c :: cs.take i) =
          Spot.skip ⟨offset + c.utf8Size, some c, cs⟩ (cs.take i) :=
        Spot.skip_append (s := ⟨offset, previous, c :: cs⟩) hsplit
      simp only [Function.comp, List.take_succ_cons, hskip]

/-- What is inside a region has at least one character and ends with the first closing delimiter
after that. -/
theorem head?_ends_inside_eq (s : Spot) : (ends inside s []).head? =
    (occurrenceFrom? ['%', '>'] 1 s.rest).map fun i =>
      (s.skip (s.rest.take (i + 2)), [(1, s, s.skip (s.rest.take i))]) := by
  have hstep := findSome?_spotsAfter_prefix ['%', '>'] (by simp)
    (fun t => (t.skip ['%', '>'], ([(1, s, t)] : Captures))) s
  rw [inside, head?_ends_append, ends, ends_plus_all, List.map_map, List.findSome?_map]
  simp only [Function.comp_def, head?_ends_closing, List.filter_nil]
  rw [hstep]
  refine Option.map_congr fun i hi => ?_
  obtain ⟨-, ⟨rest, hrest⟩, -⟩ := (Text.occurrenceFrom?_eq_some_iff (by simp)).mp hi
  have hsplit : s.rest = s.rest.take i ++ ['%', '>'] ++ rest := by
    rw [List.append_assoc, hrest, List.take_append_drop]
  have htake : s.rest.take (i + 2) = s.rest.take i ++ ['%', '>'] := by
    rw [List.take_add, ← hrest]
    rfl
  rw [htake, Spot.skip_append hsplit]

/-- The match of a region with the given opening delimiter. -/
theorem matchAt?_delimited_eq (opening : List Char) (s : Spot) :
    (delimited opening).matchAt? s =
      if opening <+: s.rest then
        (occurrenceFrom? ['%', '>'] (opening.length + 1) s.rest).map fun i =>
          ⟨s, s.skip (s.rest.take (i + 2)),
            [(1, s.skip opening, s.skip (s.rest.take i))]⟩
      else none := by
  rw [matchAt?, head?_ends_delimited]
  split
  · rename_i hopen
    obtain ⟨rest, hrest⟩ := hopen
    have hskip : (s.skip opening).rest = rest := Spot.rest_skip hrest.symm
    have hshift : occurrenceFrom? ['%', '>'] (opening.length + 1) s.rest =
        (occurrenceFrom? ['%', '>'] 1 rest).map (opening.length + ·) := by
      rw [occurrenceFrom?, occurrenceFrom?, ← hrest, List.drop_append, Option.map_map]
      have hdrop : opening.drop (opening.length + 1) = [] :=
        List.drop_eq_nil_of_le (Nat.le_succ _)
      rw [hdrop, List.nil_append, Nat.add_sub_cancel_left]
      congr 1
      funext i
      simp only [Function.comp]
      omega
    -- what comes after the opening delimiter is a beginning of the rest
    have htake : ∀ i, s.skip (s.rest.take (opening.length + i)) =
        (s.skip opening).skip (rest.take i) := by
      intro i
      have hsplit : s.rest = opening ++ rest.take i ++ rest.drop i := by
        rw [List.append_assoc, List.take_append_drop, hrest]
      have hopening : s.rest.take (opening.length + i) = opening ++ rest.take i := by
        rw [← hrest, List.take_length_add_append]
      rw [hopening, Spot.skip_append hsplit]
    rw [head?_ends_inside_eq, hskip, hshift, Option.map_map, Option.map_map]
    congr 1
    funext i
    simp only [Function.comp, Nat.add_assoc, htake]
  · rfl

end Regex

/-- A region of a text: where it starts, its kind, and where its closing delimiter stands. -/
structure Extent where
  start : Nat
  region : Region
  close : Nat

namespace Extent

/-- Where a region of a kind is closed that opens at a position, if it stands there. -/
def closing? (text : List Char) (start : Nat) (r : Region) : Option Nat :=
  if r.opening <+: text.drop start then
    occurrenceFrom? ['%', '>'] (start + r.opening.length + 1) text
  else none

/-- The region that stands at a position: the first kind that does. -/
def at? (text : List Char) (start : Nat) : Option Extent :=
  Region.all.findSome? fun r => (closing? text start r).map fun close => ⟨start, r, close⟩

/-- The leftmost region at or after a cursor. -/
def next? (text : List Char) (cursor : Nat) : Option Extent :=
  (List.range' cursor (text.length - cursor)).findSome? (at? text)

/-- A region stands at a position exactly if its opening delimiter does and a closing one follows
after at least one character. The first such one counts. -/
theorem closing?_eq_some_iff {text : List Char} {start close : Nat} {r : Region} :
    closing? text start r = some close ↔
      r.opening <+: text.drop start ∧ start + r.opening.length + 1 ≤ close ∧
        ['%', '>'] <+: text.drop close ∧
        ∀ k, start + r.opening.length + 1 ≤ k → k < close → ¬ ['%', '>'] <+: text.drop k := by
  unfold closing?
  split
  · rename_i hopen
    simp [hopen, Text.occurrenceFrom?_eq_some_iff]
  · rename_i hopen
    simp [hopen]

/-- The position after a region. -/
def stop (e : Extent) : Nat := e.close + 2

theorem closing?_of_at? {text : List Char} {start : Nat} {e : Extent}
    (h : at? text start = some e) :
    e.start = start ∧ closing? text start e.region = some e.close := by
  obtain ⟨r, -, hr⟩ := List.exists_of_findSome?_eq_some h
  obtain ⟨close, hclose, rfl⟩ := Option.map_eq_some_iff.mp hr
  exact ⟨rfl, hclose⟩

/-- A region lies in its text, and what is inside is not empty. -/
theorem bounds_of_at? {text : List Char} {start : Nat} {e : Extent}
    (h : at? text start = some e) :
    start + e.region.opening.length < e.close ∧ e.stop ≤ text.length := by
  obtain ⟨-, hclose⟩ := closing?_of_at? h
  obtain ⟨-, hlt, hat, -⟩ := closing?_eq_some_iff.mp hclose
  have hlength := hat.length_le
  simp only [List.length_cons, List.length_nil, List.length_drop] at hlength
  rw [stop]
  omega

theorem next?_eq_some {text : List Char} {cursor : Nat} {e : Extent}
    (h : next? text cursor = some e) : cursor ≤ e.start ∧ at? text e.start = some e ∧
      ∀ k, cursor ≤ k → k < e.start → at? text k = none := by
  obtain ⟨before, start, after, hrange, hat, hnone⟩ := List.findSome?_eq_some_iff.mp h
  obtain ⟨rfl, -⟩ := closing?_of_at? hat
  have hstart : e.start = cursor + before.length := by
    have hget := congrArg (·[before.length]?) hrange
    simp only [List.getElem?_append_right (Nat.le_refl _), Nat.sub_self,
      List.getElem?_cons_zero] at hget
    obtain ⟨hlt, hvalue⟩ := List.getElem?_eq_some_iff.mp hget
    rw [← hvalue, List.getElem_range']
    omega
  refine ⟨by omega, hat, fun k hk hlt => ?_⟩
  have hmem : k ∈ before := by
    have hget := congrArg (·[k - cursor]?) hrange
    rw [List.getElem?_append_left (by omega)] at hget
    refine List.mem_of_getElem? (i := k - cursor) ?_
    rw [← hget]
    have hlength := congrArg List.length hrange
    simp only [List.length_range', List.length_append, List.length_cons] at hlength
    rw [List.getElem?_eq_some_iff]
    refine ⟨by rw [List.length_range']; omega, ?_⟩
    rw [List.getElem_range']
    omega
  exact hnone k hmem

theorem next?_eq_none {text : List Char} {cursor : Nat} (h : next? text cursor = none) (k : Nat)
    (hk : cursor ≤ k) : at? text k = none := by
  by_cases hlt : k < text.length
  · refine List.findSome?_eq_none_iff.mp h k ?_
    rw [List.mem_range'_1]
    omega
  · refine Option.eq_none_iff_forall_ne_some.mpr fun e he => ?_
    obtain ⟨-, hclose⟩ := closing?_of_at? he
    have hopen := (closing?_eq_some_iff.mp hclose).1.length_le
    have hsome : 0 < e.region.opening.length := by cases e.region <;> decide
    rw [List.length_drop] at hopen
    omega

/-- The regions of a text from a cursor on. -/
def regionsFrom (text : List Char) (cursor : Nat) : List Extent :=
  match _h : next? text cursor with
  | none => []
  | some e => e :: regionsFrom text e.stop
termination_by text.length - cursor
decreasing_by
  obtain ⟨hle, hat, -⟩ := next?_eq_some _h
  obtain ⟨hlt, hstop⟩ := bounds_of_at? hat
  simp only [stop] at hstop ⊢
  omega

/-- The match that a region is. -/
def toMatch (text : List Char) (e : Extent) : Match :=
  .region e.region (byteLength (text.take e.start)) (text.extract e.start e.stop)
    (text.extract (e.start + e.region.opening.length) e.close)

/-- The spot at a position of a text. -/
def spotAt (text : List Char) (i : Nat) : Spot := (Spot.start text).skip (text.take i)

/-- The match of a region, as its pattern gives it. -/
def toFound (text : List Char) (e : Extent) : Region × Found :=
  (e.region, ⟨spotAt text e.start, spotAt text e.stop,
    [(1, spotAt text (e.start + e.region.opening.length), spotAt text e.close)]⟩)

theorem rest_spotAt (text : List Char) (i : Nat) : (spotAt text i).rest = text.drop i :=
  Spot.rest_skip (List.take_append_drop i text).symm

theorem skip_spotAt (text : List Char) (i n : Nat) :
    (spotAt text i).skip ((text.drop i).take n) = spotAt text (i + n) := by
  have hsplit : (Spot.start text).rest = text.take i ++ (text.drop i).take n ++ text.drop (i + n) := by
    rw [List.append_assoc, ← List.drop_drop, List.take_append_drop, List.take_append_drop]
    rfl
  rw [spotAt, spotAt, List.take_add, Spot.skip_append hsplit]

/-- A later position is reached over the text up to it. -/
theorem spans_spotAt (text : List Char) {i j : Nat} (h : i ≤ j) :
    (spotAt text i).Spans (text.extract i j) (spotAt text j) := by
  have hrest : (spotAt text i).rest = text.extract i j ++ (text.drop i).drop (j - i) := by
    rw [rest_spotAt, List.extract_eq_take_drop, List.take_append_drop]
  have hspans := Spot.skip_spans hrest
  rwa [List.extract_eq_take_drop, skip_spotAt, Nat.add_sub_cancel' h] at hspans

/-- Every spot further on is that of a position. -/
theorem eq_spotAt {text w : List Char} {i : Nat} {t : Spot} (h : (spotAt text i).Spans w t) :
    t = spotAt text (i + w.length) := by
  have hopening : w = (text.drop i).take w.length := by
    have hrest := h.rest
    rw [rest_spotAt] at hrest
    rw [hrest, List.take_left]
  have hspans := Spot.skip_spans h.rest
  rw [h.unique hspans, ← skip_spotAt, ← hopening]

/-- The default patterns match at a position what stands there. -/
theorem matchAt?_spotAt {s : Settings} (hs : s.HasDefaultPatterns) (text : List Char) (i : Nat) :
    s.matchAt? (spotAt text i) = (at? text i).map (toFound text) := by
  have hregion : ∀ r : Region, ((delimited r.opening).matchAt? (spotAt text i)).map (r, ·) =
      ((closing? text i r).map fun close => (⟨i, r, close⟩ : Extent)).map (toFound text) := by
    intro r
    rw [Regex.matchAt?_delimited_eq, rest_spotAt, closing?]
    split
    · rename_i hopen
      have hshift : occurrenceFrom? ['%', '>'] (i + r.opening.length + 1) text =
          (occurrenceFrom? ['%', '>'] (r.opening.length + 1) (text.drop i)).map (i + ·) := by
        rw [occurrenceFrom?, occurrenceFrom?, List.drop_drop, Option.map_map, Nat.add_assoc]
        congr 1
        funext k
        simp only [Function.comp]
        omega
      have hopening : r.opening = (text.drop i).take r.opening.length :=
        List.prefix_iff_eq_take.mp hopen
      have hinside : (spotAt text i).skip r.opening = spotAt text (i + r.opening.length) := by
        rw [← skip_spotAt, ← hopening]
      rw [hshift, Option.map_map, Option.map_map, Option.map_map]
      congr 1
      funext k
      simp only [Function.comp, toFound, stop, skip_spotAt, hinside, Nat.add_assoc]
    · rfl
  rw [hs.matchAt?_eq, at?, List.map_findSome?]
  simp only [Function.comp_def, hregion]

theorem leftmost_of_next? {s : Settings} (hs : s.HasDefaultPatterns) {text : List Char}
    {cursor : Nat} {e : Extent} (h : next? text cursor = some e) :
    s.Leftmost (spotAt text cursor) (toFound text e) := by
  obtain ⟨hle, hat, hfresh⟩ := next?_eq_some h
  refine ⟨_, spans_spotAt text hle, ?_, fun w t hw hlt => ?_⟩
  · change s.matchAt? (spotAt text e.start) = _
    rw [matchAt?_spotAt hs, hat]
    rfl
  · have hlength : w.length < e.start - cursor := by
      rw [List.extract_eq_take_drop, List.length_take] at hlt
      omega
    rw [eq_spotAt hw, matchAt?_spotAt hs, hfresh _ (Nat.le_add_right _ _) (by omega)]
    rfl

/-- What a region has inside is captured, and the matched text goes from its opening delimiter to
its closing one. -/
theorem ofFound_toFound {text : List Char} {start : Nat} {e : Extent}
    (h : at? text start = some e) : Match.ofFound (toFound text e) = toMatch text e := by
  obtain ⟨rfl, -⟩ := closing?_of_at? h
  obtain ⟨hlt, -⟩ := bounds_of_at? h
  have htext := (spans_spotAt text (i := e.start) (j := e.stop) (by rw [stop]; omega)).upTo_eq
  have hinner := (spans_spotAt text (Nat.le_of_lt hlt)).upTo_eq
  have hoffset : (spotAt text e.start).offset = byteLength (text.take e.start) := Nat.zero_add _
  simp only [Match.ofFound, toFound, Found.text, Found.group?, Regex.Captures.get?,
    List.lookup_cons, BEq.rfl, Option.map_some, Option.getD_some, htext, hinner, hoffset, toMatch]

/-- The patterns find the regions from a cursor on. -/
theorem finds_regionsFrom {s : Settings} (hs : s.HasDefaultPatterns) (text : List Char)
    (cursor : Nat) (last : Option Nat) :
    s.Finds last (spotAt text cursor) ((regionsFrom text cursor).map (toFound text)) := by
  fun_induction regionsFrom text cursor generalizing last with
  | case1 cursor hnone =>
    refine .exhausted fun w t hw => ?_
    rw [eq_spotAt hw, matchAt?_spotAt hs, next?_eq_none hnone _ (Nat.le_add_right _ _)]
    rfl
  | case2 cursor e hsome ih =>
    have hbounds := bounds_of_at? (next?_eq_some hsome).2.1
    refine .found (leftmost_of_next? hs hsome) ?_ (ih _)
    -- a region is never empty
    rintro ⟨hempty, -⟩
    have hspans := spans_spotAt text (i := e.start) (j := e.stop) (by rw [stop]; omega)
    have hsize := hspans.offset
    have hsame : (spotAt text e.start).offset = (spotAt text e.stop).offset :=
      beq_iff_eq.mp hempty
    have hlength : 0 < (text.extract e.start e.stop).length := by
      rw [List.extract_eq_take_drop, List.length_take, List.length_drop]
      simp only [stop] at hbounds ⊢
      omega
    have hpos : 0 < byteLength (text.extract e.start e.stop) := by
      cases hw : text.extract e.start e.stop with
      | nil =>
        rw [hw] at hlength
        cases hlength
      | cons c cs => exact Nat.lt_of_lt_of_le c.utf8Size_pos (Nat.le_add_right _ _)
    omega

theorem mem_regionsFrom {text : List Char} {cursor : Nat} {e : Extent}
    (h : e ∈ regionsFrom text cursor) : at? text e.start = some e := by
  fun_induction regionsFrom text cursor with
  | case1 => cases h
  | case2 cursor f hsome ih =>
    rcases List.mem_cons.mp h with rfl | h
    · exact (next?_eq_some hsome).2.1
    · exact ih h

theorem next?_eq_some_iff {text : List Char} {cursor : Nat} {e : Extent} :
    next? text cursor = some e ↔ cursor ≤ e.start ∧ at? text e.start = some e ∧
      ∀ k, cursor ≤ k → k < e.start → at? text k = none := by
  refine ⟨next?_eq_some, fun ⟨hle, hat, hfresh⟩ => ?_⟩
  cases h : next? text cursor with
  | none =>
    rw [next?_eq_none h _ hle] at hat
    cases hat
  | some f =>
    obtain ⟨hle', hat', hfresh'⟩ := next?_eq_some h
    have hge : ¬ e.start < f.start := fun hlt => by
      rw [hfresh' _ hle hlt] at hat
      cases hat
    have hge' : ¬ f.start < e.start := fun hlt => by
      rw [hfresh _ hle' hlt] at hat'
      cases hat'
    have hstart : e.start = f.start := by omega
    rw [hstart, hat'] at hat
    exact hat

/-- No region is empty inside. -/
theorem inner_ne_nil {text : List Char} {start : Nat} {e : Extent}
    (h : at? text start = some e) :
    text.extract (e.start + e.region.opening.length) e.close ≠ [] := by
  obtain ⟨rfl, -⟩ := closing?_of_at? h
  have hbounds := bounds_of_at? h
  refine List.ne_nil_of_length_pos ?_
  rw [List.extract_eq_take_drop, List.length_take, List.length_drop]
  simp only [stop] at hbounds
  omega

end Extent

/-- The default settings are accepted, and the scan of a text with them gives its regions and the
end. From a cursor the leftmost region counts, and of the kinds that stand there the first; the
cursor goes on to the position after it. A region stands where its opening delimiter does if a
closing one follows after at least one character, and then the first such one closes it. -/
theorem Scanner.scan_default (text : List Char) :
    ∃ scanner, Scanner.ofSettings Settings.default = .ok scanner ∧
      scanner.scan text =
        (Extent.regionsFrom text 0).map (Extent.toMatch text) ++ [.stop (byteLength text)] ∧
      (∀ r start matched inner, Match.region r start matched inner ∈ scanner.scan text →
        inner ≠ []) ∧
      (∀ cursor, Extent.regionsFrom text cursor = match Extent.next? text cursor with
        | none => []
        | some e => e :: Extent.regionsFrom text (e.close + 2)) ∧
      (∀ cursor e, Extent.next? text cursor = some e ↔
        cursor ≤ e.start ∧ Extent.at? text e.start = some e ∧
          ∀ k, cursor ≤ k → k < e.start → Extent.at? text k = none) ∧
      (∀ start, Extent.at? text start =
        [Region.escape, .interpolate, .evaluate].findSome? fun r =>
          (Extent.closing? text start r).map fun close => ⟨start, r, close⟩) ∧
      ∀ start r close, Extent.closing? text start r = some close ↔
        r.opening <+: text.drop start ∧ start + r.opening.length + 1 ≤ close ∧
          ['%', '>'] <+: text.drop close ∧
          ∀ k, start + r.opening.length + 1 ≤ k → k < close → ¬ ['%', '>'] <+: text.drop k := by
  have hdefault : Settings.default.HasDefaultPatterns := fun _ => rfl
  have hfinds := Extent.finds_regionsFrom hdefault text 0 none
  obtain ⟨found, hfound, hregions⟩ :=
    (Scanner.combines_of_ofSettings hdefault.ofSettings hdefault.closed).regions_findAll
      (text.length + 2) none (Spot.start text) (by simp [Spot.start])
  obtain rfl := hfound.unique hfinds
  -- the capture group of each region takes part, so none of them ends the scan
  have htook : ∀ m ∈ (Extent.regionsFrom text 0).map (Extent.toFound text), tookPart m = true := by
    intro m hm
    obtain ⟨e, -, rfl⟩ := List.mem_map.mp hm
    rfl
  have hmatches : ((Extent.regionsFrom text 0).map (Extent.toFound text)).map Match.ofFound =
      (Extent.regionsFrom text 0).map (Extent.toMatch text) := by
    rw [List.map_map]
    exact List.map_congr_left fun e he => Extent.ofFound_toFound (Extent.mem_regionsFrom he)
  rw [List.takeWhile_eq_self_iff.mpr htook, hmatches] at hregions
  refine ⟨_, hdefault.ofSettings, ?_, fun r start matched inner hm => ?_, fun cursor => ?_,
    fun _ _ => Extent.next?_eq_some_iff, fun _ => rfl, fun _ _ _ => Extent.closing?_eq_some_iff⟩
  · rw [Scanner.scan, Regex.allMatches, hregions]
  · rw [Scanner.scan, Regex.allMatches, hregions] at hm
    rcases List.mem_append.mp hm with hm | hm
    · obtain ⟨e, he, heq⟩ := List.mem_map.mp hm
      obtain ⟨-, -, -, rfl⟩ := Match.region.inj heq
      exact Extent.inner_ne_nil (Extent.mem_regionsFrom he)
    · cases List.mem_singleton.mp hm
  · rw [Extent.regionsFrom]
    split <;> rename_i heq <;> rw [heq]
    rfl

end Microtemplate
