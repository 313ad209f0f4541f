import Microtemplate.Proofs.Template.Delimiters
import Microtemplate.Proofs.Template.Tiling
import Microtemplate.Template.Compiled

/-!
The steps of a template that consists of texts without an opening delimiter and of regions with
plain code between them. The scan with the patterns of the default settings finds exactly these
regions, so the steps are the texts that are not empty and the code of the regions, in their order.
-/

namespace Microtemplate

open Regex (delimited Found Spot)
open Text (byteLength byteLength_append)

/-- A region of a template with the text after it. -/
structure Insert where
  region : Region
  code : List Char
  after : List Char

namespace Insert

/-- The region with its delimiters. -/
def tag (i : Insert) : List Char := i.region.opening ++ (i.code ++ ['%', '>'])

/-- The region and the text after it. -/
def text (i : Insert) : List Char := i.tag ++ i.after

/-- The step of the region and that of the text after it. -/
def steps (i : Insert) : List Instruction :=
  Instruction.ofRegion i.region i.code :: Instruction.ofGap i.after

/-- The code of the region is plain and does not make it one of another kind, and the text after it
opens no region. -/
structure Plain (i : Insert) : Prop where
  region : i.region = .evaluate → i.code.head? ≠ some '-' ∧ i.code.head? ≠ some '='
  code : i.code ≠ []
  percent : '%' ∉ i.code
  after : ¬ ['<', '%'] <:+: i.after

/-- The matches of a text that is left at an offset: a text before the next region, and the regions
with the texts after them. -/
def found (offset : Nat) (gap : List Char) : List Insert → List Match
  | [] => []
  | i :: more =>
    let start := offset + byteLength gap
    .region i.region start i.tag i.code :: found (start + byteLength i.tag) i.after more

end Insert

namespace Settings

/-- The settings have the patterns of the default settings. -/
def HasDefaultPatterns (s : Settings) : Prop := ∀ r, s.pattern r = default.pattern r

variable {s : Settings} (h : s.HasDefaultPatterns)

include h

theorem HasDefaultPatterns.matchAt?_eq (spot : Spot) :
    s.matchAt? spot = Region.all.findSome? fun r =>
      ((delimited r.opening).matchAt? spot).map (r, ·) := by
  have hpattern : ∀ r, s.pattern r = some (defaultPattern r) := fun r =>
    (h r).trans (default_pattern r)
  simp only [matchAt?, hpattern, Option.bind_some, defaultPattern]

/-- No region is matched where none opens. -/
theorem HasDefaultPatterns.matchAt?_eq_none {spot : Spot} (hopen : ¬ ['<', '%'] <+: spot.rest) :
    s.matchAt? spot = none := by
  rw [h.matchAt?_eq, List.findSome?_eq_none_iff]
  intro r _
  have hstart : ['<', '%'] <+: r.opening := by cases r <;> exact ⟨_, rfl⟩
  rw [Regex.matchAt?_delimited_eq_none fun hr => hopen (hstart.trans hr)]
  rfl

/-- A region is matched where it stands. -/
theorem HasDefaultPatterns.matchAt?_region {spot : Spot} {r : Region} {code rest : List Char}
    (hr : r = .evaluate → code.head? ≠ some '-' ∧ code.head? ≠ some '=') (hrest : spot.rest = r.opening ++ (code ++ ['%', '>']) ++ rest)
    (hcode : code ≠ []) (hpercent : '%' ∉ code) :
    s.matchAt? spot = some (r, ⟨spot, spot.skip (r.opening ++ (code ++ ['%', '>'])),
      [(1, spot.skip r.opening, spot.skip (r.opening ++ code))]⟩) := by
  have hmatch := Regex.matchAt?_delimited hrest hcode hpercent
  rw [h.matchAt?_eq]
  cases r with
  | escape => simp only [Region.all, List.findSome?_cons, hmatch, Option.map_some]
  | interpolate =>
    have hescape : ¬ Region.escape.opening <+: spot.rest := by
      rw [hrest]
      rintro ⟨more, hmore⟩
      simp [Region.opening] at hmore
    simp only [Region.all, List.findSome?_cons, hmatch, Option.map_some,
      Regex.matchAt?_delimited_eq_none hescape, Option.map_none]
  | evaluate =>
    obtain ⟨hescape, hinterpolate⟩ := hr rfl
    obtain ⟨c, cs, rfl⟩ := List.exists_cons_of_ne_nil hcode
    have hnot : ∀ d, c ≠ d → ¬ ['<', '%', d] <+: spot.rest := by
      intro d hd
      rw [hrest]
      rintro ⟨more, hmore⟩
      simp [Region.opening] at hmore
      exact hd hmore.1.symm
    have hminus := hnot '-' fun hc => hescape (congrArg some hc)
    have hequals := hnot '=' fun hc => hinterpolate (congrArg some hc)
    simp only [Region.all, List.findSome?_cons, hmatch, Option.map_some,
      Regex.matchAt?_delimited_eq_none (show ¬ Region.escape.opening <+: spot.rest from hminus),
      Regex.matchAt?_delimited_eq_none (show ¬ Region.interpolate.opening <+: spot.rest from hequals),
      Option.map_none]

omit h in
/-- Where a text without an opening delimiter comes before a region, none opens in it. -/
theorem not_prefix_of_gap {gap rest : List Char} (hne : gap ≠ []) (hgap : ¬ ['<', '%'] <:+: gap)
    (hrest : rest.head? = none ∨ rest.head? = some '<') : ¬ ['<', '%'] <+: gap ++ rest := by
  intro hprefix
  cases gap with
  | nil => exact hne rfl
  | cons c cs =>
    cases cs with
    | nil =>
      obtain ⟨more, hmore⟩ := hprefix
      have hpercent : rest = '%' :: more := (List.cons.inj hmore).2.symm
      rw [hpercent] at hrest
      rcases hrest with hrest | hrest <;> simp at hrest
    | cons d ds =>
      obtain ⟨more, hmore⟩ := hprefix
      obtain ⟨hc, htail⟩ := List.cons.inj hmore
      obtain ⟨hd, -⟩ := List.cons.inj htail
      exact hgap ⟨[], ds, by rw [← hc, ← hd]; rfl⟩

/-- Before the end of a text without an opening delimiter no region is matched. -/
theorem HasDefaultPatterns.matchAt?_gap {spot t : Spot} {gap rest w : List Char}
    (hgap : ¬ ['<', '%'] <:+: gap) (hrest : rest.head? = none ∨ rest.head? = some '<')
    (hspot : spot.rest = gap ++ rest) (hw : spot.Spans w t) (hlt : w.length < gap.length) :
    s.matchAt? t = none := by
  refine h.matchAt?_eq_none ?_
  have hread : w <+: spot.rest := ⟨t.rest, hw.rest.symm⟩
  obtain ⟨more, rfl⟩ : w <+: gap :=
    List.prefix_of_prefix_length_le hread ⟨rest, hspot.symm⟩ (Nat.le_of_lt hlt)
  have hrest' : t.rest = more ++ rest := by
    have hboth : w ++ t.rest = w ++ (more ++ rest) := by
      rw [← hw.rest, hspot, List.append_assoc]
    exact List.append_cancel_left hboth
  rw [hrest']
  refine not_prefix_of_gap ?_ (fun hin => hgap (hin.trans ⟨w, [], by simp⟩)) hrest
  rintro rfl
  simp at hlt

/-- The next region of a text is found after the text before it. -/
theorem HasDefaultPatterns.leftmost {spot : Spot} {gap rest : List Char} {i : Insert}
    (hgap : ¬ ['<', '%'] <:+: gap) (hi : i.Plain) (hspot : spot.rest = gap ++ (i.tag ++ rest)) :
    ∃ m, s.Leftmost spot m ∧ Match.ofFound m =
        .region i.region (spot.offset + byteLength gap) i.tag i.code ∧ tookPart m = true ∧
      m.2.isEmpty = false ∧ (spot.skip gap).Spans i.tag m.2.stop := by
  have hstart : (spot.skip gap).rest = i.tag ++ rest := Spot.rest_skip hspot
  have hcode : (spot.skip gap).rest = i.region.opening ++ i.code ++ (['%', '>'] ++ rest) := by
    rw [hstart, Insert.tag]
    simp only [List.append_assoc]
  have hmatch := h.matchAt?_region hi.region hstart hi.code hi.percent
  have hfirst : (i.tag ++ rest).head? = some '<' := by
    rw [Insert.tag]
    cases i.region <;> rfl
  have hinner : ((spot.skip gap).skip i.region.opening).upTo
      ((spot.skip gap).skip (i.region.opening ++ i.code)) = i.code := by
    have hopening := (Spot.skip_spans hcode).of_append
      (Spot.skip_spans (w := i.region.opening) (hcode.trans (List.append_assoc ..)))
    exact hopening.upTo_eq
  have hsize : 0 < byteLength i.tag := by
    rw [Insert.tag, byteLength_append]
    cases i.region <;> exact Nat.lt_of_lt_of_le (by decide) (Nat.le_add_right _ _)
  refine ⟨(i.region, ⟨spot.skip gap, (spot.skip gap).skip i.tag, _⟩), ⟨gap,
    Spot.skip_spans hspot, hmatch, fun w t hw hlt => ?_⟩, ?_, rfl, ?_, Spot.skip_spans hstart⟩
  · exact h.matchAt?_gap hgap (Or.inr hfirst) hspot hw hlt
  · have htext := (Spot.skip_spans hstart).upTo_eq
    simp only [Match.ofFound, Found.text, Found.group?, Regex.Captures.get?, List.lookup_cons,
      BEq.rfl, Option.map_some, Option.getD_some, hinner, htext]
    rfl
  · refine beq_false_of_ne ?_
    simp only [Spot.skip]
    omega

/-- The patterns find the regions of a plain text. -/
theorem HasDefaultPatterns.finds (inserts : List Insert) (hall : ∀ i ∈ inserts, i.Plain)
    {gap : List Char} (hgap : ¬ ['<', '%'] <:+: gap) {spot : Spot}
    (hspot : spot.rest = gap ++ inserts.flatMap Insert.text) (last : Option Nat) :
    ∃ found, s.Finds last spot found ∧ (∀ m ∈ found, tookPart m = true) ∧
      found.map Match.ofFound = Insert.found spot.offset gap inserts := by
  induction inserts generalizing gap spot last with
  | nil =>
    refine ⟨[], .exhausted fun w t hw => ?_, by simp, rfl⟩
    simp only [List.flatMap_nil] at hspot
    by_cases hlt : w.length < gap.length
    · exact h.matchAt?_gap hgap (Or.inl rfl) hspot hw hlt
    · refine h.matchAt?_eq_none fun hopen => ?_
      have hlength := congrArg List.length (hw.rest.symm.trans hspot)
      have hle := hopen.length_le
      simp only [List.length_append, List.length_nil, List.length_cons] at hlength hle
      omega
  | cons i more ih =>
    have hi := hall i (List.mem_cons_self ..)
    rw [List.flatMap_cons, Insert.text, List.append_assoc] at hspot
    obtain ⟨m, hm, hregion, htook, hsome, hstop⟩ := h.leftmost hgap hi hspot
    have hrest : m.2.stop.rest = i.after ++ more.flatMap Insert.text :=
      List.append_cancel_left (hstop.rest.symm.trans (Spot.rest_skip hspot))
    obtain ⟨found, hfound, htooks, hregions⟩ := ih
      (fun j hj => hall j (List.mem_cons_of_mem i hj)) hi.after hrest (some m.2.stop.offset)
    have hnew : ¬ Stale last m.2 := by
      rintro ⟨hempty, -⟩
      rw [hsome] at hempty
      cases hempty
    refine ⟨m :: found, .found hm hnew hfound, ?_, ?_⟩
    · intro x hx
      rcases List.mem_cons.mp hx with rfl | hx
      · exact htook
      · exact htooks x hx
    · rw [List.map_cons, hregions, hregion, Insert.found, hstop.offset]
      rfl

/-- The default patterns are accepted. -/
theorem HasDefaultPatterns.ofSettings : Scanner.ofSettings s =
    .ok ⟨Scanner.choiceOf (delimited Region.escape.opening) (delimited Region.interpolate.opening)
      (delimited Region.evaluate.opening) 1 1⟩ := by
  have hsource : ∀ r, Scanner.branchSource s r = .ok (defaultSource r) := by
    intro r
    have hcount : (defaultPattern r).groupCount = 1 := by cases r <;> rfl
    rw [Scanner.branchSource, h r, default_pattern]
    simp only [hcount]
    rfl
  exact Scanner.ofSettings_eq_ok.mpr ⟨_, _, _, hsource _, hsource _, hsource _,
    by decide +kernel, rfl⟩

theorem HasDefaultPatterns.closed (r : Region) (p : Pattern) (hp : s.pattern r = some p) :
    Regex.Closed p.source.toList := by
  obtain rfl := Option.some.inj (((h r).trans (default_pattern r)).symm.trans hp)
  cases r <;> decide +kernel

end Settings

namespace Insert

/-- The matches of a plain text with the texts before them. -/
def tiles (offset : Nat) (gap : List Char) : List Insert → List Tile
  | [] => [(gap, .stop (offset + byteLength gap))]
  | i :: more =>
    let start := offset + byteLength gap
    (gap, .region i.region start i.tag i.code) :: tiles (start + byteLength i.tag) i.after more

theorem map_snd_tiles (offset : Nat) (gap : List Char) (inserts : List Insert) :
    (tiles offset gap inserts).map Prod.snd = found offset gap inserts ++
      [.stop (offset + byteLength (gap ++ inserts.flatMap text))] := by
  induction inserts generalizing offset gap with
  | nil => simp [tiles, found]
  | cons i more ih =>
    have hlength : offset + byteLength gap + byteLength i.tag +
        byteLength (i.after ++ more.flatMap text) =
          offset + byteLength (gap ++ (i :: more).flatMap text) := by
      simp only [List.flatMap_cons, text, byteLength_append]
      omega
    rw [tiles, List.map_cons, ih, hlength, found]
    rfl

theorem tiled (offset : Nat) (gap : List Char) (inserts : List Insert) :
    Tiled offset (gap ++ inserts.flatMap text) (tiles offset gap inserts) := by
  induction inserts generalizing offset gap with
  | nil =>
    have htiled : Tiled offset (gap ++ (Match.stop (offset + byteLength gap)).text ++ []) _ :=
      .cons rfl (.nil _)
    simpa [Match.text, tiles] using htiled
  | cons i more ih =>
    rw [List.flatMap_cons, text, List.append_assoc, ← List.append_assoc gap]
    exact Tiled.cons (m := .region i.region (offset + byteLength gap) i.tag i.code) rfl
      (ih _ i.after)

theorem flatMap_steps_tiles (offset : Nat) (gap : List Char) {inserts : List Insert}
    (h : ∀ i ∈ inserts, i.Plain) : (tiles offset gap inserts).flatMap Tile.steps =
      Instruction.ofGap gap ++ inserts.flatMap steps := by
  induction inserts generalizing offset gap with
  | nil => simp [tiles, Tile.steps, Instruction.ofMatch]
  | cons i more ih =>
    have hcode : i.code.isEmpty = false := by
      simpa using (h i (List.mem_cons_self ..)).code
    rw [tiles, List.flatMap_cons, ih _ _ fun j hj => h j (List.mem_cons_of_mem i hj)]
    simp [Tile.steps, Instruction.ofMatch, hcode, steps]

end Insert

/-- The steps of a plain text are its texts and the code of its regions. -/
theorem Settings.HasDefaultPatterns.steps {s : Settings} (h : s.HasDefaultPatterns)
    {inserts : List Insert} (hall : ∀ i ∈ inserts, i.Plain) {lead : List Char}
    (hlead : ¬ ['<', '%'] <:+: lead) :
    Compiled.steps (lead ++ inserts.flatMap Insert.text) s =
      .ok (Instruction.ofGap lead ++ inserts.flatMap Insert.steps) := by
  let text := lead ++ inserts.flatMap Insert.text
  obtain ⟨found, hfound, htook, hmatches⟩ :=
    h.finds inserts hall hlead (show (Spot.start text).rest = _ from rfl) none
  obtain ⟨found', hfound', hregions⟩ :=
    (Scanner.combines_of_ofSettings h.ofSettings h.closed).regions_findAll (text.length + 2) none
      (Spot.start text) (by simp [Spot.start])
  obtain rfl := hfound'.unique hfound
  rw [List.takeWhile_eq_self_iff.mpr htook, hmatches] at hregions
  have hscan : ∀ scanner, Scanner.ofSettings s = .ok scanner →
      scanner.scan text = (Insert.tiles 0 lead inserts).map Prod.snd := by
    intro scanner hscanner
    obtain rfl := Except.ok.inj (hscanner.symm.trans h.ofSettings)
    rw [Scanner.scan, Regex.allMatches, hregions, Insert.map_snd_tiles, Nat.zero_add]
    rfl
  rw [Compiled.steps, h.ofSettings, Except.map, hscan _ h.ofSettings, instructions,
    (Insert.tiled 0 lead inserts).ofMatches_eq, Insert.flatMap_steps_tiles 0 lead hall]

end Microtemplate
