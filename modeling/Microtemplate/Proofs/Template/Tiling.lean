import Microtemplate.Proofs.Regex.Span
import Microtemplate.Proofs.Text.Boundaries
import Microtemplate.Template.Instruction

/-!
Nothing of a template is lost and nothing comes twice. The matches of a scan, each with the text
before it, tile the template, and the steps are these texts and the code of the regions in the
same order.
-/

namespace Microtemplate

open Text (byteLength byteLength_append beforeOffset)
open Regex (Found Spot Successive)

namespace Match

/-- Where a match ends. -/
def finish (m : Match) : Nat := m.start + byteLength m.text

/-- Whether a match is a region. -/
def isRegion : Match → Bool
  | region .. => true
  | stop _ => false

end Match

/-- A match with the text before it, up to the end of the match before that one. -/
abbrev Tile := List Char × Match

namespace Tile

/-- The text of a tile. -/
def text (t : Tile) : List Char := t.1 ++ t.2.text

/-- The steps of a tile. -/
def steps (t : Tile) : List Instruction := Instruction.ofGap t.1 ++ Instruction.ofMatch t.2

end Tile

/-- Tiles cover a text that is left at an offset. -/
inductive Tiled : Nat → List Char → List Tile → Prop
  | nil (offset : Nat) : Tiled offset [] []
  | cons {offset : Nat} {gap rest : List Char} {m : Match} {more : List Tile}
      (hstart : m.start = offset + byteLength gap) (hmore : Tiled m.finish rest more) :
      Tiled offset (gap ++ m.text ++ rest) ((gap, m) :: more)

namespace Tiled

/-- The tiles together are the text. -/
theorem flatMap_text {offset : Nat} {text : List Char} {tiles : List Tile}
    (h : Tiled offset text tiles) : tiles.flatMap Tile.text = text := by
  induction h with
  | nil => rfl
  | cons hstart hmore ih => simp [ih, Tile.text]

/-- Each match starts after the tiles before it and its gap. -/
theorem start_eq {offset : Nat} {text : List Char} {tiles : List Tile}
    (h : Tiled offset text tiles) (before after : List Tile) (gap : List Char) (m : Match)
    (heq : tiles = before ++ (gap, m) :: after) :
    m.start = offset + byteLength (before.flatMap Tile.text ++ gap) := by
  induction h generalizing before with
  | nil => simp at heq
  | @cons offset gap' rest m' more hstart hmore ih =>
    cases before with
    | nil =>
      obtain ⟨h1, -⟩ := List.cons.inj heq
      obtain ⟨rfl, rfl⟩ := Prod.mk.inj h1
      simpa using hstart
    | cons first before =>
      obtain ⟨h1, h2⟩ := List.cons.inj heq
      subst h1
      have hm := ih before h2
      simp only [Match.finish, hstart] at hm
      simp only [List.flatMap_cons, Tile.text, byteLength_append] at hm ⊢
      omega

theorem le_start {offset : Nat} {text : List Char} {tiles : List Tile}
    (h : Tiled offset text tiles) : ∀ t ∈ tiles, offset ≤ t.2.start := by
  intro t ht
  obtain ⟨before, after, heq⟩ := List.append_of_mem ht
  have := h.start_eq before after t.1 t.2 heq
  omega

/-- The matches are in order and do not overlap. -/
theorem pairwise {offset : Nat} {text : List Char} {tiles : List Tile}
    (h : Tiled offset text tiles) :
    (tiles.map Prod.snd).Pairwise (fun a b => a.finish ≤ b.start) := by
  induction h with
  | nil => exact List.Pairwise.nil
  | cons hstart hmore ih =>
    refine List.Pairwise.cons (fun b hb => ?_) ih
    obtain ⟨t, ht, rfl⟩ := List.mem_map.mp hb
    exact hmore.le_start t ht

/-- The steps of a text are those of its tiles. -/
theorem ofMatches_eq {offset : Nat} {text : List Char} {tiles : List Tile}
    (h : Tiled offset text tiles) :
    Instruction.ofMatches offset text (tiles.map Prod.snd) = tiles.flatMap Tile.steps := by
  induction h with
  | nil => rfl
  | @cons offset gap rest m more hstart hmore ih =>
    have hgap : beforeOffset (m.start - offset) (gap ++ m.text ++ rest) = gap := by
      rw [hstart, Nat.add_sub_cancel_left, List.append_assoc, Text.beforeOffset_append]
    have hdrop : (gap ++ m.text ++ rest).drop (gap.length + m.text.length) = rest := by
      rw [← List.length_append, List.drop_left]
    simp only [List.map_cons, Instruction.ofMatches, hgap, hdrop, List.flatMap_cons, Tile.steps]
    exact congrArg _ ih

end Tiled

namespace Scanner

theorem isRegion_of_mem_regions {found : List Found} {m : Match} (h : m ∈ regions found) :
    m.isRegion = true := by
  induction found with
  | nil => simp [regions] at h
  | cons f rest ih =>
    simp only [regions] at h
    split at h
    · rcases List.mem_cons.mp h with rfl | h
      · rfl
      · exact ih h
    · simp at h

/-- What a region has captured lies in its text. -/
theorem inner_infix {f : Found} (hf : f.Sound) {r : Region} {inner : List Char}
    (h : regionOf? f = some (r, inner)) : inner <:+: f.text := by
  obtain ⟨⟨r', i⟩, _, hi⟩ := List.exists_of_findSome?_eq_some h
  obtain ⟨inner', hgroup, hpair⟩ := Option.map_eq_some_iff.mp hi
  obtain ⟨-, rfl⟩ := Prod.mk.inj hpair
  obtain ⟨p, hget, hp⟩ := Option.map_eq_some_iff.mp hgroup
  obtain ⟨before, after, heq, -⟩ := List.lookup_eq_some_iff.mp hget
  have hmem : (i + 1, p) ∈ f.captures := by simp [heq]
  obtain ⟨a, b, d, ha, hb, hd⟩ := hf.encloses _ hmem
  change p.1.Spans b p.2 at hb
  refine ⟨a, d, ?_⟩
  have hinner : p.1.upTo p.2 = inner' := hp
  rw [← hinner, hb.upTo_eq]
  exact ((ha.trans hb).trans hd).upTo_eq.symm

theorem inner_infix_of_mem_regions {s : Spot} {found : List Found} (h : Successive s found)
    {r : Region} {start : Nat} {text inner : List Char}
    (hm : Match.region r start text inner ∈ regions found) : inner <:+: text := by
  induction h with
  | nil => simp [regions] at hm
  | cons hgap hf hmore ih =>
    simp only [regions] at hm
    split at hm
    · rename_i heq
      rcases List.mem_cons.mp hm with hm | hm
      · obtain ⟨rfl, -, rfl, rfl⟩ := Match.region.inj hm
        exact inner_infix hf heq
      · exact ih hm
    · simp at hm

/-- The regions and the end tile what is left of a text. -/
theorem exists_tiled {s : Spot} {found : List Found} (h : Successive s found) :
    ∃ tiles : List Tile,
      tiles.map Prod.snd = regions found ++ [.stop (s.offset + byteLength s.rest)] ∧
      Tiled s.offset s.rest tiles := by
  have stop : ∀ s : Spot, ∃ tiles : List Tile,
      tiles.map Prod.snd = [.stop (s.offset + byteLength s.rest)] ∧
      Tiled s.offset s.rest tiles := by
    intro s
    let finish : Match := .stop (s.offset + byteLength s.rest)
    have h : Tiled s.offset (s.rest ++ finish.text ++ []) [(s.rest, finish)] :=
      .cons rfl (.nil _)
    refine ⟨[(s.rest, finish)], rfl, ?_⟩
    simpa [finish, Match.text] using h
  induction h with
  | nil s => exact stop s
  | @cons s gap f more hgap hf hmore ih =>
    simp only [regions]
    split
    · rename_i r inner heq
      obtain ⟨tiles, hmap, htiled⟩ := ih
      have hoffset : f.stop.offset + byteLength f.stop.rest = s.offset + byteLength s.rest := by
        rw [hf.spans.offset, hgap.offset, hgap.rest, hf.spans.rest, byteLength_append,
          byteLength_append]
        omega
      refine ⟨(gap, .region r f.start.offset f.text inner) :: tiles, ?_, ?_⟩
      · rw [List.map_cons, hmap, hoffset]
        rfl
      · rw [hgap.rest, hf.spans.rest, ← List.append_assoc]
        refine Tiled.cons (m := .region r f.start.offset f.text inner) hgap.offset ?_
        simpa only [Match.finish, Match.start, Match.text, hf.spans.offset] using htiled
    · exact stop s

theorem exists_scan_tiled (scanner : Scanner) (text : List Char) :
    ∃ tiles : List Tile, tiles.map Prod.snd = scanner.scan text ∧ Tiled 0 text tiles := by
  obtain ⟨tiles, hmap, htiled⟩ := exists_tiled (scanner.regex.allMatches_successive text)
  refine ⟨tiles, ?_, htiled⟩
  rw [hmap]
  simp [scan, Spot.start]

end Scanner

namespace Instruction

/-- The text that a step appends as it is. -/
def literal? : Instruction → Option (List Char)
  | literal text => some text
  | _ => none

/-- The region a step comes from, with the code inside. -/
def code? : Instruction → Option (Region × List Char)
  | literal _ => none
  | escaped code => some (.escape, code)
  | raw code => some (.interpolate, code)
  | execute code => some (.evaluate, code)

theorem filterMap_literal?_steps (t : Tile) :
    t.steps.filterMap literal? = [t.1].filter (!·.isEmpty) := by
  obtain ⟨gap, m⟩ := t
  have hm : (ofMatch m).filterMap literal? = [] := by
    cases m with
    | stop => rfl
    | region r _ _ inner =>
      simp only [ofMatch]
      split
      · rfl
      · cases r <;> rfl
  cases gap <;> simp [Tile.steps, ofGap, hm, literal?]

/-- What a match has inside with its region, if there is something. -/
def regionCode? : Match → Option (Region × List Char)
  | .region r _ _ inner => if inner.isEmpty then none else some (r, inner)
  | .stop _ => none

theorem filterMap_code?_steps (t : Tile) :
    t.steps.filterMap code? = [t.2].filterMap regionCode? := by
  obtain ⟨gap, m⟩ := t
  have hgap : (ofGap gap).filterMap code? = [] := by
    unfold ofGap
    split <;> rfl
  cases m with
  | stop => simp [Tile.steps, hgap, ofMatch, regionCode?]
  | region r _ _ inner =>
    simp only [Tile.steps, List.filterMap_append, hgap, List.nil_append, ofMatch, regionCode?,
      List.filterMap_cons, List.filterMap_nil]
    split
    · rfl
    · cases r <;> rfl

end Instruction

theorem Tile.filterMap_literal?_flatMap_steps (tiles : List Tile) :
    (tiles.flatMap steps).filterMap Instruction.literal? =
      (tiles.map Prod.fst).filter (!·.isEmpty) := by
  induction tiles with
  | nil => rfl
  | cons t tiles ih =>
    rw [List.flatMap_cons, List.filterMap_append, Instruction.filterMap_literal?_steps, ih,
      ← List.filter_append]
    rfl

theorem Tile.filterMap_code?_flatMap_steps (tiles : List Tile) :
    (tiles.flatMap steps).filterMap Instruction.code? =
      (tiles.map Prod.snd).filterMap Instruction.regionCode? := by
  induction tiles with
  | nil => rfl
  | cons t tiles ih =>
    rw [List.flatMap_cons, List.filterMap_append, Instruction.filterMap_code?_steps, ih,
      ← List.filterMap_append]
    rfl

/-- The matches of a scan are finitely many, in order and without overlap, each of them lies in
the template where it says and has its inner text inside; the end comes once, after all regions and
at the end of the template. The appended texts of the steps are the texts before the matches that
are not empty, the other steps the regions with something inside, and both stand in the order of
the template, which these texts and the matches together give back. -/
theorem scan_tiles (scanner : Scanner) (text : List Char) :
    (∃ regions : List Match, scanner.scan text = regions ++ [.stop (byteLength text)] ∧
      ∀ m ∈ regions, m.isRegion = true) ∧
    (scanner.scan text).Pairwise (fun a b => a.finish ≤ b.start) ∧
    (∀ r start matched inner, Match.region r start matched inner ∈ scanner.scan text →
      inner <:+: matched) ∧
    ∃ tiles : List Tile,
      tiles.map Prod.snd = scanner.scan text ∧
      tiles.flatMap (fun t => t.1 ++ t.2.text) = text ∧
      (∀ before gap m after, tiles = before ++ (gap, m) :: after →
        m.start = byteLength (before.flatMap (fun t => t.1 ++ t.2.text) ++ gap)) ∧
      (instructions text (scanner.scan text)).filterMap Instruction.literal? =
        (tiles.map Prod.fst).filter (!·.isEmpty) ∧
      (instructions text (scanner.scan text)).filterMap Instruction.code? =
        (tiles.map Prod.snd).filterMap Instruction.regionCode? ∧
      instructions text (scanner.scan text) =
        tiles.flatMap fun t => Instruction.ofGap t.1 ++ Instruction.ofMatch t.2 := by
  obtain ⟨tiles, hmap, htiled⟩ := scanner.exists_scan_tiled text
  have hsteps : instructions text (scanner.scan text) = tiles.flatMap Tile.steps := by
    rw [← hmap]
    exact htiled.ofMatches_eq
  have hinner : ∀ r start matched inner,
      Match.region r start matched inner ∈ scanner.scan text → inner <:+: matched := by
    intro r start matched inner hm
    rcases List.mem_append.mp hm with hm | hm
    · exact Scanner.inner_infix_of_mem_regions (scanner.regex.allMatches_successive text) hm
    · simp at hm
  refine ⟨⟨_, rfl, fun m hm => Scanner.isRegion_of_mem_regions hm⟩, hmap ▸ htiled.pairwise,
    hinner, tiles, hmap, htiled.flatMap_text, ?_, ?_, ?_, hsteps⟩
  · intro before gap m after heq
    have hstart := htiled.start_eq before after gap m heq
    rwa [Nat.zero_add] at hstart
  · rw [hsteps, Tile.filterMap_literal?_flatMap_steps]
  · rw [hsteps, Tile.filterMap_code?_flatMap_steps]

end Microtemplate
