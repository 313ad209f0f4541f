import Microtemplate.Text.Lines
import Microtemplate.Text.Position

/-!
Lines and places. In a text whose lines end with line feeds only, the place of a character says in
which of the lines of the text the character stands, and where in this line.
-/

namespace Microtemplate.Text

/-- The lines of a text end with line feeds only. -/
def OnlyLineFeeds (cs : List Char) : Prop := ∀ c ∈ cs, endsLine c = true → c = '\n'

theorem lines_lineFeed (cs : List Char) : lines ('\n' :: cs) = ['\n'] :: lines cs := by
  rw [lines]
  · rfl
  · rintro rest ⟨⟩

theorem lines_cons {c : Char} (hc : endsLine c = false) (cs : List Char) :
    lines (c :: cs) = extendLine c (lines cs) := by
  have hne : c ≠ '\r' := by
    rintro rfl
    cases hc
  rw [lines, if_neg (by rw [hc]; exact Bool.false_ne_true)]
  rintro rest rfl
  exact absurd rfl hne

/-- A line among lines: how many lines stand before it, and how many characters. -/
structure IsLine (ls : List (List Char)) (l : Line) : Prop where
  exists_split : ∃ before after, ls = before ++ l.chars :: after ∧ l.number = before.length ∧
    l.start = before.flatten.length

theorem IsLine.getElem? {ls : List (List Char)} {l : Line} (h : IsLine ls l) :
    ls[l.number]? = some l.chars := by
  obtain ⟨before, after, rfl, hnumber, -⟩ := h.exists_split
  rw [hnumber, List.getElem?_append_right (Nat.le_refl _), Nat.sub_self]
  rfl

/-- The number of a line decides which line it is. -/
theorem IsLine.unique {ls : List (List Char)} {l l' : Line} (h : IsLine ls l) (h' : IsLine ls l')
    (hnumber : l.number = l'.number) : l = l' := by
  obtain ⟨number, start, chars⟩ := l
  obtain ⟨number', start', chars'⟩ := l'
  obtain ⟨before, after, hls, rfl, rfl⟩ := h.exists_split
  obtain ⟨before', after', hls', rfl, rfl⟩ := h'.exists_split
  obtain ⟨rfl, hchars⟩ := List.append_inj (hls.symm.trans hls') hnumber
  obtain ⟨rfl, -⟩ := List.cons.inj hchars
  rfl

theorem Line.mem_numbered {ls : List (List Char)} {l : Line} {number start : Nat}
    (h : l ∈ numbered number start ls) : ∃ before after, ls = before ++ l.chars :: after ∧
      l.number = number + before.length ∧ l.start = start + before.flatten.length := by
  induction ls generalizing number start with
  | nil => cases h
  | cons chars ls ih =>
    rcases List.mem_cons.mp h with rfl | h
    · exact ⟨[], ls, rfl, rfl, rfl⟩
    · obtain ⟨before, after, rfl, hnumber, hstart⟩ := ih h
      refine ⟨chars :: before, after, rfl, ?_, ?_⟩
      · rw [hnumber, List.length_cons]
        omega
      · rw [hstart, List.flatten_cons, List.length_append]
        omega

theorem Line.numbered_append (before ls : List (List Char)) (number start : Nat) :
    numbered number start (before ++ ls) = numbered number start before ++
      numbered (number + before.length) (start + before.flatten.length) ls := by
  induction before generalizing number start with
  | nil => rfl
  | cons chars before ih =>
    rw [List.cons_append, numbered, numbered, ih, List.cons_append, List.length_cons,
      List.flatten_cons, List.length_append]
    congr 3 <;> omega

/-- The line at a position of a text is one of its lines, and starts no later. -/
theorem Line.isLine_of_at? {cs : List Char} {position : Nat} {l : Line}
    (h : Line.at? cs position = some l) : IsLine (lines cs) l ∧ l.start ≤ position := by
  unfold Line.at? at h
  split at h
  · have hmem : l ∈ numbered 0 0 (lines cs) := List.mem_reverse.mp (List.mem_of_find?_eq_some h)
    obtain ⟨before, after, hls, hnumber, hstart⟩ := mem_numbered hmem
    rw [Nat.zero_add] at hnumber hstart
    exact ⟨⟨before, after, hls, hnumber, hstart⟩, by simpa using List.find?_some h⟩
  · cases h

/-- There is a line at every position of a text that is not empty, and at its end. -/
theorem Line.exists_at?_iff {cs : List Char} (hcs : cs ≠ []) {position : Nat} :
    (∃ l, Line.at? cs position = some l) ↔ position ≤ cs.length := by
  constructor
  · rintro ⟨l, hl⟩
    unfold Line.at? at hl
    split at hl
    · assumption
    · cases hl
  · intro hle
    have hlines : lines cs ≠ [] := by
      intro hnil
      refine hcs ?_
      rw [← flatten_lines cs, hnil]
      rfl
    obtain ⟨first, rest, hsplit⟩ := List.exists_cons_of_ne_nil hlines
    have hmem : ⟨0, 0, first⟩ ∈ (numbered 0 0 (lines cs)).reverse := by
      rw [hsplit, numbered]
      exact List.mem_reverse.mpr (List.mem_cons_self ..)
    unfold Line.at?
    rw [if_pos hle]
    exact Option.isSome_iff_exists.mp
      (List.find?_isSome.mpr ⟨_, hmem, decide_eq_true (Nat.zero_le position)⟩)

/-- The line of a character is the one that it stands in. -/
theorem Line.at?_eq {cs : List Char} {position : Nat} {l : Line} (h : IsLine (lines cs) l)
    (hstart : l.start ≤ position) (hstop : position < l.stop) : Line.at? cs position = some l := by
  obtain ⟨number, start, chars⟩ := l
  obtain ⟨before, after, hls, rfl, rfl⟩ := h.exists_split
  have hlength : cs.length = before.flatten.length + (chars.length + after.flatten.length) := by
    rw [← flatten_lines cs, hls, List.flatten_append, List.flatten_cons, List.length_append,
      List.length_append]
  have hlater : ∀ l ∈ (numbered (before.length + 1) (before.flatten.length + chars.length) after).reverse,
      ¬ decide (l.start ≤ position) = true := by
    intro l hl
    obtain ⟨_, _, -, -, hl⟩ := mem_numbered (List.mem_reverse.mp hl)
    rw [decide_eq_true_eq, hl]
    change position < before.flatten.length + chars.length at hstop
    omega
  change position < before.flatten.length + chars.length at hstop
  rw [at?, if_pos (by omega), hls, numbered_append, numbered, Nat.zero_add, Nat.zero_add,
    List.reverse_append, List.reverse_cons, List.append_assoc, List.find?_append,
    List.find?_eq_none.mpr hlater, Option.none_or, List.singleton_append,
    List.find?_cons_of_pos (by simpa using hstart)]

/-- A text that is not empty starts with a line that is not. -/
theorem exists_first_line {c : Char} (hc : endsLine c = true → c = '\n') (cs : List Char) :
    ∃ chars after, lines (c :: cs) = (c :: chars) :: after := by
  cases hends : endsLine c with
  | true =>
    obtain rfl := hc hends
    exact ⟨[], lines cs, lines_lineFeed cs⟩
  | false =>
    rw [lines_cons hends]
    cases lines cs with
    | nil => exact ⟨[], [], rfl⟩
    | cons chars after => exact ⟨chars, after, rfl⟩

theorem IsLine.start_eq_zero {ls : List (List Char)} {l : Line} (h : IsLine ls l)
    (hnumber : l.number = 0) : l.start = 0 := by
  obtain ⟨before, after, -, hbefore, hstart⟩ := h.exists_split
  rw [hstart, List.length_eq_zero_iff.mp (hbefore.symm.trans hnumber)]
  rfl

/-- With a line feed in front of a text its lines have one more before them. -/
theorem IsLine.after_lineFeed {cs : List Char} {l : Line} (h : IsLine (lines cs) l) :
    IsLine (lines ('\n' :: cs)) ⟨l.number + 1, l.start + 1, l.chars⟩ := by
  obtain ⟨before, after, hsplit, hnumber, hstart⟩ := h.exists_split
  refine ⟨['\n'] :: before, after, by rw [lines_lineFeed, hsplit]; rfl, congrArg Nat.succ hnumber, ?_⟩
  change l.start + 1 = (['\n'] :: before).flatten.length
  rw [hstart, List.flatten_cons, List.length_append, List.length_singleton, Nat.add_comm]

/-- With another character in front of a text its first line is longer and the others start later. -/
theorem IsLine.after_char {c : Char} (hc : endsLine c = false) {cs : List Char} {l : Line}
    (h : IsLine (lines cs) l) : ∃ l', IsLine (lines (c :: cs)) l' ∧ l'.number = l.number ∧
      l'.start = (if l.number = 0 then 0 else l.start + 1) ∧ l'.stop = l.stop + 1 := by
  obtain ⟨number, start, chars⟩ := l
  obtain ⟨before, after, hsplit, rfl, rfl⟩ := h.exists_split
  cases before with
  | nil =>
    refine ⟨⟨0, 0, c :: chars⟩, ⟨[], after, by rw [lines_cons hc, hsplit]; rfl, rfl, rfl⟩, rfl, rfl, ?_⟩
    change 0 + (chars.length + 1) = 0 + chars.length + 1
    omega
  | cons first before =>
    refine ⟨⟨before.length + 1, (first :: before).flatten.length + 1, chars⟩,
      ⟨(c :: first) :: before, after, by rw [lines_cons hc, hsplit]; rfl, rfl, ?_⟩, rfl, rfl, ?_⟩
    · change (first :: before).flatten.length + 1 = ((c :: first) :: before).flatten.length
      rw [List.flatten_cons, List.flatten_cons, List.length_append, List.length_append,
        List.length_cons]
      omega
    · exact Nat.add_right_comm _ _ _

/-- The place of a character of a text, counted from any place where the text starts, is that in the
line where the character stands. -/
theorem exists_isLine {cs : List Char} (hcs : OnlyLineFeeds cs) {k : Nat} (hk : k < cs.length)
    (line column : Nat) : ∃ l, IsLine (lines cs) l ∧ l.start ≤ k ∧ k < l.stop ∧
      (cs.take k).foldl Place.after ⟨line, column⟩ =
        ⟨line + l.number, if l.number = 0 then column + k else k - l.start + 1⟩ := by
  induction cs generalizing k line column with
  | nil => cases hk
  | cons c cs ih =>
    obtain ⟨hc, hrest⟩ := List.forall_mem_cons.mp hcs
    cases k with
    | zero =>
      obtain ⟨chars, after, hlines⟩ := exists_first_line hc cs
      exact ⟨⟨0, 0, c :: chars⟩, ⟨[], after, hlines, rfl, rfl⟩, Nat.le_refl 0, Nat.succ_pos _, rfl⟩
    | succ k =>
      have hk' : k < cs.length := Nat.lt_of_succ_lt_succ hk
      rw [List.take_succ_cons, List.foldl_cons]
      by_cases hfeed : c = '\n'
      · subst hfeed
        obtain ⟨l, hl, hstart, hstop, hplace⟩ := ih hrest hk' (line + 1) 1
        refine ⟨_, hl.after_lineFeed, Nat.succ_le_succ hstart, ?_, hplace.trans ?_⟩
        · change k + 1 < l.start + 1 + l.chars.length
          change k < l.start + l.chars.length at hstop
          omega
        · rw [if_neg (Nat.succ_ne_zero _), Nat.add_sub_add_right]
          congr 1
          · exact (Nat.add_assoc line 1 l.number).trans (congrArg _ (Nat.add_comm 1 l.number))
          · split
            · rename_i hzero
              rw [hl.start_eq_zero hzero]
              exact Nat.add_comm 1 k
            · rfl
      · have hends : endsLine c = false := Bool.eq_false_iff.mpr fun hends => hfeed (hc hends)
        have hafter : Place.after ⟨line, column⟩ c = ⟨line, column + 1⟩ := if_neg hfeed
        obtain ⟨l, hl, hstart, hstop, hplace⟩ := ih hrest hk' line (column + 1)
        obtain ⟨l', hl', hnumber, hstart', hstop'⟩ := hl.after_char hends
        refine ⟨l', hl', ?_, by omega, ?_⟩
        · rw [hstart']
          split <;> omega
        · rw [hafter, hplace, hnumber, hstart']
          split
          · rw [Nat.add_right_comm, Nat.add_assoc]
          · rw [Nat.add_sub_add_right]

/-- The place of a character of a text. -/
theorem exists_isLine_placeAfter {cs : List Char} (hcs : OnlyLineFeeds cs) {k : Nat}
    (hk : k < cs.length) : ∃ l, IsLine (lines cs) l ∧ l.start ≤ k ∧ k < l.stop ∧
      placeAfter (cs.take k) = ⟨l.number + 1, k - l.start + 1⟩ := by
  obtain ⟨l, hl, hstart, hstop, hplace⟩ := exists_isLine hcs hk 1 1
  refine ⟨l, hl, hstart, hstop, hplace.trans ?_⟩
  congr 1
  · exact Nat.add_comm 1 _
  · split
    · rename_i hzero
      rw [hl.start_eq_zero hzero]
      exact Nat.add_comm 1 k
    · rfl

end Microtemplate.Text
