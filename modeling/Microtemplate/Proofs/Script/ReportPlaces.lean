import Mathlib
import Microtemplate.Proofs.Text.Boundaries
import Microtemplate.Proofs.Text.Lines
import Microtemplate.Report

/-!
The place that a report prints. A report counts bytes where the place of an error counts characters,
so it prints the place of the error only if all characters before the error have one byte; then the
line drawn below it is the line of this place.
-/

namespace Microtemplate.Script.SyntaxError

open Text

/-- What is printed before a place. -/
def placeLabel : List Char := "╭─[<generated program>:".toList

/-- How a place is printed. -/
def placeText (p : Place) : List Char :=
  placeLabel ++ (toString p.line).toList ++ ':' :: (toString p.column).toList ++ [']']

/-- The title of a report. -/
def title (e : SyntaxError) : List Char := "Error: Template syntax error: ".toList ++ e.message.toList

/-- The report of an error prints a place: below the title, after blanks. -/
def Prints (e : SyntaxError) (p : Place) : Prop :=
  ∃ margin more, e.report.toList =
    e.title ++ '\n' :: (Excerpt.signs ' ' margin ++ placeText p ++ '\n' :: more)

/-- The report of an error prints a place and, below it, the line of the program with this place and
its number. -/
def PrintsLine (e : SyntaxError) (p : Place) : Prop :=
  ∃ line margin room more, (lines e.program.toList)[p.line - 1]? = some line ∧
    e.report.toList = e.title ++ '\n' :: (Excerpt.signs ' ' margin ++ placeText p ++ '\n' ::
      (Excerpt.signs ' ' margin ++ '│' :: '\n' :: ' ' :: (Excerpt.signs ' ' room ++
        (toString p.line).toList ++ ' ' :: '│' :: ' ' :: (shownLine line ++ '\n' :: more))))

section Digits

/-- A number in decimal figures ends where another character follows. -/
theorem number_of_append {m n : Nat} {c : Char} (hc : c.isDigit = false) {u v : List Char}
    (h : (toString m).toList ++ c :: u = (toString n).toList ++ c :: v) : m = n ∧ u = v := by
  have hdigits : ∀ k : Nat, ∀ d ∈ (toString k).toList, d.isDigit = true := by
    intro k d hd
    change d ∈ k.repr.toList at hd
    rw [Nat.repr_eq_ofList_toDigits, String.toList_ofList] at hd
    exact Nat.isDigit_of_mem_toDigits (by decide) (by decide) hd
  have htake : ∀ (k : Nat) (w : List Char),
      ((toString k).toList ++ c :: w).takeWhile Char.isDigit = (toString k).toList := by
    intro k w
    rw [List.takeWhile_append_of_pos (hdigits k), List.takeWhile_cons_of_neg (by rw [hc]; decide),
      List.append_nil]
  have hnumber : (toString m).toList = (toString n).toList := by
    rw [← htake m u, h, htake n v]
  obtain ⟨-, htail⟩ := List.append_inj h (congrArg List.length hnumber)
  exact ⟨Nat.repr_inj.mp (String.toList_injective hnumber), (List.cons.inj htail).2⟩

theorem place_of_append {p q : Place} {u v : List Char}
    (h : placeText p ++ u = placeText q ++ v) : p = q := by
  unfold placeText at h
  simp only [List.append_assoc] at h
  have hnumbers := List.append_cancel_left h
  simp only [List.cons_append] at hnumbers
  obtain ⟨hline, hcolumn⟩ := number_of_append (by decide) hnumbers
  obtain ⟨hcolumn, -⟩ := number_of_append (by decide) hcolumn
  obtain ⟨line, column⟩ := p
  obtain rfl : line = q.line := hline
  obtain rfl : column = q.column := hcolumn
  rfl

end Digits

theorem of_blanks_append {a b : Nat} {c d : Char} {u v : List Char} (hc : c ≠ ' ') (hd : d ≠ ' ')
    (h : Excerpt.signs ' ' a ++ c :: u = Excerpt.signs ' ' b ++ d :: v) : c :: u = d :: v := by
  have hdrop : ∀ (k : Nat) (s : Char) (w : List Char), s ≠ ' ' →
      (Excerpt.signs ' ' k ++ s :: w).dropWhile (· == ' ') = s :: w := by
    intro k s w hs
    rw [Excerpt.signs, List.dropWhile_append_of_pos, List.dropWhile_cons_of_neg (by simpa using hs)]
    intro t ht
    rw [(List.mem_replicate.mp ht).2]
    rfl
  rw [← hdrop a c u hc, h, hdrop b d v hd]

theorem exists_placeText (p : Place) : ∃ w, placeText p = '╭' :: w := by
  have hlabel : placeLabel = '╭' :: "─[<generated program>:".toList := by decide
  exact ⟨_, by rw [placeText, hlabel, List.cons_append, List.cons_append, List.cons_append]⟩

/-- A report prints one place at most. -/
theorem Prints.unique {e : SyntaxError} {p q : Place} (hp : e.Prints p) (hq : e.Prints q) :
    p = q := by
  obtain ⟨a, u, hu⟩ := hp
  obtain ⟨b, v, hv⟩ := hq
  have hbelow := (List.cons.inj (List.append_cancel_left (hu.symm.trans hv))).2
  simp only [List.append_assoc] at hbelow
  obtain ⟨w, hw⟩ := exists_placeText p
  obtain ⟨w', hw'⟩ := exists_placeText q
  rw [hw, hw', List.cons_append, List.cons_append] at hbelow
  have htexts := of_blanks_append (by decide) (by decide) hbelow
  rw [← List.cons_append, ← List.cons_append, ← hw, ← hw'] at htexts
  exact place_of_append htexts

theorem toList_report (e : SyntaxError) : e.report.toList =
    (e.title :: (e.excerpt?.map Excerpt.rows).getD []).flatMap (· ++ ['\n']) :=
  String.toList_ofList

/-- A report with an excerpt prints the place where its mark starts, bytes counted as characters. -/
theorem prints_of_excerpt {e : SyntaxError} {x : Excerpt} (h : e.excerpt? = some x) :
    e.Prints ⟨x.first.number + 1, x.start - x.first.start + 1⟩ := by
  have hlocation : x.location = placeText ⟨x.first.number + 1, x.start - x.first.start + 1⟩ := rfl
  have hrows : x.rows = (Excerpt.signs ' ' (x.numberRoom + 2) ++ x.location) :: x.rows.drop 1 := rfl
  refine ⟨x.numberRoom + 2, (x.rows.drop 1).flatMap (· ++ ['\n']), ?_⟩
  rw [toList_report, h, Option.map_some, Option.getD_some, hrows, List.flatMap_cons,
    List.flatMap_cons, ← hlocation]
  simp only [List.append_assoc, List.singleton_append, List.drop_succ_cons, List.drop_zero]

/-- A report without an excerpt prints no place. -/
theorem exists_excerpt_of_prints {e : SyntaxError} {p : Place} (h : e.Prints p) :
    ∃ x, e.excerpt? = some x := by
  obtain ⟨margin, more, hreport⟩ := h
  cases hx : e.excerpt? with
  | some x => exact ⟨x, rfl⟩
  | none =>
    obtain ⟨w, hw⟩ := exists_placeText p
    rw [toList_report, hx, Option.map_none, Option.getD_none, List.flatMap_cons, List.flatMap_nil,
      List.append_nil, hw] at hreport
    have hbelow := (List.cons.inj (List.append_cancel_left hreport)).2
    have hlength := congrArg List.length hbelow
    simp at hlength

section Mark

variable {e : SyntaxError} {before after : List Char} {c : Char}
  (hprogram : e.program.toList = before ++ c :: after) (hoffset : e.offset = byteLength before)

include hprogram hoffset

theorem place_eq : e.place = placeAfter (e.program.toList.take before.length) := by
  rw [place, placeAt, hoffset, hprogram, beforeOffset_append, List.take_left]

theorem beforeMark_eq : e.beforeMark = before := by
  unfold beforeMark
  dsimp only
  rw [hoffset, hprogram, beforeOffset_append, if_neg]
  rw [List.length_append, List.length_cons]
  omega

theorem markStart_eq : e.markStart = byteLength before := by
  rw [markStart, beforeMark_eq hprogram hoffset]

theorem markStop_eq : e.markStop = byteLength before + c.utf8Size := by
  have hget : e.program.toList[before.length]? = some c := by
    rw [hprogram, List.getElem?_append_right (Nat.le_refl _), Nat.sub_self]
    rfl
  rw [markStop, markStart_eq hprogram hoffset, beforeMark_eq hprogram hoffset, hget]
  rfl

theorem exists_excerpt_iff : (∃ x, e.excerpt? = some x) ↔
    byteLength before ≤ e.program.toList.length ∧
      byteLength before + c.utf8Size - 1 ≤ e.program.toList.length := by
  have hne : e.program.toList ≠ [] := by
    rw [hprogram]
    exact List.append_ne_nil_of_right_ne_nil _ (List.cons_ne_nil _ _)
  rw [← Line.exists_at?_iff hne, ← Line.exists_at?_iff hne, ← markStop_eq hprogram hoffset,
    ← markStart_eq hprogram hoffset]
  unfold excerpt?
  constructor
  · rintro ⟨x, hx⟩
    obtain ⟨first, hfirst, hx⟩ := Option.bind_eq_some_iff.mp hx
    obtain ⟨last, hlast, -⟩ := Option.bind_eq_some_iff.mp hx
    exact ⟨⟨first, hfirst⟩, ⟨last, hlast⟩⟩
  · rintro ⟨⟨first, hfirst⟩, ⟨last, hlast⟩⟩
    exact ⟨_, by rw [hfirst, hlast]; rfl⟩

variable (hlines : OnlyLineFeeds e.program.toList)

include hlines

/-- The line in which the error is, and the place of the error in it. -/
theorem exists_line_of_place : ∃ l, IsLine (lines e.program.toList) l ∧ l.start ≤ before.length ∧
    before.length < l.stop ∧ e.place = ⟨l.number + 1, before.length - l.start + 1⟩ := by
  have hlt : before.length < e.program.toList.length := by
    rw [hprogram, List.length_append, List.length_cons]
    omega
  rw [place_eq hprogram hoffset]
  exact exists_isLine_placeAfter hlines hlt

/-- Where the place of the error is printed, bytes are counted as the characters are. -/
theorem byteLength_of_prints (h : e.Prints e.place) : byteLength before = before.length := by
  obtain ⟨x, hx⟩ := exists_excerpt_of_prints h
  obtain ⟨l, hl, hstart, -, hplace⟩ := exists_line_of_place hprogram hoffset hlines
  have hsame := hplace.symm.trans (h.unique (prints_of_excerpt hx))
  obtain ⟨first, hfirst, hx⟩ := Option.bind_eq_some_iff.mp hx
  obtain ⟨last, -, hx⟩ := Option.bind_eq_some_iff.mp hx
  cases hx
  obtain ⟨hisLine, hle⟩ := Line.isLine_of_at? hfirst
  obtain ⟨hnumber, hcolumn⟩ := Place.mk.inj hsame
  obtain rfl := hl.unique hisLine (Nat.succ.inj hnumber)
  change before.length - l.start + 1 = e.markStart - l.start + 1 at hcolumn
  rw [markStart_eq hprogram hoffset] at hle hcolumn
  omega

/-- The excerpt of an error with only characters of one byte before it. -/
theorem exists_excerpt_of_ascii (hbefore : byteLength before = before.length)
    (hmark : c.utf8Size ≤ after.length + 2) : ∃ x, e.excerpt? = some x ∧
      IsLine (lines e.program.toList) x.first ∧ x.start = before.length ∧
      x.stop = before.length + c.utf8Size ∧ before.length < x.first.stop ∧
      Line.at? e.program.toList (before.length + c.utf8Size - 1) = some x.last ∧
      Line.at? e.program.toList before.length = some x.first ∧
      e.place = ⟨x.first.number + 1, x.start - x.first.start + 1⟩ := by
  have hlength : e.program.toList.length = before.length + after.length + 1 := by
    rw [hprogram, List.length_append, List.length_cons]
    omega
  obtain ⟨l, hl, hstart, hstop, hplace⟩ := exists_line_of_place hprogram hoffset hlines
  have hline := Line.at?_eq hl hstart hstop
  obtain ⟨x, hx⟩ := (exists_excerpt_iff hprogram hoffset).mpr ⟨by omega, by omega⟩
  have hexcerpt := hx
  obtain ⟨first, hfirst, hx⟩ := Option.bind_eq_some_iff.mp hx
  obtain ⟨last, hlast, hx⟩ := Option.bind_eq_some_iff.mp hx
  cases hx
  rw [markStart_eq hprogram hoffset, hbefore] at hfirst
  rw [markStop_eq hprogram hoffset, hbefore] at hlast
  obtain rfl := Option.some.inj (hline.symm.trans hfirst)
  have hmarkStart : e.markStart = before.length := by rw [markStart_eq hprogram hoffset, hbefore]
  have hmarkStop : e.markStop = before.length + c.utf8Size := by
    rw [markStop_eq hprogram hoffset, hbefore]
  refine ⟨_, hexcerpt, hl, hmarkStart, hmarkStop, hstop, hlast, hline, ?_⟩
  rw [hplace, hmarkStart]

/-- The line below the place, where the mark is within this line. -/
theorem printsLine_of_ascii (hbefore : byteLength before = before.length) (hc : c.utf8Size = 1) :
    e.PrintsLine e.place := by
  obtain ⟨x, hx, hl, hstart, hstop, hlt, hlast, hfirst, hplace⟩ :=
    exists_excerpt_of_ascii hprogram hoffset hlines hbefore (by omega)
  rw [hc, Nat.add_sub_cancel, hfirst] at hlast
  have hsame : x.first = x.last := Option.some.inj hlast
  have hover : x.isOverLines = false := by
    rw [Excerpt.isOverLines, hsame, bne_self_eq_false]
  have hinLine : x.stop ≤ x.first.stop := by omega
  have hlocation : x.location = placeText e.place := by rw [hplace]; rfl
  have hrows : x.rows = (x.margin ++ x.location) :: (x.margin ++ ['│']) ::
      (x.lineStart x.first ++ shownLine x.first.chars) :: x.rows.drop 3 := by
    unfold Excerpt.rows
    rw [hover, if_neg Bool.false_ne_true, Excerpt.rowsInLine, if_pos hinLine]
    rfl
  have hnumber : Excerpt.numberChars x.first = (toString e.place.line).toList := by rw [hplace]; rfl
  refine ⟨x.first.chars, x.numberRoom + 2, x.numberRoom - (Excerpt.numberChars x.first).length,
    (x.rows.drop 3).flatMap (· ++ ['\n']), ?_, ?_⟩
  · rw [hplace]
    exact hl.getElem?
  · rw [toList_report, hx, Option.map_some, Option.getD_some, hrows, List.flatMap_cons,
      List.flatMap_cons, List.flatMap_cons, List.flatMap_cons, ← hlocation, ← hnumber]
    simp only [Excerpt.lineStart, Excerpt.margin, List.append_assoc, List.cons_append,
      List.nil_append, List.drop_succ_cons, List.drop_zero]

omit hlines in
/-- For an error at a character of a program whose lines end with line feeds only, the report prints
the place of the error just if every character before it has one byte and its own bytes, counted as
characters, do not run beyond the end of the program. If it has one byte as well, the line that is
drawn below the place is the line with this place. -/
theorem report_prints_place (hlines : OnlyLineFeeds e.program.toList) :
    (e.Prints e.place ↔ (∀ d ∈ before, d.utf8Size = 1) ∧ c.utf8Size ≤ after.length + 2) ∧
      ((∀ d ∈ before, d.utf8Size = 1) → c.utf8Size = 1 → e.PrintsLine e.place) := by
  rw [← byteLength_eq_length_iff]
  refine ⟨⟨fun h => ?_, fun ⟨hbefore, hmark⟩ => ?_⟩,
    printsLine_of_ascii hprogram hoffset hlines⟩
  · have hbefore := byteLength_of_prints hprogram hoffset hlines h
    obtain ⟨-, hmark⟩ := (exists_excerpt_iff hprogram hoffset).mp (exists_excerpt_of_prints h)
    rw [hprogram, List.length_append, List.length_cons] at hmark
    exact ⟨hbefore, by omega⟩
  · obtain ⟨x, hx, -, -, -, -, -, -, hplace⟩ :=
      exists_excerpt_of_ascii hprogram hoffset hlines hbefore hmark
    rw [hplace]
    exact prints_of_excerpt hx

end Mark

/-- An accent behind the error does no harm, and two before it move the place to the next line. -/
theorem report_prints_place_of_accents :
    (⟨"unexpected", 4, "a\n+ )é"⟩ : SyntaxError).PrintsLine ⟨2, 3⟩ ∧
      ¬ (⟨"unexpected", 5, "éé\n)\nbb"⟩ : SyntaxError).Prints ⟨2, 1⟩ := by
  have hbehind : ("a\n+ )é" : String).toList = ['a', '\n', '+', ' '] ++ ')' :: ['é'] := by decide
  have hbefore : ("éé\n)\nbb" : String).toList = ['é', 'é', '\n'] ++ ')' :: ['\n', 'b', 'b'] := by
    decide
  have hfeeds : ∀ cs : List Char, cs.all (fun c => !endsLine c || c == '\n') = true →
      OnlyLineFeeds cs := by
    intro cs hall c hc hends
    have h := List.all_eq_true.mp hall c hc
    rw [hends, Bool.not_true, Bool.false_or] at h
    exact eq_of_beq h
  constructor
  · have hascii : ∀ d ∈ ['a', '\n', '+', ' '], d.utf8Size = 1 := by simp [Char.utf8Size]
    have hline := (report_prints_place (e := ⟨"unexpected", 4, "a\n+ )é"⟩) hbehind rfl
      (hfeeds _ (by decide))).2 hascii rfl
    have hplace : (⟨"unexpected", 4, "a\n+ )é"⟩ : SyntaxError).place = ⟨2, 3⟩ := by decide
    rwa [hplace] at hline
  · have hiff := (report_prints_place (e := ⟨"unexpected", 5, "éé\n)\nbb"⟩) hbefore rfl
      (hfeeds _ (by decide))).1
    have hplace : (⟨"unexpected", 5, "éé\n)\nbb"⟩ : SyntaxError).place = ⟨2, 1⟩ := by decide
    rw [hplace] at hiff
    intro hprints
    exact absurd ((hiff.mp hprints).1 'é' (by decide)) (by decide)

end Microtemplate.Script.SyntaxError
