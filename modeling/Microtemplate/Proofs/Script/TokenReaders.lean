import Microtemplate.Proofs.Script.Lexing

/-!
The readers of tokens. Each of them takes some characters from the start of a text and leaves an end of
it. For the readers that run others first, it is said here what they come to once the others are done.
-/

namespace Microtemplate.Script

namespace Lexer

open Decimal (signOf fractionOf)

/-- What runs one reader and then another one succeeds if both do. -/
theorem bind_eq_ok {α β : Type} {x : Except Fault α} {f : α → Except Fault β} {b : β} :
    (x >>= f) = .ok b ↔ ∃ a, x = .ok a ∧ f a = .ok b := by
  cases x with
  | error e => exact ⟨nofun, by rintro ⟨_, ⟨⟩, _⟩⟩
  | ok a => exact ⟨fun h => ⟨a, rfl, h⟩, by rintro ⟨_, ⟨⟩, h⟩; exact h⟩

/-- A reader that succeeds has come to what it is said to come to. -/
theorem ok_eq_ok_iff {α : Type} {a a' : α} {left left' : List Char} :
    (Except.ok (a, left) : Except Fault (α × List Char)) = .ok (a', left') ↔ a' = a ∧ left' = left := by
  rw [Except.ok.injEq, Prod.mk.injEq, eq_comm, @eq_comm _ left]

theorem span_suffix (p : Char → Bool) (cs : List Char) : (cs.span p).2 <:+ cs := by
  rw [List.span_eq_takeWhile_dropWhile]
  exact List.dropWhile_suffix p

/-- What is left of a text after some characters that end no line. -/
def LeavesOnLine (cs rest : List Char) : Prop := ∃ taken, cs = taken ++ rest ∧ '\n' ∉ taken

namespace LeavesOnLine

variable {c : Char} {cs rest rest' : List Char}

theorem suffix (h : LeavesOnLine cs rest) : rest <:+ cs := by
  obtain ⟨taken, htaken, -⟩ := h
  exact ⟨taken, htaken.symm⟩

theorem refl (cs : List Char) : LeavesOnLine cs cs := ⟨[], rfl, List.not_mem_nil⟩

theorem trans (h : LeavesOnLine cs rest) (h' : LeavesOnLine rest rest') : LeavesOnLine cs rest' := by
  obtain ⟨taken, rfl, htaken⟩ := h
  obtain ⟨more, rfl, hmore⟩ := h'
  exact ⟨taken ++ more, (List.append_assoc ..).symm,
    fun hmem => (List.mem_append.mp hmem).elim htaken hmore⟩

theorem cons (hc : c ≠ '\n') (h : LeavesOnLine cs rest) : LeavesOnLine (c :: cs) rest :=
  trans ⟨[c], rfl, fun hmem => hc (List.mem_singleton.mp hmem).symm⟩ h

theorem span {p : Char → Bool} (hp : p '\n' = false) (cs : List Char) :
    LeavesOnLine cs (cs.span p).2 := by
  rw [List.span_eq_takeWhile_dropWhile]
  refine ⟨cs.takeWhile p, List.takeWhile_append_dropWhile.symm, fun hmem => ?_⟩
  have hsatisfies := List.all_takeWhile (p := p) (l := cs)
  rw [List.all_eq_true.mp hsatisfies _ hmem] at hp
  cases hp

end LeavesOnLine

section Numbers

variable {start cs rest : List Char} {x : Float}

theorem exponent_cons (d : Char) (ds : List Char) : exponent (d :: ds) =
    if d = 'e' || d = 'E' then
      let figures := (signOf ds).2.span Char.isDigit
      if figures.1.isEmpty then .error ⟨.missingExponent, d :: ds⟩
      else .ok (if (signOf ds).1 then -(Decimal.figuresValue figures.1 : Int)
        else Decimal.figuresValue figures.1, figures.2)
    else .ok (0, d :: ds) := rfl

theorem signOf_append (h : cs ≠ []) (more : List Char) :
    signOf (cs ++ more) = ((signOf cs).1, (signOf cs).2 ++ more) := by
  obtain ⟨d, ds, rfl⟩ := List.exists_cons_of_ne_nil h
  by_cases hminus : d = '-'
  · subst hminus
    rfl
  · by_cases hplus : d = '+'
    · subst hplus
      rfl
    · have hsign : ∀ es, signOf (d :: es) = (false, d :: es) := by
        intro es
        rw [signOf]
        · rintro _ ⟨⟩
          exact hminus rfl
        · rintro _ ⟨⟩
          exact hplus rfl
      rw [List.cons_append, hsign, hsign, List.cons_append]

theorem decimal_eq (start : List Char) : decimal start =
    exponent (fractionOf (start.span Char.isDigit).2).2 >>= fun p =>
      endNumber start ((Decimal.Numeral.ofParts (start.span Char.isDigit).1
        (fractionOf (start.span Char.isDigit).2).1 p.1).toFloat false) p.2 := rfl

theorem signOf_leaves (cs : List Char) : LeavesOnLine cs (signOf cs).2 := by
  fun_cases signOf cs
  · exact .cons (by decide) (.refl _)
  · exact .cons (by decide) (.refl _)
  · exact .refl _

theorem fractionOf_leaves (cs : List Char) : LeavesOnLine cs (fractionOf cs).2 := by
  fun_cases fractionOf cs
  · exact .cons (by decide) (.span rfl _)
  · exact .refl _

theorem exponent_letter {power : Int} {d : Char} (hd : d = 'e' ∨ d = 'E') :
    exponent (d :: cs) = .ok (power, rest) ↔
      ((signOf cs).2.span Char.isDigit).1.isEmpty = false ∧
        power = (if (signOf cs).1 then -(Decimal.figuresValue ((signOf cs).2.span Char.isDigit).1 : Int)
          else Decimal.figuresValue ((signOf cs).2.span Char.isDigit).1) ∧
        rest = ((signOf cs).2.span Char.isDigit).2 := by
  rw [exponent_cons, if_pos (by simpa using hd)]
  dsimp only
  split
  · rename_i hnone
    exact ⟨nofun, fun h => by rw [h.1] at hnone; cases hnone⟩
  · rename_i hsome
    rw [ok_eq_ok_iff]
    exact ⟨fun h => ⟨Bool.not_eq_true _ |>.mp hsome, h⟩, fun h => h.2⟩

theorem exponent_none (h : ∀ d ∈ cs.head?, ¬ (d = 'e' ∨ d = 'E')) : exponent cs = .ok (0, cs) := by
  cases cs with
  | nil => rfl
  | cons d ds => rw [exponent_cons, if_neg (by simpa using h d rfl)]

theorem exponent_leaves {power : Int} (h : exponent cs = .ok (power, rest)) :
    LeavesOnLine cs rest := by
  by_cases hletter : ∃ d ds, (d = 'e' ∨ d = 'E') ∧ cs = d :: ds
  · obtain ⟨d, ds, hd, rfl⟩ := hletter
    obtain ⟨-, -, rfl⟩ := (exponent_letter hd).mp h
    have hline : d ≠ '\n' := by rcases hd with rfl | rfl <;> decide
    exact .cons hline ((signOf_leaves ds).trans (.span rfl _))
  · rw [exponent_none] at h
    · cases h
      exact .refl _
    · intro d hd hd'
      obtain ⟨ds, rfl⟩ := List.head?_eq_some_iff.mp hd
      exact hletter ⟨d, ds, hd', rfl⟩

/-- Neither a word nor a figure may follow a number directly. -/
def EndsNumber (rest : List Char) : Prop :=
  ∀ c ∈ rest.head?, (isIdentifierStart c || c.isDigit) = false

theorem EndsNumber.isIdentifierStart (h : EndsNumber rest) :
    ∀ c ∈ rest.head?, isIdentifierStart c = false :=
  fun c hc => (Bool.or_eq_false_iff.mp (h c hc)).1

theorem endNumber_eq_ok_iff {value : Float} :
    endNumber start value cs = .ok (x, rest) ↔ x = value ∧ rest = cs ∧ EndsNumber cs := by
  cases cs with
  | nil =>
    rw [endNumber, ok_eq_ok_iff]
    exact ⟨fun h => ⟨h.1, h.2, nofun⟩, fun h => ⟨h.1, h.2.1⟩⟩
  | cons d ds =>
    rw [endNumber]
    split
    · rename_i hd
      refine ⟨nofun, fun h => ?_⟩
      rw [h.2.2 d rfl] at hd
      cases hd
    · rename_i hd
      rw [ok_eq_ok_iff]
      refine ⟨fun h => ⟨h.1, h.2, ?_⟩, fun h => ⟨h.1, h.2.1⟩⟩
      rintro _ ⟨⟩
      exact Bool.not_eq_true _ |>.mp hd

theorem hexadecimal_leaves (h : hexadecimal start cs = .ok (x, rest)) :
    LeavesOnLine cs rest ∧ EndsNumber rest := by
  rw [hexadecimal] at h
  dsimp only at h
  split at h
  · cases h
  · obtain ⟨-, rfl, hend⟩ := endNumber_eq_ok_iff.mp h
    exact ⟨.span rfl cs, hend⟩

theorem decimal_leaves (h : decimal start = .ok (x, rest)) :
    LeavesOnLine (fractionOf (start.span Char.isDigit).2).2 rest ∧ EndsNumber rest := by
  rw [decimal_eq] at h
  obtain ⟨p, hpower, hnumber⟩ := bind_eq_ok.mp h
  obtain ⟨-, rfl, hend⟩ := endNumber_eq_ok_iff.mp hnumber
  exact ⟨exponent_leaves hpower, hend⟩

theorem number_hexadecimal {c : Char} (hc : c = 'x' ∨ c = 'X') (cs : List Char) :
    number ('0' :: c :: cs) = hexadecimal ('0' :: c :: cs) cs := by
  rcases hc with rfl | rfl <;> rfl

theorem number_decimal (h : ∀ c, c = 'x' ∨ c = 'X' → ∀ cs, start ≠ '0' :: c :: cs) :
    number start = decimal start :=
  number.eq_3 start (h 'x' (Or.inl rfl)) (h 'X' (Or.inr rfl))

/-- A number stays on its line, and no word follows it directly. -/
theorem number_leaves (h : number start = .ok (x, rest)) :
    LeavesOnLine start rest ∧ EndsNumber rest := by
  by_cases hprefix : ∃ c cs, (c = 'x' ∨ c = 'X') ∧ start = '0' :: c :: cs
  · obtain ⟨c, cs, hc, rfl⟩ := hprefix
    rw [number_hexadecimal hc] at h
    have hline : c ≠ '\n' := by rcases hc with rfl | rfl <;> decide
    exact (hexadecimal_leaves h).imp_left fun h => .cons (by decide) (.cons hline h)
  · rw [number_decimal fun c hc cs hcs => hprefix ⟨c, cs, hc, hcs⟩] at h
    exact (decimal_leaves h).imp_left fun h =>
      (LeavesOnLine.span rfl start).trans ((fractionOf_leaves _).trans h)

theorem startsNumber_cons_of_ne {d : Char} (hd : d ≠ '.') (ds : List Char) :
    startsNumber (d :: ds) = d.isDigit := by
  rw [startsNumber.eq_2]
  rintro e es rfl
  contradiction

/-- A number has at least one figure. -/
theorem number_tail {d : Char} {ds : List Char} (hstart : startsNumber (d :: ds) = true)
    (h : number (d :: ds) = .ok (x, rest)) : rest <:+ ds := by
  by_cases hprefix : ∃ c cs, (c = 'x' ∨ c = 'X') ∧ d :: ds = '0' :: c :: cs
  · obtain ⟨c, cs, hc, hcs⟩ := hprefix
    obtain ⟨rfl, rfl⟩ := List.cons.inj hcs
    rw [number_hexadecimal hc] at h
    exact (hexadecimal_leaves h).1.suffix.trans (List.suffix_cons c cs)
  rw [number_decimal fun c hc cs hcs => hprefix ⟨c, cs, hc, hcs⟩] at h
  refine (decimal_leaves h).1.suffix.trans ?_
  rw [List.span_eq_takeWhile_dropWhile]
  by_cases hpoint : d = '.'
  · subst hpoint
    exact span_suffix Char.isDigit ds
  · rw [startsNumber_cons_of_ne hpoint] at hstart
    rw [List.dropWhile_cons_of_pos hstart]
    exact (fractionOf_leaves _).suffix.trans (List.dropWhile_suffix _)

end Numbers

section Strings

variable {start cs rest : List Char}

theorem hexDigits_eq_ok_iff {n code : Nat} : hexDigits n start cs = .ok (code, rest) ↔
    n ≤ cs.length ∧ (cs.take n).all isHexDigit = true ∧ code = Unicode.hexValue (cs.take n) ∧
      rest = cs.drop n := by
  simp only [hexDigits]
  split
  · rename_i h
    have hn : n ≤ cs.length := by
      have hlength := h.1
      rw [List.length_take] at hlength
      omega
    rw [ok_eq_ok_iff]
    exact ⟨fun hread => ⟨hn, h.2, hread⟩, fun hread => hread.2.2⟩
  · rename_i h
    refine ⟨nofun, fun hread => absurd ⟨?_, hread.2.1⟩ h⟩
    rw [List.length_take, Nat.min_eq_left hread.1]

theorem unicodeEscape_brace_iff {code : Nat} : unicodeEscape start ('\x7b' :: cs) = .ok (code, rest) ↔
    (cs.span isHexDigit).2 = '\x7d' :: rest ∧ (cs.span isHexDigit).1.isEmpty = false ∧
      Unicode.hexValue (cs.span isHexDigit).1 ≤ 0x10FFFF ∧
      code = Unicode.hexValue (cs.span isHexDigit).1 := by
  simp only [unicodeEscape]
  split
  · rename_i after hafter
    rw [hafter, List.cons.injEq]
    split
    · rename_i hnone
      exact ⟨nofun, fun h => by rw [h.2.1] at hnone; cases hnone⟩
    · rename_i hsome
      split
      · rename_i hrange
        rw [ok_eq_ok_iff]
        exact ⟨fun h => ⟨⟨rfl, h.2.symm⟩, Bool.not_eq_true _ |>.mp hsome, hrange, h.1⟩,
          fun h => ⟨h.2.2.2, h.1.2.symm⟩⟩
      · rename_i hrange
        exact ⟨nofun, fun h => absurd h.2.2.1 hrange⟩
  · rename_i hopen
    exact ⟨nofun, fun h => (hopen _ h.1).elim⟩

theorem unicodeEscape_plain (h : ∀ ds, cs ≠ '\x7b' :: ds) :
    unicodeEscape start cs = hexDigits 4 start cs := unicodeEscape.eq_2 _ _ h

/-- A code after an escape has a character at least. -/
theorem unicodeEscape_tail {code : Nat} (h : unicodeEscape start cs = .ok (code, rest)) :
    ∃ c ds, cs = c :: ds ∧ rest <:+ ds := by
  by_cases hbrace : ∃ ds, cs = '\x7b' :: ds
  · obtain ⟨ds, rfl⟩ := hbrace
    have hafter := span_suffix isHexDigit ds
    rw [(unicodeEscape_brace_iff.mp h).1] at hafter
    exact ⟨_, ds, rfl, (List.suffix_cons _ _).trans hafter⟩
  · rw [unicodeEscape_plain fun ds hds => hbrace ⟨ds, hds⟩] at h
    obtain ⟨hlength, -, -, rfl⟩ := hexDigits_eq_ok_iff.mp h
    obtain ⟨d, ds, rfl⟩ := List.exists_cons_of_length_pos (Nat.lt_of_lt_of_le (by decide) hlength)
    exact ⟨d, ds, rfl, List.drop_suffix 3 ds⟩

/-- Where an escape sequence starts matters for faults only. -/
theorem unicodeEscape_start {code : Nat} (h : unicodeEscape start cs = .ok (code, rest))
    (start' : List Char) : unicodeEscape start' cs = .ok (code, rest) := by
  by_cases hbrace : ∃ ds, cs = '\x7b' :: ds
  · obtain ⟨ds, rfl⟩ := hbrace
    exact unicodeEscape_brace_iff.mpr (unicodeEscape_brace_iff.mp h)
  · have hplain : ∀ ds, cs ≠ '\x7b' :: ds := fun ds hds => hbrace ⟨ds, hds⟩
    rw [unicodeEscape_plain hplain] at h ⊢
    exact hexDigits_eq_ok_iff.mpr (hexDigits_eq_ok_iff.mp h)

/-- Whether a code is the first half of a pair. -/
def IsHighSurrogate (code : Nat) : Prop := 0xD800 ≤ code ∧ code < 0xDC00

/-- Whether a code is the second half of a pair. -/
def IsLowSurrogate (code : Nat) : Prop := 0xDC00 ≤ code ∧ code < 0xE000

/-- A code without an escape sequence behind it stands alone, and so does one that starts no pair. -/
theorem pairSurrogates_alone {code : Nat} (h : IsHighSurrogate code → ∀ after, cs ≠ '\\' :: 'u' :: after) :
    pairSurrogates start code cs = .ok (charOfCode code, cs) := by
  unfold pairSurrogates
  split
  · rename_i hhigh
    split
    · rename_i after
      exact absurd rfl (h hhigh after)
    · rfl
  · rfl

theorem pairSurrogates_escape {code : Nat} {c : Char} (hhigh : IsHighSurrogate code) :
    pairSurrogates start code ('\\' :: 'u' :: cs) = .ok (c, rest) ↔
      ∃ low after, unicodeEscape start cs = .ok (low, after) ∧
        ((IsLowSurrogate low ∧ c = charOfCode (0x10000 + (code - 0xD800) * 1024 + (low - 0xDC00)) ∧
            rest = after) ∨
          (¬ IsLowSurrogate low ∧ c = charOfCode code ∧ rest = '\\' :: 'u' :: cs)) := by
  have hhigh' : 0xD800 ≤ code ∧ code < 0xDC00 := hhigh
  rw [pairSurrogates, if_pos hhigh', bind_eq_ok]
  refine ⟨?_, ?_⟩
  · rintro ⟨⟨low, after⟩, hlow, h⟩
    refine ⟨low, after, hlow, ?_⟩
    dsimp only at h
    split at h
    · rename_i hpair
      exact .inl ⟨hpair, ok_eq_ok_iff.mp h⟩
    · rename_i hpair
      exact .inr ⟨hpair, ok_eq_ok_iff.mp h⟩
  · rintro ⟨low, after, hlow, h⟩
    refine ⟨(low, after), hlow, ?_⟩
    dsimp only
    rcases h with ⟨hpair, h⟩ | ⟨hpair, h⟩
    · have hpair' : 0xDC00 ≤ low ∧ low < 0xE000 := hpair
      rw [if_pos hpair']
      exact ok_eq_ok_iff.mpr h
    · have hpair' : ¬ (0xDC00 ≤ low ∧ low < 0xE000) := hpair
      rw [if_neg hpair']
      exact ok_eq_ok_iff.mpr h

theorem pairSurrogates_suffix {code : Nat} {c : Char}
    (h : pairSurrogates start code cs = .ok (c, rest)) : rest <:+ cs := by
  by_cases hescape : IsHighSurrogate code ∧ ∃ after, cs = '\\' :: 'u' :: after
  · obtain ⟨hhigh, after, rfl⟩ := hescape
    obtain ⟨low, more, hlow, ⟨-, -, rfl⟩ | ⟨-, -, rfl⟩⟩ := (pairSurrogates_escape hhigh).mp h
    · obtain ⟨d, ds, rfl, hmore⟩ := unicodeEscape_tail hlow
      exact hmore.trans ⟨['\\', 'u', d], rfl⟩
    · exact List.suffix_rfl
  · rw [pairSurrogates_alone fun hhigh after hafter => hescape ⟨hhigh, after, hafter⟩] at h
    obtain ⟨-, rfl⟩ := Prod.mk.inj (Except.ok.inj h)
    exact List.suffix_rfl

/-- An escape sequence of a code reads the code first. -/
theorem escape_code {ds chars : List Char} : escape start ('u' :: ds) = .ok (chars, rest) ↔
    ∃ code after c, unicodeEscape start ds = .ok (code, after) ∧
      pairSurrogates start code after = .ok (c, rest) ∧ chars = [c] := by
  rw [escape, bind_eq_ok]
  constructor
  · rintro ⟨⟨code, after⟩, hcode, h⟩
    obtain ⟨⟨c, rest⟩, hpair, ⟨⟩⟩ := bind_eq_ok.mp h
    exact ⟨code, after, c, hcode, hpair, rfl⟩
  · rintro ⟨code, after, c, hcode, hpair, rfl⟩
    exact ⟨(code, after), hcode, bind_eq_ok.mpr ⟨(c, rest), hpair, rfl⟩⟩

/-- An escape sequence of a zero has no figure behind it. -/
theorem escape_zero {chars : List Char} : escape start ('0' :: cs) = .ok (chars, rest) ↔
    (∀ c ∈ cs.head?, c.isDigit = false) ∧ chars = ['\x00'] ∧ rest = cs := by
  cases cs with
  | nil => exact ok_eq_ok_iff.trans ⟨fun h => ⟨nofun, h⟩, fun h => h.2⟩
  | cons d ds =>
    rw [escape]
    split
    · rename_i hd
      refine ⟨nofun, fun h => ?_⟩
      rw [h.1 d rfl] at hd
      cases hd
    · rename_i hd
      refine ok_eq_ok_iff.trans ⟨fun h => ⟨?_, h⟩, fun h => h.2⟩
      rintro _ ⟨⟩
      exact Bool.not_eq_true _ |>.mp hd

/-- An escape sequence of a character without a meaning of its own. -/
theorem escape_other {d : Char} {ds : List Char}
    (hletter : d ∉ ['n', 'r', 't', 'b', 'f', 'v', 'x', 'u', '0'])
    (hfeed : ∀ es, d = '\r' → ds ≠ '\n' :: es) (start : List Char) :
    escape start (d :: ds) =
      if isLineEnd d then .ok ([], ds)
      else if d.isDigit then .error ⟨.octalEscape, start⟩
      else .ok ([d], ds) := by
  simp only [List.mem_cons, List.not_mem_nil, or_false, not_or] at hletter
  obtain ⟨hn, hr, ht, hb, hf, hv, hx, hu, hzero⟩ := hletter
  rw [escape]
  all_goals first | assumption | (intros; contradiction)

/-- An escape sequence takes a character at least after its backslash. -/
theorem escape_tail {chars : List Char} (h : escape start cs = .ok (chars, rest)) :
    ∃ c ds, cs = c :: ds ∧ rest <:+ ds := by
  unfold escape at h
  split at h
  case h_1 => cases h
  case h_8 ds =>
    obtain ⟨⟨code, left⟩, hcode, ⟨⟩⟩ := bind_eq_ok.mp h
    obtain ⟨-, -, -, rfl⟩ := hexDigits_eq_ok_iff.mp hcode
    exact ⟨_, _, rfl, List.drop_suffix _ _⟩
  case h_9 ds =>
    obtain ⟨code, after, c, hcode, hpair, -⟩ := escape_code.mp h
    obtain ⟨d, es, rfl, hafter⟩ := unicodeEscape_tail hcode
    exact ⟨_, _, rfl, (pairSurrogates_suffix hpair).trans (hafter.trans (List.suffix_cons d es))⟩
  case h_10 =>
    cases h
    exact ⟨_, _, rfl, List.suffix_cons _ _⟩
  case h_11 =>
    split at h
    · cases h
    · cases h
      exact ⟨_, _, rfl, List.suffix_rfl⟩
  case h_13 =>
    split at h
    · cases h
      exact ⟨_, _, rfl, List.suffix_rfl⟩
    split at h
    · cases h
    · cases h
      exact ⟨_, _, rfl, List.suffix_rfl⟩
  all_goals
    cases h
    exact ⟨_, _, rfl, List.suffix_rfl⟩

theorem escape_suffix {chars : List Char} (h : escape start cs = .ok (chars, rest)) :
    rest <:+ cs := by
  obtain ⟨c, ds, rfl, hrest⟩ := escape_tail h
  exact hrest.trans (List.suffix_cons c ds)

section Body

variable {quote : Char} {n : Nat} {ds chars : List Char}

/-- In a string a backslash starts an escape sequence, and the string goes on after it. -/
theorem stringBody_backslash (hquote : quote ≠ '\\') :
    stringBody quote start (n + 1) ('\\' :: ds) = .ok (chars, rest) ↔
      ∃ first after more, escape ('\\' :: ds) ds = .ok (first, after) ∧
        stringBody quote start n after = .ok (more, rest) ∧ chars = first ++ more := by
  rw [stringBody, if_neg (Ne.symm hquote), if_neg (by decide), if_pos rfl, bind_eq_ok]
  constructor
  · rintro ⟨⟨first, after⟩, hescape, h⟩
    obtain ⟨⟨more, rest⟩, hmore, ⟨⟩⟩ := bind_eq_ok.mp h
    exact ⟨first, after, more, hescape, hmore, rfl⟩
  · rintro ⟨first, after, more, hescape, hmore, rfl⟩
    exact ⟨(first, after), hescape, bind_eq_ok.mpr ⟨(more, rest), hmore, rfl⟩⟩

/-- Any other character ends the string, or it is one of its characters. -/
theorem stringBody_cons {c : Char} (hslash : c ≠ '\\') :
    stringBody quote start (n + 1) (c :: ds) = .ok (chars, rest) ↔
      (c = quote ∧ chars = [] ∧ rest = ds) ∨ (c ≠ quote ∧ c ≠ '\n' ∧ c ≠ '\r' ∧
        ∃ more, stringBody quote start n ds = .ok (more, rest) ∧ chars = c :: more) := by
  rw [stringBody]
  by_cases hquote : c = quote
  · rw [if_pos hquote, ok_eq_ok_iff]
    exact ⟨fun h => .inl ⟨hquote, h⟩, fun h => h.elim (fun h => h.2) fun h => absurd hquote h.1⟩
  by_cases hend : c = '\n' ∨ c = '\r'
  · rw [if_neg hquote, if_pos (by simpa using hend)]
    refine ⟨(fun h => by cases h), fun h => h.elim (fun h => absurd h.1 hquote) fun h => ?_⟩
    exact (hend.elim h.2.1 h.2.2.1).elim
  · rw [if_neg hquote, if_neg (by simpa using hend), if_neg hslash, bind_eq_ok]
    rw [not_or] at hend
    constructor
    · rintro ⟨⟨more, rest⟩, hmore, ⟨⟩⟩
      exact .inr ⟨hquote, hend.1, hend.2, more, hmore, rfl⟩
    · rintro (⟨heq, -⟩ | ⟨-, -, -, more, hmore, rfl⟩)
      · exact absurd heq hquote
      · exact ⟨(more, rest), hmore, rfl⟩

/-- A string ends with its quote. -/
theorem stringBody_leaves (hquote : quote ≠ '\\')
    (h : stringBody quote start n cs = .ok (chars, rest)) : ∃ taken, cs = taken ++ quote :: rest := by
  induction n generalizing cs chars with
  | zero => cases h
  | succ n ih =>
    cases cs with
    | nil => cases h
    | cons d ds =>
      by_cases hslash : d = '\\'
      · subst hslash
        obtain ⟨first, after, more, hescape, hmore, -⟩ := (stringBody_backslash hquote).mp h
        obtain ⟨taken, htaken⟩ := ih hmore
        obtain ⟨before, hbefore⟩ := escape_suffix hescape
        exact ⟨'\\' :: (before ++ taken), by rw [← hbefore, htaken]; simp⟩
      · rcases (stringBody_cons hslash).mp h with ⟨rfl, -, rfl⟩ | ⟨-, -, -, more, hmore, -⟩
        · exact ⟨[], rfl⟩
        · obtain ⟨taken, rfl⟩ := ih hmore
          exact ⟨d :: taken, rfl⟩

end Body

end Strings

section Tokens

variable {start rest : List Char} {t : Token}

theorem ne_backslash_of_quote {c : Char} (h : c = '\'' ∨ c = '"') : c ≠ '\\' := by
  rintro rfl
  revert h
  decide

/-- The kinds of tokens: how a token is read depends on its first character. -/
theorem token_cons_eq_ok_iff {d : Char} {ds : List Char} : token (d :: ds) = .ok (t, rest) ↔
    if isIdentifierStart d then
      t = word (String.ofList ((d :: ds).span isIdentifierPart).1) ∧
        rest = ((d :: ds).span isIdentifierPart).2
    else if startsNumber (d :: ds) then ∃ x, number (d :: ds) = .ok (x, rest) ∧ t = .number x
    else if d = '\'' ∨ d = '"' then
      ∃ chars, stringBody d (d :: ds) (d :: ds).length ds = .ok (chars, rest) ∧
        t = .string (String.ofList chars)
    else ∃ p, Punctuator.starting? (d :: ds) = some p ∧ t = .punctuator p ∧
      rest = (d :: ds).drop p.chars.length := by
  rw [token]
  by_cases hstart : isIdentifierStart d = true
  · rw [if_pos hstart, if_pos hstart]
    exact ok_eq_ok_iff
  rw [if_neg hstart, if_neg hstart]
  by_cases hfigure : startsNumber (d :: ds) = true
  · rw [if_pos hfigure, if_pos hfigure, bind_eq_ok]
    constructor
    · rintro ⟨⟨x, left⟩, hread, ⟨⟩⟩
      exact ⟨x, hread, rfl⟩
    · rintro ⟨x, hread, rfl⟩
      exact ⟨(x, rest), hread, rfl⟩
  rw [if_neg hfigure, if_neg hfigure]
  by_cases hquote : d = '\'' ∨ d = '"'
  · rw [if_pos (by simpa using hquote), if_pos hquote, bind_eq_ok]
    constructor
    · rintro ⟨⟨chars, left⟩, hread, ⟨⟩⟩
      exact ⟨chars, hread, rfl⟩
    · rintro ⟨chars, hread, rfl⟩
      exact ⟨(chars, rest), hread, rfl⟩
  rw [if_neg (by simpa using hquote), if_neg hquote]
  cases Punctuator.starting? (d :: ds) with
  | none => exact ⟨(fun h => by cases h), by rintro ⟨_, ⟨⟩, _⟩⟩
  | some p =>
    refine ok_eq_ok_iff.trans ⟨fun h => ⟨p, rfl, h⟩, ?_⟩
    rintro ⟨_, ⟨⟩, h⟩
    exact h

theorem startsNumber_of_token {d : Char} {ds : List Char} {x : Float}
    (h : token (d :: ds) = .ok (.number x, rest)) : startsNumber (d :: ds) = true := by
  rw [token_cons_eq_ok_iff] at h
  split at h
  · have hword := h.1
    unfold word at hword
    split at hword <;> cases hword
  split at h
  · assumption
  split at h
  · obtain ⟨chars, -, ⟨⟩⟩ := h
  · obtain ⟨p, -, ⟨⟩, -⟩ := h

theorem token_tail (hstart : start ≠ []) (h : token start = .ok (t, rest)) :
    ∃ c cs, start = c :: cs ∧ rest <:+ cs := by
  obtain ⟨d, ds, rfl⟩ := List.exists_cons_of_ne_nil hstart
  refine ⟨d, ds, rfl, ?_⟩
  rw [token_cons_eq_ok_iff] at h
  split at h
  · rename_i hword
    have hpart : isIdentifierPart d = true := by rw [isIdentifierPart, hword, Bool.true_or]
    rw [h.2, List.span_eq_takeWhile_dropWhile, List.dropWhile_cons_of_pos hpart]
    exact List.dropWhile_suffix _
  split at h
  · rename_i hfigure
    obtain ⟨x, hread, -⟩ := h
    exact number_tail hfigure hread
  split at h
  · rename_i hquote
    obtain ⟨chars, hread, -⟩ := h
    obtain ⟨taken, rfl⟩ := stringBody_leaves (ne_backslash_of_quote hquote) hread
    exact ⟨taken ++ [d], by simp⟩
  · obtain ⟨p, -, -, rfl⟩ := h
    obtain ⟨e, es, hchars, -⟩ := p.exists_chars
    rw [hchars, List.length_cons, List.drop_succ_cons]
    exact List.drop_suffix _ _

theorem token_suffix (hstart : start ≠ []) (h : token start = .ok (t, rest)) : rest <:+ start := by
  obtain ⟨c, cs, rfl, hrest⟩ := token_tail hstart h
  exact hrest.trans (List.suffix_cons c cs)

theorem length_token_lt (hstart : start ≠ []) (h : token start = .ok (t, rest)) :
    rest.length < start.length := by
  obtain ⟨c, cs, rfl, hrest⟩ := token_tail hstart h
  exact Nat.lt_succ_of_le hrest.length_le

theorem token_ne_endOfInput (hstart : start ≠ []) (h : token start = .ok (t, rest)) :
    t ≠ .endOfInput := by
  obtain ⟨d, ds, rfl⟩ := List.exists_cons_of_ne_nil hstart
  rintro rfl
  rw [token_cons_eq_ok_iff] at h
  split at h
  · have hword := h.1
    unfold word at hword
    split at hword <;> cases hword
  split at h
  · obtain ⟨x, -, ⟨⟩⟩ := h
  split at h
  · obtain ⟨chars, -, ⟨⟩⟩ := h
  · obtain ⟨p, -, ⟨⟩, -⟩ := h

end Tokens

end Lexer

end Microtemplate.Script
