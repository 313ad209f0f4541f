import Mathlib.Data.List.TakeDrop
import Microtemplate.Script.Lexer
import Microtemplate.Template.Source

/-!
Tokens of a printed text. A text is printed as a row of words, punctuators and quoted texts, each
after nothing, a blank or the end of a line. Where no lexeme runs into the next one, the lexer gives
back their tokens, whatever the text after them is.
-/

namespace Microtemplate.Script

open Source (literalChar escapeLiteral)

/-- The code points beyond ASCII that stand in gaps. -/
def gapCodes : List Nat :=
  [0x85, 0xA0, 0x1680, 0x2000, 0x2001, 0x2002, 0x2003, 0x2004, 0x2005, 0x2006, 0x2007, 0x2008,
    0x2009, 0x200A, 0x2028, 0x2029, 0x202F, 0x205F, 0x3000, 0xFEFF]

theorem not_alphabetic_gapCodes :
    ∀ n ∈ gapCodes, Unicode.Property.alphabetic.any (·.holds n) = false := by
  decide +kernel

/-- Characters between tokens: the ends of lines, the blanks and the byte order mark. -/
def isGap (c : Char) : Bool := isLineEnd c || Unicode.isBlank c || c = '\ufeff'

theorem toNat_of_isGap {c : Char} (h : isGap c = true) : c.toNat = 0x20 ∨
    (0x09 ≤ c.toNat ∧ c.toNat ≤ 0x0D) ∨ (0x80 ≤ c.toNat ∧ c.toNat ∈ gapCodes) := by
  simp only [isGap, isLineEnd, Unicode.isBlank, Bool.or_eq_true, Bool.and_eq_true,
    decide_eq_true_eq] at h
  rcases h with (h | h) | h
  · rcases h with ((rfl | rfl) | rfl) | rfl <;> decide
  · simp only [gapCodes, List.mem_cons, List.not_mem_nil, or_false]
    omega
  · subst h
    decide

/-- The code points with which identifiers start. -/
theorem toNat_of_isIdentifierStart {c : Char} (h : isIdentifierStart c = true) :
    c.toNat = 0x24 ∨ c.toNat = 0x5F ∨ (0x41 ≤ c.toNat ∧ c.toNat ≤ 0x5A) ∨
      (0x61 ≤ c.toNat ∧ c.toNat ≤ 0x7A) ∨
      (0x80 ≤ c.toNat ∧ Unicode.Property.alphabetic.any (·.holds c.toNat) = true) := by
  simp only [isIdentifierStart, Unicode.isAlphabetic, Bool.or_eq_true, decide_eq_true_eq] at h
  rcases h with (rfl | rfl) | h
  · exact Or.inl rfl
  · exact Or.inr (Or.inl rfl)
  · split at h
    · have hcase : c.isUpper = true ∨ c.isLower = true := (Bool.or_eq_true ..).mp h
      rcases hcase with hupper | hlower
      · have hbounds : 'A'.val ≤ c.val ∧ c.val ≤ 'Z'.val := of_decide_eq_true hupper
        exact Or.inr (Or.inr (Or.inl ⟨UInt32.le_iff_toNat_le.mp hbounds.1,
          UInt32.le_iff_toNat_le.mp hbounds.2⟩))
      · obtain ⟨hle, hge⟩ := Bool.and_eq_true_iff.mp hlower
        have hbounds : 'a'.val ≤ c.val ∧ c.val ≤ 'z'.val :=
          ⟨of_decide_eq_true hle, of_decide_eq_true hge⟩
        exact Or.inr (Or.inr (Or.inr (Or.inl ⟨UInt32.le_iff_toNat_le.mp hbounds.1,
          UInt32.le_iff_toNat_le.mp hbounds.2⟩)))
    · exact Or.inr (Or.inr (Or.inr (Or.inr ⟨by omega, h⟩)))

/-- No identifier starts with a character of a gap. -/
theorem not_isGap_of_isIdentifierStart {c : Char} (h : isIdentifierStart c = true) :
    isGap c = false := by
  refine Bool.eq_false_iff.mpr fun hgap => ?_
  rcases toNat_of_isGap hgap with hcode | hcode | ⟨hhigh, hcode⟩
  · rcases toNat_of_isIdentifierStart h with h | h | h | h | ⟨h, -⟩ <;> omega
  · rcases toNat_of_isIdentifierStart h with h | h | h | h | ⟨h, -⟩ <;> omega
  · rcases toNat_of_isIdentifierStart h with h | h | h | h | ⟨-, h⟩
    · omega
    · omega
    · omega
    · omega
    · rw [not_alphabetic_gapCodes _ hcode] at h
      cases h

theorem isDigit_of_isIdentifierStart {c : Char} (h : isIdentifierStart c = true) :
    c.isDigit = false := by
  refine Bool.eq_false_iff.mpr fun hdigit => ?_
  simp only [Char.isDigit, Bool.and_eq_true, decide_eq_true_eq, UInt32.le_iff_toNat_le,
    ge_iff_le] at hdigit
  change 0x30 ≤ c.toNat ∧ c.toNat ≤ 0x39 at hdigit
  rcases toNat_of_isIdentifierStart h with h | h | h | h | ⟨h, -⟩ <;> omega

/-- What stands before a lexeme. -/
inductive Spacing where
  | tight
  | blank
  | line
  | lineBlank
  | blankLine
deriving DecidableEq

namespace Spacing

/-- How a spacing is printed. -/
def chars : Spacing → List Char
  | tight => []
  | blank => [' ']
  | line => ['\n']
  | lineBlank => ['\n', ' ']
  | blankLine => [' ', '\n']

/-- Whether a line ends in a spacing. -/
def endsLine (s : Spacing) : Bool := s.chars.contains '\n'

/-- A spacing is a gap that ends where the next lexeme starts. -/
theorem skipGap_chars (s : Spacing) {c : Char} (hgap : isGap c = false) (hslash : c ≠ '/')
    (cs : List Char) : Lexer.skipGap .blank false (s.chars ++ c :: cs) = .ok (s.endsLine, c :: cs) := by
  have hstop : ∀ newline, Lexer.skipGap .blank newline (c :: cs) = .ok (newline, c :: cs) := by
    intro newline
    simp only [isGap, Bool.or_eq_false_iff] at hgap
    rw [Lexer.skipGap]
    · rw [hgap.1.1, hgap.1.2, Bool.false_or, hgap.2]
      rfl
    · rintro _ rfl
      contradiction
    · rintro _ rfl
      contradiction
  cases s with
  | tight => exact hstop false
  | blank => exact hstop false
  | line => exact hstop true
  | lineBlank => exact hstop true
  | blankLine => exact hstop true

end Spacing

/-- Whether a text is an identifier or a keyword. -/
def isWord : List Char → Bool
  | [] => false
  | c :: cs => isIdentifierStart c && cs.all isIdentifierPart

theorem isIdentifierPart_of_isWord {name : List Char} (h : isWord name = true) :
    name.all isIdentifierPart = true := by
  cases name with
  | nil => rfl
  | cons c cs =>
    obtain ⟨hstart, hparts⟩ := Bool.and_eq_true_iff.mp h
    rw [List.all_cons, hparts, isIdentifierPart, hstart, Bool.true_or, Bool.true_and]

/-- Whether a text is an identifier. -/
def isIdentifier (name : String) : Bool := isWord name.toList && (Keyword.ofText? name).isNone

theorem isWord_text (k : Keyword) : isWord k.text.toList = true := by
  cases k <;> decide +kernel

/-- Whether no longer punctuator begins with a punctuator and the given character, and no number
starts with the two. -/
def Punctuator.closedBy (p : Punctuator) (c : Char) : Bool :=
  !c.isDigit && Punctuator.longestFirst.all fun q => !(p.chars ++ [c]).isPrefixOf q.chars

/-- The parts of a printed text. -/
inductive Lexeme where
  | identifier (name : String)
  | keyword (k : Keyword)
  | mark (p : Punctuator)
  | quoted (text : List Char)

namespace Lexeme

/-- How a lexeme is printed. -/
def chars : Lexeme → List Char
  | identifier name => name.toList
  | keyword k => k.text.toList
  | mark p => p.chars
  | quoted text => '\'' :: (escapeLiteral text ++ ['\''])

/-- The token that a lexeme is. -/
def token : Lexeme → Token
  | identifier name => .identifier name
  | keyword k => .keyword k
  | mark p => .punctuator p
  | quoted text => .string (String.ofList text)

/-- Whether a lexeme ends where the given character follows. Punctuators that could open a comment
are left out. -/
def fits : Lexeme → Option Char → Bool
  | identifier name, next => isIdentifier name && next.all (!isIdentifierPart ·)
  | keyword _, next => next.all (!isIdentifierPart ·)
  | mark p, next => p.chars.head? != some '/' && next.all p.closedBy
  | quoted _, _ => true

end Lexeme

theorem token_word {name rest : List Char} (hword : isWord name = true)
    (hnext : rest.head?.all (!isIdentifierPart ·) = true) :
    Lexer.token (name ++ rest) = .ok (Lexer.word (String.ofList name), rest) := by
  cases name with
  | nil => cases hword
  | cons c cs =>
    obtain ⟨hstart, -⟩ := Bool.and_eq_true_iff.mp hword
    have hall := List.all_eq_true.mp (isIdentifierPart_of_isWord hword)
    have hspan : (c :: cs ++ rest).span isIdentifierPart = (c :: cs, rest) := by
      rw [List.span_eq_takeWhile_dropWhile, List.takeWhile_append_of_pos hall,
        List.dropWhile_append_of_pos hall]
      cases rest with
      | nil => simp
      | cons d ds =>
        have hd : isIdentifierPart d = false := by simpa using hnext
        simp [hd]
    simp only [List.cons_append] at hspan
    simp only [Lexer.token, List.cons_append, hstart, if_true, hspan]

/-- A prefix of a text ends before a character of it, or goes on past it. -/
theorem isPrefixOf_append_cons {q a : List Char} {c : Char}
    (h : (a ++ [c]).isPrefixOf q = false) (cs : List Char) :
    q.isPrefixOf (a ++ c :: cs) = q.isPrefixOf a := by
  refine Bool.eq_iff_iff.mpr ⟨fun hq => ?_, fun hq => ?_⟩
  · have hlonger : a ++ [c] <+: a ++ c :: cs := ⟨cs, by simp⟩
    have hnot : ¬ a ++ [c] <+: q := by
      intro hle
      rw [List.isPrefixOf_iff_prefix.mpr hle] at h
      cases h
    rcases List.prefix_or_prefix_of_prefix (List.isPrefixOf_iff_prefix.mp hq) hlonger with hle | hle
    · rcases List.prefix_concat_iff.mp hle with rfl | hle
      · exact absurd List.prefix_rfl hnot
      · exact List.isPrefixOf_iff_prefix.mpr hle
    · exact absurd hle hnot
  · exact List.isPrefixOf_iff_prefix.mpr
      ((List.isPrefixOf_iff_prefix.mp hq).trans (List.prefix_append a _))

namespace Punctuator

theorem starting?_chars (p : Punctuator) : starting? p.chars = some p := by
  cases p <;> decide

theorem starting?_append {p : Punctuator} {rest : List Char}
    (h : rest.head?.all p.closedBy = true) : starting? (p.chars ++ rest) = some p := by
  cases rest with
  | nil => rw [List.append_nil, starting?_chars]
  | cons c cs =>
    obtain ⟨-, hlonger⟩ := Bool.and_eq_true_iff.mp h
    have hsame : ∀ q : Punctuator,
        q.chars.isPrefixOf (p.chars ++ c :: cs) = q.chars.isPrefixOf p.chars := by
      intro q
      have hq := List.all_eq_true.mp hlonger q q.mem_longestFirst
      exact isPrefixOf_append_cons ((Bool.not_eq_true' _).mp hq) cs
    simp only [starting?, hsame]
    exact p.starting?_chars

/-- The first character of a punctuator starts nothing else. -/
theorem exists_chars (p : Punctuator) : ∃ c cs, p.chars = c :: cs ∧
    isIdentifierStart c = false ∧ c.isDigit = false ∧ (c = '\'' || c = '"') = false ∧
    isGap c = false := by
  cases p <;> exact ⟨_, _, rfl, by decide⟩

theorem startsNumber_append {p : Punctuator} {rest : List Char}
    (h : rest.head?.all p.closedBy = true) : Lexer.startsNumber (p.chars ++ rest) = false := by
  cases rest with
  | nil => cases p <;> rfl
  | cons d ds =>
    obtain ⟨hd, -⟩ := Bool.and_eq_true_iff.mp h
    cases p with
    | dot => exact (Bool.not_eq_true' _).mp hd
    | _ => rfl

end Punctuator

theorem token_punctuator {p : Punctuator} {rest : List Char}
    (h : rest.head?.all p.closedBy = true) :
    Lexer.token (p.chars ++ rest) = .ok (.punctuator p, rest) := by
  obtain ⟨c, cs, hchars, hstart, -, hquote, -⟩ := p.exists_chars
  have hnumber := Punctuator.startsNumber_append h
  have hfirst := Punctuator.starting?_append h
  have hdrop : (p.chars ++ rest).drop p.chars.length = rest := List.drop_left
  rw [hchars, List.cons_append] at hnumber hfirst hdrop ⊢
  simp only [Lexer.token, hstart, hnumber, hquote, hfirst, Bool.false_eq_true, if_false]
  rw [hchars, hdrop]

theorem token_mark {p : Punctuator} {rest : List Char}
    (h : (Lexeme.mark p).fits rest.head? = true) :
    Lexer.token (p.chars ++ rest) = .ok (.punctuator p, rest) :=
  token_punctuator (Bool.and_eq_true_iff.mp h).2

/-- A character in a string is read back as it was. -/
theorem stringBody_literalChar (c : Char) (start rest : List Char) (n : Nat) :
    Lexer.stringBody '\'' start (n + 1) (literalChar c ++ rest) = do
      let (more, rest) ← Lexer.stringBody '\'' start n rest
      return (c :: more, rest) := by
  unfold literalChar
  split
  · rfl
  · rfl
  · rfl
  · rfl
  · rfl
  · rfl
  · rename_i hquote hslash hreturn hfeed _ _
    have hline : (decide (c = '\n') || decide (c = '\r')) = false := by
      simp only [decide_eq_false hfeed, decide_eq_false hreturn, Bool.or_self]
    simp only [List.cons_append, List.nil_append, Lexer.stringBody, if_neg hquote, hline,
      Bool.false_eq_true, if_false, if_neg hslash]

/-- A text between quotes is read back as it was. -/
theorem stringBody_escapeLiteral (text start rest : List Char) (n : Nat) (h : text.length < n) :
    Lexer.stringBody '\'' start n (escapeLiteral text ++ '\'' :: rest) = .ok (text, rest) := by
  induction text generalizing n with
  | nil =>
    cases n with
    | zero => cases h
    | succ n => rfl
  | cons c cs ih =>
    cases n with
    | zero => cases h
    | succ n =>
      have hcs : cs.length < n := Nat.lt_of_succ_lt_succ h
      simp only [escapeLiteral, List.flatMap_cons, List.append_assoc]
      rw [stringBody_literalChar]
      have hrest := ih n hcs
      simp only [escapeLiteral] at hrest
      rw [hrest]
      rfl

theorem length_le_escapeLiteral (text : List Char) : text.length ≤ (escapeLiteral text).length := by
  induction text with
  | nil => exact Nat.le_refl _
  | cons c cs ih =>
    have hc : 1 ≤ (literalChar c).length := by
      unfold literalChar
      split <;> exact Nat.le_of_ble_eq_true rfl
    simp only [escapeLiteral, List.flatMap_cons, List.length_append, List.length_cons] at ih ⊢
    omega

theorem token_quoted (text rest : List Char) :
    Lexer.token ((Lexeme.quoted text).chars ++ rest) = .ok (.string (String.ofList text), rest) := by
  have hlength := length_le_escapeLiteral text
  have hbody := stringBody_escapeLiteral text ('\'' :: (escapeLiteral text ++ '\'' :: rest)) rest
    (escapeLiteral text ++ '\'' :: rest).length.succ (by simp; omega)
  have hstart : isIdentifierStart '\'' = false := by decide
  have hnumber : ∀ cs, Lexer.startsNumber ('\'' :: cs) = false := fun cs => rfl
  simp only [Lexeme.chars, List.cons_append, List.append_assoc, List.nil_append, Lexer.token,
    hstart, hnumber, Bool.false_eq_true, if_false, decide_true, Bool.true_or, if_true,
    List.length_cons]
  rw [hbody]
  rfl

theorem Lexeme.token_chars {l : Lexeme} {rest : List Char} (h : l.fits rest.head? = true) :
    Lexer.token (l.chars ++ rest) = .ok (l.token, rest) := by
  cases l with
  | identifier name =>
    obtain ⟨hname, hnext⟩ := Bool.and_eq_true_iff.mp h
    obtain ⟨hword, hkeyword⟩ := Bool.and_eq_true_iff.mp hname
    rw [Lexeme.chars, token_word hword hnext, String.ofList_toList, Lexer.word,
      Option.isNone_iff_eq_none.mp hkeyword]
    rfl
  | keyword k =>
    rw [Lexeme.chars, token_word (isWord_text k) h, String.ofList_toList, Lexer.word,
      Keyword.ofText?_text]
    rfl
  | mark p => exact token_mark h
  | quoted text => exact token_quoted text rest

/-- The first character of a word ends the gap before it. -/
theorem exists_isIdentifierStart {name : List Char} (h : isWord name = true) :
    ∃ c cs, name = c :: cs ∧ isIdentifierStart c = true := by
  cases name with
  | nil => cases h
  | cons c cs => exact ⟨c, cs, rfl, (Bool.and_eq_true_iff.mp h).1⟩

theorem exists_cons_of_isWord {name : List Char} (h : isWord name = true) :
    ∃ c cs, name = c :: cs ∧ isGap c = false ∧ c ≠ '/' := by
  obtain ⟨c, cs, rfl, hstart⟩ := exists_isIdentifierStart h
  refine ⟨c, cs, rfl, not_isGap_of_isIdentifierStart hstart, ?_⟩
  rintro rfl
  revert hstart
  decide

/-- The first character of a lexeme ends the gap before it. -/
theorem Lexeme.exists_chars {l : Lexeme} {next : Option Char} (h : l.fits next = true) :
    ∃ c cs, l.chars = c :: cs ∧ isGap c = false ∧ c ≠ '/' := by
  cases l with
  | identifier name =>
    obtain ⟨hname, -⟩ := Bool.and_eq_true_iff.mp h
    exact exists_cons_of_isWord (Bool.and_eq_true_iff.mp hname).1
  | keyword k => exact exists_cons_of_isWord (isWord_text k)
  | mark p =>
    obtain ⟨hslash, -⟩ := Bool.and_eq_true_iff.mp h
    obtain ⟨c, cs, hchars, -, -, -, hgap⟩ := p.exists_chars
    refine ⟨c, cs, hchars, hgap, ?_⟩
    rintro rfl
    simp [hchars] at hslash
  | quoted text => exact ⟨'\'', _, rfl, by decide, by decide⟩

/-- A lexeme with what stands before it. -/
structure Piece where
  spacing : Spacing
  lexeme : Lexeme

namespace Piece

/-- How a piece is printed. -/
def chars (p : Piece) : List Char := p.spacing.chars ++ p.lexeme.chars

/-- How pieces are printed. -/
def print (ps : List Piece) : List Char := ps.flatMap chars

/-- Whether each of some pieces ends where the next one starts, the given character following the
last of them. -/
def fit : List Piece → Option Char → Bool
  | [], _ => true
  | p :: ps, next => p.lexeme.fits ((print ps).head?.or next) && fit ps next

/-- The tokens of pieces in a text that goes on after them. -/
def locate : List Piece → List Char → List Located
  | [], _ => []
  | p :: ps, rest =>
    ⟨p.lexeme.token, p.spacing.endsLine, p.lexeme.chars ++ (print ps ++ rest)⟩ :: locate ps rest

@[simp]
theorem print_append (ps qs : List Piece) : print (ps ++ qs) = print ps ++ print qs :=
  List.flatMap_append

theorem print_quoted (spacing : Spacing) (text : List Char) :
    print [⟨spacing, .quoted text⟩] = spacing.chars ++ '\'' :: (escapeLiteral text ++ ['\'']) := by
  simp [print, chars, Lexeme.chars]

theorem length_locate (ps : List Piece) (rest : List Char) : (locate ps rest).length = ps.length := by
  induction ps with
  | nil => rfl
  | cons p ps ih => rw [locate, List.length_cons, List.length_cons, ih]

theorem locate_append (ps qs : List Piece) (rest : List Char) :
    locate (ps ++ qs) rest = locate ps (print qs ++ rest) ++ locate qs rest := by
  induction ps with
  | nil => rfl
  | cons p ps ih =>
    simp only [List.cons_append, locate, ih, print_append, List.append_assoc]

theorem fit_append (ps qs : List Piece) (next : Option Char) :
    fit (ps ++ qs) next = (fit ps ((print qs).head?.or next) && fit qs next) := by
  induction ps with
  | nil => rfl
  | cons p ps ih =>
    simp only [List.cons_append, fit, ih, print_append, List.head?_append, Option.or_assoc,
      Bool.and_assoc]

theorem length_le_print {ps : List Piece} {next : Option Char} (h : fit ps next = true) :
    ps.length ≤ (print ps).length := by
  induction ps with
  | nil => exact Nat.le_refl _
  | cons p ps ih =>
    obtain ⟨hp, hps⟩ := Bool.and_eq_true_iff.mp h
    obtain ⟨c, cs, hchars, -⟩ := Lexeme.exists_chars hp
    have hmore := ih hps
    simp only [print, List.flatMap_cons, chars, hchars, List.length_append, List.length_cons]
      at hmore ⊢
    omega

/-- The first of some pieces is the first token of their text. -/
theorem lex_cons {p : Piece} {ps : List Piece} {rest : List Char}
    (h : fit (p :: ps) rest.head? = true) :
    Lexer.skipGap .blank false (print (p :: ps) ++ rest) =
        .ok (p.spacing.endsLine, p.lexeme.chars ++ (print ps ++ rest)) ∧
      p.lexeme.chars ++ (print ps ++ rest) ≠ [] ∧
      Lexer.token (p.lexeme.chars ++ (print ps ++ rest)) =
        .ok (p.lexeme.token, print ps ++ rest) := by
  obtain ⟨hp, -⟩ := Bool.and_eq_true_iff.mp h
  obtain ⟨c, cs, hchars, hgap, hslash⟩ := Lexeme.exists_chars hp
  refine ⟨?_, ?_, Lexeme.token_chars ?_⟩
  · have hspacing := p.spacing.skipGap_chars hgap hslash (cs ++ (print ps ++ rest))
    simpa only [print, List.flatMap_cons, chars, List.append_assoc, hchars, List.cons_append]
      using hspacing
  · rw [hchars]
    exact List.cons_ne_nil _ _
  · rw [List.head?_append]
    exact hp

/-- Printed pieces are cut into their tokens, and then comes the rest of the text. -/
theorem tokensWithin_print {ps : List Piece} {rest : List Char} (h : fit ps rest.head? = true)
    (n : Nat) : Lexer.tokensWithin (ps.length + n) (print ps ++ rest) =
      (Lexer.tokensWithin n rest).map (locate ps rest ++ ·) := by
  induction ps with
  | nil =>
    cases hrest : Lexer.tokensWithin n rest <;> simp [print, hrest, locate, Except.map]
  | cons p ps ih =>
    obtain ⟨hskip, hstart, htoken⟩ := lex_cons h
    have hsome : (p.lexeme.chars ++ (print ps ++ rest)).isEmpty = false := by simpa using hstart
    rw [List.length_cons, Nat.add_right_comm, Lexer.tokensWithin, hskip]
    simp only [Except.bind, bind, hsome, Bool.false_eq_true, if_false, htoken,
      ih (Bool.and_eq_true_iff.mp h).2]
    cases Lexer.tokensWithin n rest <;> rfl

/-- A text of pieces has their tokens and the end of input. -/
theorem tokens_print {ps : List Piece} (h : fit ps none = true) :
    Lexer.tokens (print ps) = .ok (locate ps [] ++ [⟨.endOfInput, true, []⟩]) := by
  have hlength := length_le_print h
  obtain ⟨n, hn⟩ : ∃ n, (print ps).length + 1 = ps.length + (n + 1) :=
    ⟨(print ps).length - ps.length, by omega⟩
  have hprint : Lexer.tokensWithin (ps.length + (n + 1)) (print ps ++ []) = _ :=
    tokensWithin_print h (n + 1)
  rw [List.append_nil, ← hn] at hprint
  exact hprint

end Piece

end Microtemplate.Script
