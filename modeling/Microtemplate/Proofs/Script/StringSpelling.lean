import Microtemplate.Proofs.Script.Lexing
import Microtemplate.Text.Units

/-!
The ways to spell a text between quotes. Each character of it is spelled on its own, as itself or as
an escape sequence, and lines may be continued between characters. The lexer reads every spelling
back as the text it spells and stops after the closing quote. One spelling has a condition on what
follows it: a figure after `\0` would make an octal escape sequence, which the lexer refuses.
-/

namespace Microtemplate.Script

open Source (literalChar escapeLiteral)
open Lexer (stringBody escape hexDigits unicodeEscape pairSurrogates charOfCode)

/-- The characters with a short escape sequence, each with the letter that stands for it. -/
def namedEscapes : List (Char × Char) :=
  [('\n', 'n'), ('\r', 'r'), ('\t', 't'), ('\x08', 'b'), ('\x0c', 'f'), ('\x0b', 'v'),
    ('\x00', '0'), ('\'', '\''), ('"', '"'), ('\\', '\\')]

/-- The line ends that a backslash takes out of a string. -/
def lineEnds : List (List Char) := [['\n'], ['\r'], ['\r', '\n'], ['\u2028'], ['\u2029']]

/-- The spellings of one character between two quotes. -/
inductive SpellsChar (quote : Char) : Char → List Char → Prop
  | itself {c : Char} : c ≠ quote → c ≠ '\\' → c ≠ '\r' → c ≠ '\n' → SpellsChar quote c [c]
  | named {c letter : Char} : (c, letter) ∈ namedEscapes → SpellsChar quote c ['\\', letter]
  | byte {c : Char} {ds : List Char} : ds.length = 2 → ds.all isHexDigit = true →
      Unicode.hexValue ds = c.toNat → SpellsChar quote c ('\\' :: 'x' :: ds)
  | unit {c : Char} {ds : List Char} : ds.length = 4 → ds.all isHexDigit = true →
      Text.unitsOfChar c = [Unicode.hexValue ds] → SpellsChar quote c ('\\' :: 'u' :: ds)
  | units {c : Char} {ds es : List Char} : ds.length = 4 → ds.all isHexDigit = true →
      es.length = 4 → es.all isHexDigit = true →
      Text.unitsOfChar c = [Unicode.hexValue ds, Unicode.hexValue es] →
      SpellsChar quote c ('\\' :: 'u' :: (ds ++ '\\' :: 'u' :: es))
  | braces {c : Char} {ds : List Char} : ds ≠ [] → ds.all isHexDigit = true →
      Unicode.hexValue ds = c.toNat →
      SpellsChar quote c ('\\' :: 'u' :: '\x7b' :: (ds ++ ['\x7d']))

/-- The spellings of a text between two quotes: its characters in order, each with a spelling of its
own, and any number of continued lines. No figure comes directly after `\0`. -/
inductive Spells (quote : Char) : List Char → List Char → Prop
  | nil : Spells quote [] []
  | char {c : Char} {w cs text : List Char} : SpellsChar quote c w →
      (w = ['\\', '0'] → text.head?.all (!Char.isDigit ·) = true) → Spells quote cs text →
      Spells quote (c :: cs) (w ++ text)
  | continued {ends cs text : List Char} : ends ∈ lineEnds → Spells quote cs text →
      Spells quote cs ('\\' :: ends ++ text)

/-- The quotes that open and close a string. -/
def isQuote (c : Char) : Bool := c = '\'' || c = '"'

theorem isQuote_cases {q : Char} (h : isQuote q = true) : q = '\'' ∨ q = '"' := by
  simpa [isQuote] using h

/-- No spelled text starts with a line feed, so one never joins a carriage return before it. -/
theorem Spells.head?_ne_newline {quote : Char} {value text : List Char}
    (h : Spells quote value text) : text.head? ≠ some '\n' := by
  cases h with
  | nil => simp
  | continued hends hmore => simp
  | char hc hfigure hmore =>
    cases hc with
    | itself hquote hslash hreturn hfeed => simpa using hfeed
    | _ => simp

namespace Lexer

/-- The character with the code of a character is that character. -/
theorem charOfCode_toNat (c : Char) : charOfCode c.toNat = c := by
  have hvalid : c.toNat.isValidChar := c.valid
  have hof : Char.ofNat c.toNat = Char.ofNatAux c.toNat hvalid := dif_pos hvalid
  rw [charOfCode, dif_pos hvalid, ← hof, Char.ofNat_toNat]

/-- A given count of digits is read as their number. -/
theorem hexDigits_append {ds : List Char} (hdigits : ds.all isHexDigit = true)
    (start rest : List Char) :
    hexDigits ds.length start (ds ++ rest) = .ok (Unicode.hexValue ds, rest) := by
  have htake : (ds ++ rest).take ds.length = ds := List.take_left
  have hdrop : (ds ++ rest).drop ds.length = rest := List.drop_left
  simp only [hexDigits, htake, hdrop, hdigits, and_self, if_true]

theorem isHexDigit_ne_brace {c : Char} (h : isHexDigit c = true) : c ≠ '\x7b' ∧ c ≠ '\x7d' := by
  constructor <;> rintro rfl <;> revert h <;> decide

/-- Four digits after `\u` are read as their number. -/
theorem unicodeEscape_four {ds : List Char} (hlength : ds.length = 4)
    (hdigits : ds.all isHexDigit = true) (start rest : List Char) :
    unicodeEscape start (ds ++ rest) = .ok (Unicode.hexValue ds, rest) := by
  have hread := hexDigits_append hdigits start rest
  rw [hlength] at hread
  cases ds with
  | nil => cases hlength
  | cons d ds =>
    have hd := (isHexDigit_ne_brace (List.all_eq_true.mp hdigits d List.mem_cons_self)).1
    rw [List.cons_append] at hread ⊢
    rw [unicodeEscape, hread]
    intro cs hcs
    exact hd (List.cons.inj hcs).1

/-- Digits in braces after `\u` are read as their number. -/
theorem unicodeEscape_braces {ds : List Char} (hne : ds ≠ [])
    (hdigits : ds.all isHexDigit = true) (hrange : Unicode.hexValue ds ≤ 0x10FFFF)
    (start rest : List Char) :
    unicodeEscape start ('\x7b' :: (ds ++ '\x7d' :: rest)) = .ok (Unicode.hexValue ds, rest) := by
  have hspan : (ds ++ '\x7d' :: rest).span isHexDigit = (ds, '\x7d' :: rest) := by
    have hall := List.all_eq_true.mp hdigits
    have hbrace : isHexDigit '\x7d' = false := by decide
    rw [List.span_eq_takeWhile_dropWhile, List.takeWhile_append_of_pos hall,
      List.dropWhile_append_of_pos hall]
    simp [hbrace]
  have hsome : ds.isEmpty = false := by simpa using hne
  simp only [unicodeEscape, hspan, hsome, Bool.false_eq_true, if_false, hrange, if_true]

/-- The code of a character is no surrogate, so it stands alone whatever follows it. -/
theorem pairSurrogates_toNat (c : Char) (start rest : List Char) :
    pairSurrogates start c.toNat rest = .ok (c, rest) := by
  have hnot : ¬ (0xD800 ≤ c.toNat ∧ c.toNat < 0xDC00) := by
    have hvalid : c.toNat.isValidChar := c.valid
    rcases hvalid with h | h <;> omega
  simp only [pairSurrogates, if_neg hnot, charOfCode_toNat]
  rfl

/-- The two units of a character beyond U+FFFF give the character. -/
theorem pairSurrogates_units {c : Char} {high low : Nat}
    (hunits : Text.unitsOfChar c = [high, low]) {es : List Char} (hlength : es.length = 4)
    (hdigits : es.all isHexDigit = true) (hlow : Unicode.hexValue es = low)
    (start rest : List Char) :
    pairSurrogates start high ('\\' :: 'u' :: (es ++ rest)) = .ok (c, rest) := by
  have hread := unicodeEscape_four hlength hdigits start rest
  have hrange : c.toNat < 0x110000 := by
    have hvalid : c.toNat.isValidChar := c.valid
    rcases hvalid with h | h <;> omega
  unfold Text.unitsOfChar at hunits
  split at hunits
  · simp at hunits
  · rename_i hbeyond
    simp only [List.cons.injEq, and_true] at hunits
    obtain ⟨hhigh, hunit⟩ := hunits
    have hfirst : 0xD800 ≤ high ∧ high < 0xDC00 := by omega
    have hsecond : 0xDC00 ≤ low ∧ low < 0xE000 := by omega
    have hcode : 0x10000 + (high - 0xD800) * 1024 + (low - 0xDC00) = c.toNat := by omega
    rw [hlow] at hread
    simp only [pairSurrogates, if_pos hfirst, hread, bind, Except.bind, if_pos hsecond, hcode,
      charOfCode_toNat]
    rfl

/-- A short escape sequence is read as its character, unless it is the start of an octal one. -/
theorem escape_named {c letter : Char} (h : (c, letter) ∈ namedEscapes) (start : List Char)
    {rest : List Char} (hfigure : letter = '0' → rest.head?.all (!Char.isDigit ·) = true) :
    escape start (letter :: rest) = .ok ([c], rest) := by
  simp only [namedEscapes, List.mem_cons, Prod.mk.injEq, List.not_mem_nil, or_false] at h
  rcases h with ⟨rfl, rfl⟩ | ⟨rfl, rfl⟩ | ⟨rfl, rfl⟩ | ⟨rfl, rfl⟩ | ⟨rfl, rfl⟩ | ⟨rfl, rfl⟩ |
    ⟨rfl, rfl⟩ | ⟨rfl, rfl⟩ | ⟨rfl, rfl⟩ | ⟨rfl, rfl⟩
  case inr.inr.inr.inr.inr.inr.inl =>
    cases rest with
    | nil => rfl
    | cons d ds =>
      have hd : d.isDigit = false := by simpa using hfigure rfl
      simp only [escape, hd, Bool.false_eq_true, if_false]
  all_goals rfl

/-- A backslash takes a line end out of a string. -/
theorem escape_continued {ends : List Char} (h : ends ∈ lineEnds) (start : List Char)
    {rest : List Char} (hfeed : rest.head? ≠ some '\n') :
    escape start (ends ++ rest) = .ok ([], rest) := by
  simp only [lineEnds, List.mem_cons, List.not_mem_nil, or_false] at h
  rcases h with rfl | rfl | rfl | rfl | rfl
  case inr.inl =>
    have hreturn : ∀ cs, rest ≠ '\n' :: cs := by
      rintro cs rfl
      exact hfeed rfl
    rw [List.cons_append, List.nil_append, escape]
    · rfl
    all_goals simp_all
  all_goals rfl

/-- An escape sequence adds its characters to a string. -/
theorem stringBody_escape {quote : Char} (hquote : isQuote quote = true)
    {start cs rest chars : List Char} (h : escape ('\\' :: cs) cs = .ok (chars, rest)) (n : Nat) :
    stringBody quote start (n + 1) ('\\' :: cs) = do
      let (more, rest) ← stringBody quote start n rest
      return (chars ++ more, rest) := by
  have hslash : ¬ '\\' = quote := by
    rcases isQuote_cases hquote with rfl | rfl <;> decide
  rw [stringBody, if_neg hslash, if_neg (by decide), if_pos rfl, h]
  rfl

/-- The escape sequence that spells a character gives the character. -/
theorem escape_spelled {quote c : Char} {cs : List Char} (h : SpellsChar quote c ('\\' :: cs))
    (start : List Char) {rest : List Char}
    (hfigure : cs = ['0'] → rest.head?.all (!Char.isDigit ·) = true) :
    escape start (cs ++ rest) = .ok ([c], rest) := by
  cases h with
  | itself _ hne => contradiction
  | named hname =>
    exact escape_named hname start fun hzero => hfigure (by rw [hzero])
  | byte hlength hdigits hcode =>
    have hread := hexDigits_append hdigits start rest
    rw [hlength, hcode] at hread
    rw [List.cons_append, escape, hread]
    simp only [bind, Except.bind, charOfCode_toNat]
    rfl
  | @unit ds hlength hdigits hunit =>
    have hcode : Unicode.hexValue ds = c.toNat := by
      unfold Text.unitsOfChar at hunit
      split at hunit <;> simp_all
    rw [List.cons_append, escape, unicodeEscape_four hlength hdigits, hcode]
    simp only [bind, Except.bind, pairSurrogates_toNat]
    rfl
  | units hlength hdigits hlength' hdigits' hunits =>
    have hpair := pairSurrogates_units hunits hlength' hdigits' rfl start rest
    simp only [List.cons_append, List.append_assoc, escape, unicodeEscape_four hlength hdigits,
      bind, Except.bind, hpair]
    rfl
  | braces hne hdigits hcode =>
    have hrange : c.toNat ≤ 0x10FFFF := by
      have hvalid : c.toNat.isValidChar := c.valid
      rcases hvalid with h | h <;> omega
    have hread := unicodeEscape_braces hne hdigits (hcode ▸ hrange) start rest
    simp only [List.cons_append, List.append_assoc, List.nil_append, escape, hread, bind,
      Except.bind, hcode, pairSurrogates_toNat]
    rfl

/-- A spelled character is one more character of a string. -/
theorem stringBody_spelledChar {quote c : Char} {w : List Char} (h : SpellsChar quote c w)
    (hquote : isQuote quote = true) (start : List Char) {rest : List Char}
    (hfigure : w = ['\\', '0'] → rest.head?.all (!Char.isDigit ·) = true) (n : Nat) :
    stringBody quote start (n + 1) (w ++ rest) = do
      let (more, rest) ← stringBody quote start n rest
      return (c :: more, rest) := by
  have hescape : ∀ cs, w = '\\' :: cs → SpellsChar quote c ('\\' :: cs) →
      stringBody quote start (n + 1) (w ++ rest) = do
        let (more, rest) ← stringBody quote start n rest
        return (c :: more, rest) := by
    rintro cs rfl hcs
    refine stringBody_escape hquote (escape_spelled hcs _ fun hzero => hfigure ?_) n
    rw [hzero]
  cases h with
  | itself hne hslash hreturn hfeed =>
    have hline : (decide (c = '\n') || decide (c = '\r')) = false := by
      simp [hfeed, hreturn]
    rw [List.cons_append, List.nil_append, stringBody, if_neg hne, if_neg (by simp [hline]),
      if_neg hslash]
  | named hname => exact hescape _ rfl (.named hname)
  | byte hlength hdigits hcode => exact hescape _ rfl (.byte hlength hdigits hcode)
  | unit hlength hdigits hunit => exact hescape _ rfl (.unit hlength hdigits hunit)
  | units hlength hdigits hlength' hdigits' hunits =>
    exact hescape _ rfl (.units hlength hdigits hlength' hdigits' hunits)
  | braces hne hdigits hcode => exact hescape _ rfl (.braces hne hdigits hcode)

end Lexer

theorem SpellsChar.ne_nil {quote c : Char} {w : List Char} (h : SpellsChar quote c w) : w ≠ [] := by
  cases h <;> exact List.cons_ne_nil _ _

/-- A condition on what follows a spelling, said of the text between quotes, holds with the closing
quote after that text. -/
theorem head?_all_append_quote {text rest : List Char} {quote : Char}
    (hquote : isQuote quote = true) (h : text.head?.all (!Char.isDigit ·) = true) :
    (text ++ quote :: rest).head?.all (!Char.isDigit ·) = true := by
  cases text with
  | nil => rcases isQuote_cases hquote with rfl | rfl <;> rfl
  | cons c cs => exact h

/-- A spelled text is read back up to its closing quote. Each round of the reader goes over one
spelling at least. -/
theorem Spells.stringBody_eq {quote : Char} {value text : List Char} (h : Spells quote value text)
    (hquote : isQuote quote = true) (start rest : List Char) {n : Nat} (hn : text.length < n) :
    stringBody quote start n (text ++ quote :: rest) = .ok (value, rest) := by
  induction h generalizing n with
  | nil =>
    obtain ⟨m, rfl⟩ : ∃ m, n = m + 1 := ⟨n - 1, by omega⟩
    rw [List.nil_append, stringBody, if_pos rfl]
  | @char c w cs text hc hfigure hmore ih =>
    have hw := List.length_pos_iff.mpr hc.ne_nil
    rw [List.length_append] at hn
    obtain ⟨m, rfl⟩ : ∃ m, n = m + 1 := ⟨n - 1, by omega⟩
    rw [List.append_assoc, Lexer.stringBody_spelledChar hc hquote start
      (fun hzero => head?_all_append_quote hquote (hfigure hzero)), ih (by omega)]
    rfl
  | @continued ends cs text hends hmore ih =>
    rw [List.length_append, List.length_cons] at hn
    obtain ⟨m, rfl⟩ : ∃ m, n = m + 1 := ⟨n - 1, by omega⟩
    have hfeed : (text ++ quote :: rest).head? ≠ some '\n' := by
      have hnot := hmore.head?_ne_newline
      rcases isQuote_cases hquote with rfl | rfl <;> cases text <;> simp_all
    rw [List.append_assoc, List.cons_append,
      Lexer.stringBody_escape hquote (Lexer.escape_continued hends _ hfeed), ih (by omega)]
    rfl

/-- What is written for a text between single quotes spells the text. -/
theorem spells_escapeLiteral (text : List Char) : Spells '\'' text (escapeLiteral text) := by
  induction text with
  | nil => exact .nil
  | cons c cs ih =>
    have hc : SpellsChar '\'' c (literalChar c) ∧ literalChar c ≠ ['\\', '0'] := by
      unfold literalChar
      split
      · exact ⟨.named (by decide), by decide⟩
      · exact ⟨.named (by decide), by decide⟩
      · exact ⟨.named (by decide), by decide⟩
      · exact ⟨.named (by decide), by decide⟩
      · exact ⟨.unit (show "2028".toList.length = 4 from rfl) (by decide) (by decide), by decide⟩
      · exact ⟨.unit (show "2029".toList.length = 4 from rfl) (by decide) (by decide), by decide⟩
      · rename_i hquote hslash hreturn hfeed _ _
        exact ⟨.itself hquote hslash hreturn hfeed, by simp⟩
    exact .char hc.1 (fun hzero => absurd hzero hc.2) ih

/-- No line ends inside a character as it is written between quotes. -/
theorem all_not_isLineEnd_literalChar (c : Char) : (literalChar c).all (!isLineEnd ·) = true := by
  unfold literalChar
  split
  case h_7 hquote hslash hreturn hfeed hline hparagraph =>
    rw [List.all_cons, List.all_nil, Bool.and_true, isLineEnd, decide_eq_false hfeed,
      decide_eq_false hreturn, decide_eq_false hline, decide_eq_false hparagraph]
    rfl
  all_goals rfl

/-- A spelled text between quotes is one token. -/
theorem token_of_spells {quote : Char} (hquote : isQuote quote = true) {value text : List Char}
    (h : Spells quote value text) (rest : List Char) :
    Lexer.token (quote :: (text ++ quote :: rest)) = .ok (.string (String.ofList value), rest) := by
  have hlength : text.length < (quote :: (text ++ quote :: rest)).length := by
    simp only [List.length_cons, List.length_append]
    omega
  have hbody := h.stringBody_eq hquote (quote :: (text ++ quote :: rest)) rest hlength
  have hstart : isIdentifierStart quote = false := by
    rcases isQuote_cases hquote with rfl | rfl <;> decide
  have hnumber : Lexer.startsNumber (quote :: (text ++ quote :: rest)) = false := by
    rcases isQuote_cases hquote with rfl | rfl <;> rfl
  have hopens : (quote = '\'' || quote = '"') = true := hquote
  rw [Lexer.token, hstart, if_neg Bool.false_ne_true, hnumber, if_neg Bool.false_ne_true,
    if_pos hopens, hbody]
  rfl

/-- Spelling a text between quotes and reading it are inverse: whatever mixture of spellings is
chosen and whatever text follows, the lexer gives one string with the text as its value and stops
after the closing quote. What is written for a text between single quotes is such a spelling, and no
line ends in it. -/
theorem token_string_spelling :
    (∀ quote, isQuote quote = true → ∀ (s : String) (text : List Char),
      Spells quote s.toList text → ∀ rest : List Char,
        Lexer.token (quote :: (text ++ quote :: rest)) = .ok (.string s, rest)) ∧
    (∀ (s : String) (rest : List Char),
      Spells '\'' s.toList (escapeLiteral s.toList) ∧
      Lexer.token ('\'' :: (escapeLiteral s.toList ++ '\'' :: rest)) = .ok (.string s, rest) ∧
      ∀ c ∈ escapeLiteral s.toList, isLineEnd c = false) := by
  have hread : ∀ quote, isQuote quote = true → ∀ (s : String) (text : List Char),
      Spells quote s.toList text → ∀ rest : List Char,
        Lexer.token (quote :: (text ++ quote :: rest)) = .ok (.string s, rest) := by
    intro quote hquote s text htext rest
    rw [token_of_spells hquote htext rest, String.ofList_toList]
  refine ⟨hread, fun s rest => ?_⟩
  have hliteral := spells_escapeLiteral s.toList
  refine ⟨hliteral, hread '\'' rfl s _ hliteral rest, fun c hc => ?_⟩
  obtain ⟨d, -, hd⟩ := List.mem_flatMap.mp hc
  have hnot := List.all_eq_true.mp (all_not_isLineEnd_literalChar d) c hd
  exact (Bool.not_eq_true' _).mp hnot

/-- The text `aA😀😀` and a zero character, spelled in five ways with a continued line before the
last of them. -/
theorem token_string_spelling_mixed :
    Lexer.token
        ('"' :: ("a\\x41\\u\x7b01F600\x7d\\uD83D\\ude00\\\r\n\\0".toList ++ '"' :: [';'])) =
      .ok (.string "aA😀😀\x00", [';']) := by
  have ha : SpellsChar '"' 'a' ['a'] := .itself (by decide) (by decide) (by decide) (by decide)
  have hbyte : SpellsChar '"' 'A' "\\x41".toList := .byte rfl (by decide) (by decide)
  have hbraces : SpellsChar '"' '😀' ('\\' :: 'u' :: '\x7b' :: ("01F600".toList ++ ['\x7d'])) :=
    .braces (by decide) (by decide) (by decide)
  have hunits : SpellsChar '"' '😀'
      ('\\' :: 'u' :: ("D83D".toList ++ '\\' :: 'u' :: "de00".toList)) :=
    .units rfl (by decide) rfl (by decide) (by decide)
  have hzero : SpellsChar '"' '\x00' ['\\', '0'] := .named (by decide)
  have hend : Spells '"' ['\x00'] ('\\' :: ['\r', '\n'] ++ (['\\', '0'] ++ [])) :=
    .continued (by decide) (.char hzero (by decide) .nil)
  exact token_string_spelling.1 '"' rfl "aA😀😀\x00" _
    (.char ha (by decide) (.char hbyte (by decide) (.char hbraces (by decide)
      (.char hunits (by decide) hend)))) [';']

/-- Where a figure follows `\0`, the two spellings are each right and the lexer refuses them. -/
theorem token_string_octal :
    SpellsChar '\'' '\x00' ['\\', '0'] ∧ SpellsChar '\'' '1' ['1'] ∧
      Lexer.token "'\\01'".toList = .error ⟨.octalEscape, "\\01'".toList⟩ :=
  ⟨.named (by decide), .itself (by decide) (by decide) (by decide) (by decide), rfl⟩

end Microtemplate.Script
