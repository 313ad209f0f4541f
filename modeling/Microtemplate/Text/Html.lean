/-!
Escaping for HTML: the characters with a meaning in HTML text and attribute values become entities.
-/

namespace Microtemplate.Text

/-- The characters with a meaning in HTML text and attribute values. -/
def htmlSpecial : List Char := ['&', '<', '>', '"', '\'', '`']

/-- How a character is written in HTML. -/
def htmlChar : Char → List Char
  | '&' => ['&', 'a', 'm', 'p', ';']
  | '<' => ['&', 'l', 't', ';']
  | '>' => ['&', 'g', 't', ';']
  | '"' => ['&', 'q', 'u', 'o', 't', ';']
  | '\'' => ['&', '#', 'x', '2', '7', ';']
  | '`' => ['&', '#', 'x', '6', '0', ';']
  | c => [c]

/-- A text without characters that have a meaning in HTML; a text that has none is kept. -/
def escapeHtml (text : String) : String :=
  if text.toList.any htmlSpecial.contains then String.ofList (text.toList.flatMap htmlChar)
  else text

theorem htmlChar_of_not_special {c : Char} (h : c ∉ htmlSpecial) : htmlChar c = [c] := by
  simp only [htmlSpecial, List.mem_cons, List.not_mem_nil, or_false, not_or] at h
  unfold htmlChar
  split <;> simp_all

end Microtemplate.Text
