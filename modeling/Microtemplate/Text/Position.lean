/-!
Positions in a text. An offset counts the bytes of the UTF-8 form; a place is a line and a column,
both from one, where only a line feed ends a line and a column counts characters.
-/

namespace Microtemplate.Text

/-- The number of bytes of a text in UTF-8. -/
def byteLength : List Char → Nat
  | [] => 0
  | c :: cs => c.utf8Size + byteLength cs

/-- The longest beginning of a text that has at most the given number of bytes: the text before the
largest character boundary not beyond an offset. -/
def beforeOffset (offset : Nat) : List Char → List Char
  | [] => []
  | c :: cs => if c.utf8Size ≤ offset then c :: beforeOffset (offset - c.utf8Size) cs else []

/-- A line and a column, both counted from one. -/
structure Place where
  line : Nat
  column : Nat
deriving DecidableEq, Repr

/-- The place reached from a place by going over one character. -/
def Place.after (p : Place) (c : Char) : Place :=
  if c = '\n' then ⟨p.line + 1, 1⟩ else ⟨p.line, p.column + 1⟩

/-- The place where a text ends that starts at line one, column one. -/
def placeAfter (cs : List Char) : Place := cs.foldl Place.after ⟨1, 1⟩

/-- The place of an offset in a text; inside a character it is the place of that character, beyond
the end the end of the text. -/
def placeAt (offset : Nat) (cs : List Char) : Place := placeAfter (beforeOffset offset cs)

theorem byteLength_append (a b : List Char) :
    byteLength (a ++ b) = byteLength a + byteLength b := by
  induction a with
  | nil => simp [byteLength]
  | cons c cs ih => simp only [List.cons_append, byteLength, ih]; omega

example : placeAt 5 "ab\ncd".toList = ⟨2, 3⟩ := by decide

end Microtemplate.Text
