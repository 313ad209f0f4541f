import Microtemplate.Unicode.Letter

/-!
How many columns of a terminal a character takes. A tab goes to the next multiple of four
characters of its line, other blanks and control characters take one column, marks that join with
other characters none, and wide characters two.
-/

namespace Microtemplate.Text

open Unicode

/-- How far the positions to which tabs go are apart. -/
def tabStop : Nat := 4

/-- The number of columns of a character that is no blank. -/
def shownWidth (c : Char) : Nat :=
  let n := c.toNat
  if n < 0xA0 then 1
  else if n = 0x115F then 2
  else if CharRange.anyHolds Property.graphemeExtend c || CharRange.anyHolds Property.ignorable c
    || CharRange.anyHolds Property.joining c then 0
  else if CharRange.anyHolds Property.wide c then 2
  else 1

/-- The number of columns of a character at a position of its line. -/
def width (c : Char) (position : Nat) : Nat :=
  if c = '\t' then (position / tabStop + 1) * tabStop - position
  else if isBlank c then 1
  else shownWidth c

/-- A character at a position of its line as it is shown. -/
def shownAt (c : Char) (position : Nat) : List Char :=
  if isBlank c then List.replicate (width c position) ' ' else [c]

/-- A line as it is shown, without the blanks at its end. -/
def shownLine (cs : List Char) : List Char :=
  (trimEnd cs).zipIdx.flatMap fun (c, position) => shownAt c position

/-- The number of columns of each of the given positions of a line; beyond the blanks at its end
every position takes one. -/
def widths (cs : List Char) (count : Nat) : List Nat :=
  let text := trimEnd cs
  (List.range count).map fun position => (text[position]?.map (width · position)).getD 1

end Microtemplate.Text
