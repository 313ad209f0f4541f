import Microtemplate.Script.Fault
import Microtemplate.Text.Columns
import Microtemplate.Text.Lines

/-!
Reports of syntax errors: the error with the line of the program that it is in and a mark below the
character where it was found. The mark is placed by the numbers of bytes before and after this
character, which are taken as positions of characters; they are, unless there are characters beyond
ASCII before it.
-/

namespace Microtemplate.Script.SyntaxError

open Text

/-- The text before the marked character: the one at the offset of the error, or the last one of
the program if there is none. -/
def beforeMark (e : SyntaxError) : List Char :=
  let before := beforeOffset e.offset e.program.toList
  if before.length = e.program.toList.length then before.dropLast else before

/-- Where the mark starts. -/
def markStart (e : SyntaxError) : Nat := byteLength e.beforeMark

/-- Where the mark ends; it is empty if there is no character at all. -/
def markStop (e : SyntaxError) : Nat :=
  e.markStart + ((e.program.toList[e.beforeMark.length]?).map Char.utf8Size).getD 0

/-- What is drawn of a program: the mark, and the lines in which it starts and ends. -/
structure Excerpt where
  message : String
  start : Nat
  stop : Nat
  first : Line
  last : Line

/-- The excerpt that shows an error, if its mark lies in the program. -/
def excerpt? (e : SyntaxError) : Option Excerpt := do
  let first ← Line.at? e.program.toList e.markStart
  let last ← Line.at? e.program.toList (e.markStop - 1)
  return ⟨e.message, e.markStart, e.markStop, first, last⟩

namespace Excerpt

/-- The same sign several times. -/
def signs (c : Char) (count : Nat) : List Char := List.replicate count c

/-- The number of a line as it is written. -/
def numberChars (l : Line) : List Char := (toString (l.number + 1)).toList

/-- The room for the numbers of lines. -/
def numberRoom (x : Excerpt) : Nat := (numberChars x.last).length

/-- The room left of the bar. -/
def margin (x : Excerpt) : List Char := signs ' ' (x.numberRoom + 2)

/-- The start of a row that belongs to no line. -/
def rowStart (x : Excerpt) : List Char := x.margin ++ ['│', ' ']

/-- The start of the row of a line. -/
def lineStart (x : Excerpt) (l : Line) : List Char :=
  let number := numberChars l
  ' ' :: signs ' ' (x.numberRoom - number.length) ++ number ++ [' ', '│', ' ']

/-- The place of the start of the mark. -/
def location (x : Excerpt) : List Char :=
  "╭─[<generated program>:".toList ++ numberChars x.first ++ ':'
    :: (toString (x.start - x.first.start + 1)).toList ++ [']']

/-- The position in its line to which the message is tied: the middle of the mark. -/
def tie (x : Excerpt) : Nat := (x.start + x.stop) / 2 - x.first.start

/-- A sign at the first of some columns and another one at the others. -/
def headed (first other : Char) : Nat → List Char
  | 0 => []
  | n + 1 => first :: signs other n

/-- The mark below a line. -/
def underline (x : Excerpt) (columns : List Nat) : List Char :=
  columns.zipIdx.flatMap fun (width, position) =>
    let inMark := x.start ≤ x.first.start + position && x.first.start + position < x.stop
    if position = x.tie then headed '┬' '─' width
    else signs (if inMark then '─' else ' ') width

/-- What leads from the mark to the message. -/
def lead (x : Excerpt) (columns : List Nat) : List Char :=
  columns.zipIdx.flatMap fun (width, position) =>
    if position = x.tie then headed '╰' '─' width
    else signs (if x.tie < position then '─' else ' ') width

/-- The rows of a mark within one line. -/
def rowsInLine (x : Excerpt) : List (List Char) :=
  if x.stop ≤ x.first.stop then
    let columns := widths x.first.chars (x.stop - x.first.start + 2)
    [x.lineStart x.first ++ shownLine x.first.chars,
      x.rowStart ++ x.underline columns,
      x.rowStart ++ x.lead columns ++ ' ' :: x.message.toList]
  else [x.rowStart]

/-- The rows of a mark over several lines: an arrow from the first of them to the last one, of
those between them a gap. -/
def rowsOverLines (x : Excerpt) : List (List Char) :=
  let gap := if x.first.number + 1 < x.last.number then [x.margin ++ "┆ ┆   ".toList] else []
  let columns := (widths x.last.chars (x.last.chars.length + 2)).foldl (· + ·) 0
  [x.lineStart x.first ++ "╭─▶ ".toList ++ shownLine x.first.chars] ++ gap ++
    [x.lineStart x.last ++ "├─▶ ".toList ++ shownLine x.last.chars,
      x.rowStart ++ "│   ".toList ++ signs ' ' columns,
      x.rowStart ++ "╰───".toList ++ signs '─' columns ++ ' ' :: x.message.toList]

/-- Whether the mark is over several lines. -/
def isOverLines (x : Excerpt) : Bool := x.first.number != x.last.number

/-- What stands before the note, below the arrow of a mark over several lines. -/
def noteStart (x : Excerpt) : List Char :=
  if x.isOverLines then
    if x.first.number = 1 && x.start = x.first.start then "│   ".toList else "    ".toList
  else []

/-- The rows of an excerpt. -/
def rows (x : Excerpt) : List (List Char) :=
  [x.margin ++ x.location, x.margin ++ ['│']]
    ++ (if x.isOverLines then x.rowsOverLines else x.rowsInLine)
    ++ [x.rowStart ++ x.noteStart,
      x.rowStart ++ x.noteStart
        ++ "Note: evaluate regions are spliced into the program verbatim".toList,
      signs '─' (x.numberRoom + 2) ++ ['╯']]

end Excerpt

/-- The report of an error: a title, and the excerpt if the mark lies in the program. -/
def report (e : SyntaxError) : String :=
  let title := "Error: Template syntax error: ".toList ++ e.message.toList
  let rows := title :: (e.excerpt?.map Excerpt.rows).getD []
  String.ofList (rows.flatMap (· ++ ['\n']))

end Microtemplate.Script.SyntaxError
