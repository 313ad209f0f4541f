/-!
The lines of a text. A line ends with its terminator: a line feed, a vertical tab, a form feed, a
carriage return with or without a line feed, or one of the separators beyond ASCII. Together the
lines are the text.
-/

namespace Microtemplate.Text

/-- Whether a character ends a line. -/
def endsLine (c : Char) : Bool :=
  ['\n', '\x0b', '\x0c', '\r', '\u0085', '\u2028', '\u2029'].contains c

/-- Puts a character before the first line. -/
def extendLine (c : Char) : List (List Char) → List (List Char)
  | [] => [[c]]
  | line :: rest => (c :: line) :: rest

/-- The lines of a text, terminators included. -/
def lines : List Char → List (List Char)
  | [] => []
  | '\r' :: '\n' :: rest => ['\r', '\n'] :: lines rest
  | c :: rest => if endsLine c then [c] :: lines rest else extendLine c (lines rest)

theorem flatten_extendLine (c : Char) (ls : List (List Char)) :
    (extendLine c ls).flatten = c :: ls.flatten := by
  cases ls with
  | nil => rfl
  | cons line rest => rfl

theorem flatten_lines (cs : List Char) : (lines cs).flatten = cs := by
  fun_induction lines cs with
  | case1 => rfl
  | case2 rest ih => simp [ih]
  | case3 c rest _ hc ih => simp [ih]
  | case4 c rest _ hc ih => rw [flatten_extendLine, ih]

/-- A line of a text: its number and the position of its first character, both counted from zero,
and its characters with the terminator. -/
structure Line where
  number : Nat
  start : Nat
  chars : List Char
deriving DecidableEq, Repr

namespace Line

/-- The position after the last character. -/
def stop (l : Line) : Nat := l.start + l.chars.length

/-- The lines from a number and a position on. -/
def numbered : Nat → Nat → List (List Char) → List Line
  | _, _, [] => []
  | number, start, chars :: rest =>
    ⟨number, start, chars⟩ :: numbered (number + 1) (start + chars.length) rest

/-- The line at a position. The position after the last character belongs to the last line. -/
def at? (cs : List Char) (position : Nat) : Option Line :=
  if position ≤ cs.length then
    (numbered 0 0 (lines cs)).reverse.find? fun l => l.start ≤ position
  else none

end Line

end Microtemplate.Text
