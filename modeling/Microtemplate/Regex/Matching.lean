import Microtemplate.Regex.Basic

/-!
Where a regular expression matches. `ends` lists the places where a match that starts at a spot can
end, in the order of preference; of several ways to one place only the most preferred counts, since
what follows does not depend on the way. A repetition does not start a second time where it has
started already, so repeated empty matches come to an end.
-/

namespace Microtemplate.Regex

/-- A place in a text: its byte offset, the character before it and the text after it. -/
structure Spot where
  offset : Nat
  previous : Option Char
  rest : List Char
deriving DecidableEq, Repr

namespace Spot

/-- The start of a text. -/
def start (text : List Char) : Spot := ⟨0, none, text⟩

/-- The spot after the next character. -/
def next? (s : Spot) : Option Spot :=
  match s.rest with
  | [] => none
  | c :: rest => some ⟨s.offset + c.utf8Size, some c, rest⟩

/-- The text between two spots. -/
def upTo (s t : Spot) : List Char := s.rest.take (s.rest.length - t.rest.length)

end Spot

/-- Sets of offsets. -/
structure OffsetSet where
  bits : Nat

namespace OffsetSet

/-- The set without members. -/
def empty : OffsetSet := ⟨0⟩

/-- Whether an offset is in the set. -/
def has (s : OffsetSet) (n : Nat) : Bool := s.bits.testBit n

/-- The set with one more member. -/
def add (s : OffsetSet) (n : Nat) : OffsetSet := ⟨s.bits ||| Nat.pow 2 n⟩

theorem has_empty (n : Nat) : empty.has n = false := by simp [empty, has]

theorem has_add (s : OffsetSet) (n m : Nat) : (s.add n).has m = (s.has m || n == m) := by
  simp only [add, has, Nat.testBit_or]
  congr 1
  exact Nat.testBit_two_pow

end OffsetSet

/-- The spots between which each capture group has matched last. -/
abbrev Captures := List (Nat × Spot × Spot)

/-- The spots of a capture group. -/
def Captures.get? (c : Captures) (group : Nat) : Option (Spot × Spot) := c.lookup group

/-- Ends of matches, with what has been captured on the way. -/
abbrev Ends := List (Spot × Captures)

namespace Ends

/-- Leaves out the ends at offsets that are in the set or come up earlier. -/
def distinctFrom (seen : OffsetSet) : Ends → Ends
  | [] => []
  | e :: rest =>
    if seen.has e.1.offset then distinctFrom seen rest
    else e :: distinctFrom (seen.add e.1.offset) rest

/-- Keeps the first end at each offset. -/
def distinct (ends : Ends) : Ends := distinctFrom .empty ends

end Ends

namespace Look

/-- Whether a line ends before the next character. -/
def endsLine (crlf : Bool) (s : Spot) : Bool :=
  match s.rest with
  | [] => true
  | c :: _ =>
    if crlf then c = '\r' || (c = '\n' && s.previous != some '\r') else c = '\n'

/-- Whether a line starts after the previous character. -/
def startsLine (crlf : Bool) (s : Spot) : Bool :=
  match s.previous with
  | none => true
  | some c =>
    if crlf then c = '\n' || (c = '\r' && s.rest.head? != some '\n') else c = '\n'

/-- Whether a condition holds at a spot. -/
def holds : Look → Spot → Bool
  | textStart, s => s.previous.isNone
  | textEnd, s => s.rest.isEmpty
  | lineStart crlf, s => startsLine crlf s
  | lineEnd crlf, s => endsLine crlf s
  | word w condition, s => condition.holds (s.previous.any w.holds) (s.rest.head?.any w.holds)

end Look

/-- The progress of a repetition: where it has started and where it has ended, and the ends in
reverse order. -/
structure Rounds where
  started : OffsetSet
  ended : OffsetSet
  ends : Ends

namespace Rounds

/-- Nothing has been tried. -/
def none : Rounds := ⟨.empty, .empty, []⟩

/-- Ends the repetition. -/
def leave (r : Rounds) (e : Spot × Captures) : Rounds :=
  if r.ended.has e.1.offset then r
  else ⟨r.started, r.ended.add e.1.offset, e :: r.ends⟩

end Rounds

/-- The rounds of a repetition that start at a spot, where none has started yet. A round that goes
on starts further right, so the bound is never met when it is the length of the text. -/
def rounds (inner : Spot → Captures → Ends) (greedy : Bool) :
    Nat → Spot → Captures → Rounds → Rounds
  | 0, _, _, r => r
  | bound + 1, s, c, r =>
    (inner s c).foldl
      (fun r e =>
        let again := fun r : Rounds =>
          if r.started.has e.1.offset then r else rounds inner greedy bound e.1 e.2 r
        if greedy then (again r).leave e else again (r.leave e))
      { r with started := r.started.add s.offset }

/-- The ends of matches that start at a spot, the most preferred first. -/
def ends : Regex → Spot → Captures → Ends
  | empty, s, c => [(s, c)]
  | one set, s, c =>
    match s.rest with
    | [] => []
    | char :: rest =>
      if set.holds char then [(⟨s.offset + char.utf8Size, some char, rest⟩, c)] else []
  | look l, s, c => if l.holds s then [(s, c)] else []
  | group i e, s, c => (ends e s c).map fun (t, c) => (t, (i, s, t) :: c.filter (·.1 != i))
  | append a b, s, c => Ends.distinct ((ends a s c).flatMap fun (t, c) => ends b t c)
  | either a b, s, c => Ends.distinct (ends a s c ++ ends b s c)
  | optional greedy e, s, c =>
    Ends.distinct (if greedy then ends e s c ++ [(s, c)] else (s, c) :: ends e s c)
  | plus greedy e, s, c =>
    (rounds (ends e) greedy (s.rest.length + 1) s c Rounds.none).ends.reverse

/-- A match. -/
structure Found where
  start : Spot
  stop : Spot
  captures : Captures

namespace Found

/-- The matched text. -/
def text (f : Found) : List Char := f.start.upTo f.stop

/-- The text that a group has matched, if it took part. -/
def group? (f : Found) (group : Nat) : Option (List Char) :=
  (f.captures.get? group).map fun (s, t) => s.upTo t

/-- Whether the matched text is empty. -/
def isEmpty (f : Found) : Bool := f.start.offset == f.stop.offset

end Found

/-- The most preferred match that starts at a spot. -/
def matchAt? (e : Regex) (s : Spot) : Option Found :=
  (ends e s []).head?.map fun (t, c) => ⟨s, t, c⟩

/-- The leftmost match in a text that is left at an offset after a character. -/
def findFrom? (e : Regex) (offset : Nat) (previous : Option Char) : List Char → Option Found
  | [] => e.matchAt? ⟨offset, previous, []⟩
  | c :: cs =>
    match e.matchAt? ⟨offset, previous, c :: cs⟩ with
    | some f => some f
    | none => findFrom? e (offset + c.utf8Size) (some c) cs

/-- The leftmost match at or after a spot. -/
def find? (e : Regex) (s : Spot) : Option Found := e.findFrom? s.offset s.previous s.rest

/-- The next match after one that has ended at a spot. An empty match right there does not count;
the search then goes on one character further. -/
def findAfter? (e : Regex) (last : Option Nat) (s : Spot) : Option Found :=
  match e.find? s with
  | none => none
  | some f =>
    if f.isEmpty && last == some f.stop.offset then s.next?.bind e.find? else some f

/-- Successive matches. Each one ends further right than the one before it, so the bound is never
met when it is more than the length of the text. -/
def findAll (e : Regex) : Nat → Option Nat → Spot → List Found
  | 0, _, _ => []
  | bound + 1, last, s =>
    match e.findAfter? last s with
    | none => []
    | some f => f :: findAll e bound (some f.stop.offset) f.stop

/-- All successive matches in a text. -/
def allMatches (e : Regex) (text : List Char) : List Found :=
  e.findAll (text.length + 2) none (Spot.start text)

end Microtemplate.Regex
