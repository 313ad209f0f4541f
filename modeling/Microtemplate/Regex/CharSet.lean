import Microtemplate.Unicode.Case

/-!
Sets of characters as lists of ranges. In canonical form the ranges are in order and do not touch;
the operations give canonical sets.
-/

namespace Microtemplate.Regex

open Unicode (CharRange)

/-- A set of code points. -/
abbrev CharSet := List CharRange

namespace CharSet

/-- The largest code point. -/
def lastCode : Nat := 0x10FFFF

/-- All characters. -/
def all : CharSet := [⟨0, lastCode⟩]

/-- One character. -/
def single (c : Char) : CharSet := [⟨c.toNat, c.toNat⟩]

/-- Whether a set holds a character. -/
def holds (s : CharSet) (c : Char) : Bool := CharRange.anyHolds s c

/-- Joins ranges that touch or overlap, given ranges in the order of their first code points. -/
def joinRanges : List CharRange → List CharRange
  | [] => []
  | r :: rest =>
    match joinRanges rest with
    | [] => [r]
    | next :: more =>
      if next.first ≤ r.last + 1 then ⟨r.first, max r.last next.last⟩ :: more
      else r :: next :: more

/-- Puts a range before the first one that does not start before it. -/
def insertRange (r : CharRange) : List CharRange → List CharRange
  | [] => [r]
  | next :: rest => if r.first ≤ next.first then r :: next :: rest else next :: insertRange r rest

/-- The canonical form of ranges in any order. -/
def canonical (ranges : List CharRange) : CharSet :=
  joinRanges (ranges.foldr insertRange [])

/-- The union of two sets. -/
def union (a b : CharSet) : CharSet := canonical (a ++ b)

/-- What lies between the ranges of a canonical set, from a code point on up to the last one of the
universe. -/
def gapsFrom (last start : Nat) : List CharRange → CharSet
  | [] => if start ≤ last then [⟨start, last⟩] else []
  | r :: rest =>
    if start < r.first then ⟨start, r.first - 1⟩ :: gapsFrom last (r.last + 1) rest
    else gapsFrom last (r.last + 1) rest

/-- The code points up to `last` that a canonical set does not hold. -/
def complement (last : Nat) (s : CharSet) : CharSet := gapsFrom last 0 s

/-- The intersection of two canonical sets. -/
def inter (a b : CharSet) : CharSet :=
  complement lastCode (union (complement lastCode a) (complement lastCode b))

/-- What the first of two canonical sets holds and the second does not. -/
def diff (a b : CharSet) : CharSet := inter a (complement lastCode b)

/-- What exactly one of two canonical sets holds. -/
def symmetricDiff (a b : CharSet) : CharSet := union (diff a b) (diff b a)

/-- Adds to a set what differs from its members in case only. -/
def foldCase (s : CharSet) : CharSet :=
  let least := Unicode.Case.foldPairs.filterMap fun (c, l) =>
    if s.any (·.holds c) then some (⟨l, l⟩ : CharRange) else none
  let grown := canonical (s ++ least)
  let others := Unicode.Case.foldPairs.filterMap fun (c, l) =>
    if grown.any (·.holds l) then some (⟨c, c⟩ : CharRange) else none
  canonical (grown ++ others)

/-- The ASCII letters `a` to `z` in both cases: those in reach of a set that ignores their case. -/
def foldAsciiCase (s : CharSet) : CharSet :=
  let others := (List.range 26).flatMap fun i =>
    (if s.any (·.holds (0x41 + i)) then [(⟨0x61 + i, 0x61 + i⟩ : CharRange)] else [])
      ++ (if s.any (·.holds (0x61 + i)) then [(⟨0x41 + i, 0x41 + i⟩ : CharRange)] else [])
  canonical (s ++ others)

example : complement lastCode (canonical [⟨5, 9⟩, ⟨0, 4⟩]) = [⟨10, lastCode⟩] := by decide +kernel

end CharSet

end Microtemplate.Regex
