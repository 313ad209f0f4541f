import Microtemplate.Regex.CharSet

/-!
Regular expressions. Counted and starred repetitions are built from the constructors: `x*` is
`(x+)?`.
-/

namespace Microtemplate

/-- Conditions on whether the characters before and after a place belong to words. -/
inductive Regex.WordCondition where
  | boundary
  | notBoundary
  | start
  | stop
  | startHalf
  | stopHalf
deriving DecidableEq, Repr

/-- Whether a condition holds between a character that does or does not belong to a word and one
that does or does not. -/
def Regex.WordCondition.holds : Regex.WordCondition → Bool → Bool → Bool
  | boundary, before, after => before != after
  | notBoundary, before, after => before == after
  | start, before, after => !before && after
  | stop, before, after => before && !after
  | startHalf, before, _ => !before
  | stopHalf, _, after => !after

/-- Conditions on a place in a text. -/
inductive Regex.Look where
  | textStart
  | textEnd
  /-- The start of a line; with the flag a carriage return ends a line too. -/
  | lineStart (crlf : Bool)
  | lineEnd (crlf : Bool)
  /-- A condition on words, given the characters that they consist of. -/
  | word (word : Regex.CharSet) (condition : Regex.WordCondition)

/-- Regular expressions. -/
inductive Regex where
  | empty
  /-- One character of a set. -/
  | one (s : Regex.CharSet)
  | look (l : Regex.Look)
  /-- A capture group. -/
  | group (index : Nat) (e : Regex)
  | append (first second : Regex)
  /-- Either of two; the first is preferred. -/
  | either (first second : Regex)
  /-- Once or not at all; the flag says which is preferred. -/
  | optional (greedy : Bool) (e : Regex)
  /-- Once or more often; the flag says whether more is preferred. -/
  | plus (greedy : Bool) (e : Regex)

namespace Regex

/-- Expressions in a row. -/
def sequence : List Regex → Regex
  | [] => empty
  | [e] => e
  | e :: es => append e (sequence es)

/-- Any number of times. -/
def star (greedy : Bool) (e : Regex) : Regex := optional greedy (plus greedy e)

/-- Exactly so many times. -/
def times (e : Regex) (n : Nat) : Regex := sequence (List.replicate n e)

/-- At most so many times. -/
def atMost (greedy : Bool) (e : Regex) : Nat → Regex
  | 0 => empty
  | 1 => optional greedy e
  | n + 1 => optional greedy (append e (atMost greedy e n))

/-- At least so many times. -/
def atLeast (greedy : Bool) (e : Regex) : Nat → Regex
  | 0 => star greedy e
  | 1 => plus greedy e
  | n + 2 => append (times e (n + 1)) (plus greedy e)

/-- The largest number of a capture group; none if there is no group. -/
def lastGroup? : Regex → Option Nat
  | group i e => max (some i) e.lastGroup?
  | append a b => max a.lastGroup? b.lastGroup?
  | either a b => max a.lastGroup? b.lastGroup?
  | optional _ e => e.lastGroup?
  | plus _ e => e.lastGroup?
  | _ => none

/-- The number of capture groups, numbers that are left out included. -/
def groupCount (e : Regex) : Nat := e.lastGroup?.getD 0

end Regex

end Microtemplate
