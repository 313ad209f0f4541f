/-!
Searching in texts: first occurrences, cutting at all occurrences, and replacing them. Occurrences
are taken from left to right and do not overlap.
-/

namespace Microtemplate.Text

/-- The position of the first occurrence of a text in another. -/
def occurrence? (wanted : List Char) : List Char → Option Nat
  | [] => if wanted.isEmpty then some 0 else none
  | c :: cs => if wanted.isPrefixOf (c :: cs) then some 0 else (occurrence? wanted cs).map (· + 1)

/-- The position of the first occurrence that is not before a given position. -/
def occurrenceFrom? (wanted : List Char) (start : Nat) (cs : List Char) : Option Nat :=
  (occurrence? wanted (cs.drop start)).map (· + start)

/-- Puts a character before the first part. -/
def extendFirst (c : Char) : List (List Char) → List (List Char)
  | [] => [[c]]
  | part :: parts => (c :: part) :: parts

/-- Cuts a text at each occurrence of a separator that is not empty. The number counts characters
still to go over that belong to an occurrence. -/
def splitAfter (separator : List Char) : Nat → List Char → List (List Char)
  | _, [] => [[]]
  | skip + 1, _ :: cs => splitAfter separator skip cs
  | 0, c :: cs =>
    if separator.isPrefixOf (c :: cs) then [] :: splitAfter separator (separator.length - 1) cs
    else extendFirst c (splitAfter separator 0 cs)

/-- The parts of a text between the occurrences of a separator; an empty separator stands between
all characters. -/
def split (separator cs : List Char) : List (List Char) :=
  if separator.isEmpty then cs.map ([·]) else splitAfter separator 0 cs

/-- Replaces every occurrence of a text that is not empty. -/
def replaceAll (wanted new cs : List Char) : List Char :=
  new.intercalate (splitAfter wanted 0 cs)

example : split ",".toList "a,b,".toList = ["a".toList, "b".toList, []] := by decide

end Microtemplate.Text
