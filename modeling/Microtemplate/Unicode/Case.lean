import Microtemplate.Unicode.CaseTable
import Microtemplate.Unicode.Letter

/-!
Upper and lower case forms of texts, and the classes of characters that differ in case only. A
capital sigma that ends a word has the final small sigma as its lower case form.
-/

namespace Microtemplate.Unicode

namespace Case

private def send (runs : List CaseRun) (n : Nat) : Nat := (runs.findSome? (·.send? n)).getD n

/-- The upper case form of a character, which may have several characters. -/
def upper (c : Char) : List Char :=
  if c.toNat < 128 then [c.toUpper]
  else match upperExpansions.find? (·.1 == c.toNat) with
    | some (_, form) => form.map Char.ofNat
    | none => [Char.ofNat (send upperRuns c.toNat)]

/-- The lower case form of a character that stands alone. -/
def lower (c : Char) : List Char :=
  if c.toNat < 128 then [c.toLower]
  else if c = 'İ' then ['i', '\u0307']
  else [Char.ofNat (send lowerRuns c.toNat)]

/-- Characters that have case: upper case, lower case or title case. -/
def isCased (c : Char) : Bool :=
  CharRange.anyHolds Property.lowercase c || CharRange.anyHolds Property.uppercase c
    || CharRange.anyHolds Category.titlecaseLetter c

/-- Whether the first character that does not merely continue a word has case. -/
private def meetsCased (cs : List Char) : Bool :=
  match cs.dropWhile (CharRange.anyHolds Property.caseIgnorable) with
  | c :: _ => isCased c
  | [] => false

private def lowerAfter (before : List Char) : List Char → List Char
  | [] => []
  | c :: rest =>
    let form :=
      if c = 'Σ' then if meetsCased before && !meetsCased rest then ['ς'] else ['σ'] else lower c
    form ++ lowerAfter (c :: before) rest

/-- Code points sent to the least member of their class of characters that differ in case only;
those that are least themselves, or alone in their class, are left out. -/
def foldPairs : List (Nat × Nat) := foldRuns.flatMap CaseRun.pairs

end Case

/-- The upper case form of a text. -/
def toUpper (text : String) : String := String.ofList (text.toList.flatMap Case.upper)

/-- The lower case form of a text. -/
def toLower (text : String) : String := String.ofList (Case.lowerAfter [] text.toList)

end Microtemplate.Unicode
