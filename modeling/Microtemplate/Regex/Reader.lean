import Microtemplate.Regex.ClassReader

/-!
Reading regular expressions.
-/

namespace Microtemplate.Regex

/-- A part of an expression with how deep it is nested and roughly how large it becomes when its
repetitions are written out. Flags that are set are parts which cannot be repeated. -/
structure Part where
  regex : Regex
  nesting : Nat
  weight : Nat
  repeatable : Bool

/-- No expression becomes larger than this when its repetitions are written out. -/
def weightLimit : Nat := 320000

namespace Part

/-- A part without others inside. -/
def simple (e : Regex) (weight : Nat) : Part := ⟨e, 0, weight, true⟩

/-- A part that matches one character of a set. -/
def ofSet (s : CharSet) : Part :=
  simple (.one s) (if s.any (0x7F < ·.last) then 2 + s.length / 2 else 1)

/-- The greatest nesting and the sum of the weights of parts. -/
def measure (parts : List Part) : Nat × Nat :=
  ((parts.map (·.nesting)).foldl max 0, (parts.map (·.weight)).foldl (· + ·) 0)

/-- Parts in a row; a single one is itself. -/
def row (parts : List Part) : Part :=
  match parts with
  | [p] => p
  | [] => simple .empty 1
  | _ => ⟨sequence (parts.map (·.regex)), 1 + (measure parts).1, (measure parts).2, true⟩

/-- Any of several expressions, the first one preferred. -/
def anyOf : List Regex → Regex
  | [] => .empty
  | [e] => e
  | e :: es => .either e (anyOf es)

/-- A choice between parts; a single one is itself. -/
def choice (parts : List Part) : Part :=
  match parts with
  | [p] => p
  | _ => ⟨anyOf (parts.map (·.regex)), 1 + (measure parts).1, 1 + (measure parts).2, true⟩

end Part

/-- How often a part is repeated: at least, and at most if there is a most. -/
structure Count where
  least : Nat
  most : Option Nat

/-- A repeated expression. -/
def Count.apply (n : Count) (greedy : Bool) (e : Regex) : Regex :=
  match n.least, n.most with
  | least, none => atLeast greedy e least
  | 0, some 0 => .empty
  | 0, some most => atMost greedy e most
  | least, some most =>
    if most ≤ least then times e least
    else append (times e least) (atMost greedy e (most - least))

namespace Reader

open Read

/-- A literal character under the flags. -/
def literal (f : Flags) (c : Char) : Part :=
  if !f.ignoreCase then Part.ofSet (CharSet.single c)
  else if f.unicode then Part.ofSet (CharSet.single c).foldCase
  else Part.ofSet (CharSet.single c).foldAsciiCase

/-- Any character but line ends, or any character at all. -/
def dot (f : Flags) : CharSet :=
  if f.dotAll then CharSet.all
  else if f.crlf then CharSet.complement CharSet.lastCode [⟨0x0A, 0x0A⟩, ⟨0x0D, 0x0D⟩]
  else CharSet.complement CharSet.lastCode [⟨0x0A, 0x0A⟩]

/-- The flag that a letter sets or clears. -/
def setFlag? (value : Bool) (f : Flags) (c : Char) : Option Flags :=
  match c with
  | 'i' => some { f with ignoreCase := value }
  | 'm' => some { f with multiLine := value }
  | 's' => some { f with dotAll := value }
  | 'U' => some { f with swapGreed := value }
  | 'u' => some { f with unicode := value }
  | 'R' => some { f with crlf := value }
  | 'x' => some { f with verbose := value }
  | _ => none

/-- Letters of flags up to a colon or a closing parenthesis, which is left. Letters after a hyphen
are cleared; no letter may come twice. -/
def flagLetters : List Char → Bool → List Char → Flags → Option (Flags × List Char)
  | [], _, _, _ => none
  | c :: cs, value, seen, f =>
    if c = ':' || c = ')' then
      if !value && seen.head? == some '-' then none else some (f, c :: cs)
    else if seen.contains c then none
    else if c = '-' then flagLetters cs false (c :: seen) f
    else (setFlag? value f c).bind fun f => flagLetters cs value (c :: seen) f

/-- A part that is no group, no class and no repetition. -/
def primitive : Read Part := do
  let f ← flags
  let c ← peek
  match c with
  | '\\' =>
    match ← escape with
    | .char c => return literal f c
    | .set s =>
      if !f.unicode && s.any (0x7F < ·.last) then refuse else return Part.ofSet s
    | .look l => return Part.simple (.look l) 1
  | '.' =>
    drop 1
    if f.unicode then return Part.ofSet (dot f) else refuse
  | '^' =>
    drop 1
    return Part.simple (.look (if f.multiLine then .lineStart f.crlf else .textStart)) 1
  | '$' =>
    drop 1
    return Part.simple (.look (if f.multiLine then .lineEnd f.crlf else .textEnd)) 1
  | c =>
    drop 1
    return literal f c

/-- Whether a question mark makes a repetition prefer less. -/
def lazyMark : Read Bool := eat "?"

/-- The counts of a repetition in braces; the opening brace comes next. -/
def counts : Read Count := do
  step
  let _ ← peek
  let least ← count
  match ← peek with
  | ',' =>
    step
    if (← peek) = '\x7d' then
      step
      return ⟨least, none⟩
    else
      let most ← count
      if (← peek) = '\x7d' then step else refuse
      if most < least then refuse else return ⟨least, some most⟩
  | '\x7d' =>
    step
    return ⟨least, some least⟩
  | _ => refuse

/-- Repeats the last part. -/
def repetition (last : Option Part) (n : Count) : Read Part := do
  let isLazy ← lazyMark
  let f ← flags
  match last with
  | some p =>
    let weight := (p.weight + 1) * max 1 (n.most.getD n.least)
    if !p.repeatable || weightLimit < weight then refuse
    else return ⟨n.apply (isLazy == f.swapGreed) p.regex, 1 + p.nesting, weight, true⟩
  | none => refuse

/-- The parts of a group up to its end, which is left. Branches and parts so far are given in
reverse order. -/
def body (group : Read Part) : Nat → List Part → List Part → Read Part
  | 0, _, _ => refuse
  | bound + 1, branches, done => do
    space
    match ← rest with
    | [] => return Part.choice ((Part.row done.reverse :: branches).reverse)
    | ')' :: _ => return Part.choice ((Part.row done.reverse :: branches).reverse)
    | '|' :: _ =>
      drop 1
      body group bound (Part.row done.reverse :: branches) []
    | '(' :: _ =>
      let p ← group
      body group bound branches (p :: done)
    | '[' :: _ =>
      let c ← ClassReader.set
      let p := Part.ofSet c.ranges
      body group bound branches ({ p with nesting := c.nesting } :: done)
    | '?' :: _ =>
      drop 1
      let p ← repetition done.head? ⟨0, some 1⟩
      body group bound branches (p :: done.tail)
    | '*' :: _ =>
      drop 1
      let p ← repetition done.head? ⟨0, none⟩
      body group bound branches (p :: done.tail)
    | '+' :: _ =>
      drop 1
      let p ← repetition done.head? ⟨1, none⟩
      body group bound branches (p :: done.tail)
    | '\x7b' :: _ =>
      let n ← counts
      let p ← repetition done.head? n
      body group bound branches (p :: done.tail)
    | _ =>
      let p ← primitive
      body group bound branches (p :: done)

/-- The number of the next capture group. -/
def nextGroup : Read Nat := do
  let s ← get
  set { s with groups := s.groups + 1 }
  return s.groups + 1

/-- Whether a character may stand in the name of a group. -/
def isNamePart (first : Bool) (c : Char) : Bool :=
  if first then c = '_' || Unicode.isAlphabetic c
  else c = '_' || c = '.' || c = '[' || c = ']' || Unicode.isAlphanumeric c

/-- The name of a group with the closing bracket after it. -/
def groupName : Read Unit := do
  let cs ← rest
  let name := cs.takeWhile (· != '>')
  match name, cs.dropWhile (· != '>') with
  | c :: more, _ :: after =>
    if isNamePart true c && more.all (isNamePart false) then
      let s ← get
      if s.names.contains (String.ofList name) then refuse
      else set { s with rest := after, names := String.ofList name :: s.names }
    else refuse
  | _, _ => refuse

/-- What stands in a group, up to and with its closing parenthesis. Flags that are set in it end
with it. -/
def content (group : Read Part) (outer : Flags) : Read Part := do
  let p ← body group ((← rest).length + 1) [] []
  if (← peek) = ')' then
    drop 1
    setFlags outer
    return p
  else refuse

/-- Whether one of several texts comes next. -/
def comesNext (texts : List String) : Read Bool := do
  let cs ← rest
  return texts.any fun t => t.toList.isPrefixOf cs

/-- A group, or flags that are set, with groups inside at most the given number of levels deep; its
opening parenthesis comes next. -/
def group : Nat → Read Part
  | 0 => refuse
  | levels + 1 => do
    let outer ← flags
    drop 1
    space
    if ← comesNext ["?=", "?!", "?<=", "?<!"] then refuse
    let named ← comesNext ["?P<", "?<"]
    if named then
      if !(← eat "?P<") then drop 2
      let i ← nextGroup
      groupName
      let p ← content (group levels) outer
      return ⟨.group i p.regex, 1 + p.nesting, 2 + p.weight, true⟩
    else if ← eat "?" then
      let before ← rest
      match flagLetters before true [] outer with
      | some (f, c :: cs) =>
        setRest cs
        if c = ')' then
          if before.head? == some ')' then refuse
          else
            setFlags f
            return ⟨.empty, 0, 0, false⟩
        else
          setFlags f
          let p ← content (group levels) outer
          return ⟨p.regex, 1 + p.nesting, p.weight, true⟩
      | _ => refuse
    else
      let i ← nextGroup
      let p ← content (group levels) outer
      return ⟨.group i p.regex, 1 + p.nesting, 2 + p.weight, true⟩

/-- A whole expression. -/
def whole : Read Part := do
  let p ← body (group nestLimit) ((← rest).length + 1) [] []
  if !(← rest).isEmpty || nestLimit < p.nesting || weightLimit < p.weight then refuse
  else return p

end Reader

/-- Reads a regular expression. -/
def ofText? (cs : List Char) : Option Regex :=
  (Reader.whole.run ⟨cs, .initial, 0, []⟩).map (·.1.regex)

end Microtemplate.Regex
