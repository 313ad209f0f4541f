import Microtemplate.Regex.Read

/-!
Reading classes in square brackets. A class is a union of characters, ranges and other classes, or
such unions joined by set operations, which are taken from left to right.
-/

namespace Microtemplate.Regex

/-- How deep groups, repetitions and classes may stand inside each other. -/
def nestLimit : Nat := 250

/-- A set and how deep its class is nested. -/
structure ClassPart where
  ranges : List Unicode.CharRange
  nesting : Nat

namespace ClassPart

/-- Parts in a row: one part is itself, several are one level deeper. -/
def union (parts : List ClassPart) : ClassPart :=
  match parts with
  | [p] => p
  | [] => ⟨[], 0⟩
  | _ => ⟨parts.flatMap (·.ranges), 1 + (parts.map (·.nesting)).foldl max 0⟩

end ClassPart

/-- The operations between parts of a class. -/
inductive SetOperation where
  | inter
  | diff
  | symmetricDiff
deriving DecidableEq, Repr

/-- The result of an operation on canonical sets. -/
def SetOperation.apply : SetOperation → CharSet → CharSet → CharSet
  | inter => CharSet.inter
  | diff => CharSet.diff
  | symmetricDiff => CharSet.symmetricDiff

namespace ClassReader

open Read

/-- A character or a set inside a class. -/
def atom : Read Escaped := do
  let c ← peek
  if c = '\\' then escape
  else
    drop 1
    return .char c

/-- A character inside a class that has to be one character. -/
def classChar (e : Escaped) : Read Char := do
  match e with
  | .char c => if (← flags).unicode || c.toNat < 0x80 then return c else refuse
  | _ => refuse

/-- The part that a single character or set is. -/
def single (e : Escaped) : Read ClassPart := do
  match e with
  | .set s => return ⟨s, 0⟩
  | .look _ => refuse
  | .char _ =>
    let c ← classChar e
    return ⟨[⟨c.toNat, c.toNat⟩], 0⟩

/-- The character after the next one, without space between them. -/
def second? : Read (Option Char) := do
  let f ← flags
  match (← rest).drop 1 with
  | [] => return none
  | cs => return (if f.verbose then skipVerbose false cs else cs).head?

/-- A character, a set or a range. -/
def range : Read ClassPart := do
  let first ← atom
  space
  let c ← peek
  let after ← second?
  if c != '-' || after == some ']' || after == some '-' then single first
  else
    step
    let _ ← peek
    let last ← atom
    let a ← classChar first
    let b ← classChar last
    if a ≤ b then return ⟨[⟨a.toNat, b.toNat⟩], 0⟩ else refuse

/-- A class with a name, in square brackets with colons; the bracket comes next. Nothing is read if
it is none. -/
def named? : Read (Option ClassPart) := do
  let f ← flags
  match ← rest with
  | '[' :: ':' :: cs =>
    let (negated, cs) := match cs with
      | '^' :: cs => (true, cs)
      | _ => (false, cs)
    let name := cs.takeWhile (· != ':')
    match cs.dropWhile (· != ':'), NamedClass.posix? (String.ofList name) with
    | ':' :: ']' :: after, some s =>
      setRest after
      let last := if f.unicode then CharSet.lastCode else 0xFF
      return some ⟨if negated then CharSet.complement last s else s, 0⟩
    | _, _ => return none
  | _ => return none

/-- The operation that comes next, if one does. -/
def operation? : Read (Option SetOperation) := do
  if ← eat "&&" then return some .inter
  else if ← eat "--" then return some .diff
  else if ← eat "~~" then return some .symmetricDiff
  else return none

/-- An operation with its left side. -/
structure Pending where
  left : ClassPart
  operation : SetOperation

/-- Closes a union: applies the operation that waits for it. -/
def close (f : Flags) (pending : Option Pending) (parts : List ClassPart) : ClassPart :=
  let right := ClassPart.union parts.reverse
  match pending with
  | none => right
  | some p =>
    ⟨p.operation.apply (adjust f false p.left.ranges) (adjust f false right.ranges),
      1 + max p.left.nesting right.nesting⟩

/-- The parts of a class up to its closing bracket; the parts of the union so far are given in
reverse order. -/
def parts (inner : Read ClassPart) :
    Nat → Option Pending → List ClassPart → Read ClassPart
  | 0, _, _ => refuse
  | bound + 1, pending, done => do
    space
    let f ← flags
    match ← peek with
    | ']' =>
      drop 1
      return close f pending done
    | '[' =>
      match ← named? with
      | some p => parts inner bound pending (p :: done)
      | none =>
        let p ← inner
        parts inner bound pending (p :: done)
    | _ =>
      match ← operation? with
      | some o => parts inner bound (some ⟨close f pending done, o⟩) []
      | none =>
        let p ← range
        parts inner bound pending (p :: done)

/-- The hyphens at the start of a class. -/
def hyphens : Nat → Read (List ClassPart)
  | 0 => return []
  | bound + 1 => do
    if (← peek) = '-' then
      step
      let more ← hyphens bound
      return ⟨[⟨'-'.toNat, '-'.toNat⟩], 0⟩ :: more
    else return []

/-- A class with others inside it at most the given number of levels deep; its opening bracket comes
next. -/
def bracketed : Nat → Read ClassPart
  | 0 => refuse
  | levels + 1 => do
    step
    let negated := (← peek) = '^'
    if negated then step
    let first ← hyphens ((← rest).length + 1)
    let first ←
      if first.isEmpty && (← peek) = ']' then do
        step
        let _ ← peek
        pure [(⟨[⟨']'.toNat, ']'.toNat⟩], 0⟩ : ClassPart)]
      else pure first
    let f ← flags
    let p ← parts (bracketed levels) ((← rest).length + 1) none first
    return ⟨adjust f negated p.ranges, 1 + p.nesting⟩

/-- A class; its opening bracket comes next. -/
def set : Read ClassPart := do
  let p ← bracketed nestLimit
  if !(← flags).unicode && p.ranges.any (0x7F < ·.last) then refuse
  else return ⟨CharSet.canonical p.ranges, p.nesting⟩

end ClassReader

end Microtemplate.Regex
