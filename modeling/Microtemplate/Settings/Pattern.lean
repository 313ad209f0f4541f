import Microtemplate.Regex.Reader
import Microtemplate.Settings.Region

/-!
Delimiter patterns. A pattern is written as a regular expression, or as a literal with slashes
around one and flags after it. In a literal a slash is written with a backslash before it; the
flags `i`, `m` and `s` become flags of the expression, `g` makes the pattern scan for every match.
-/

namespace Microtemplate

/-- Why a pattern cannot be used. -/
inductive PatternCause where
  | notRegular
  | unsupportedFlag (flag : Char)
  | notGlobal
  | groupCount (found : Nat)
  | combinedGroups
deriving DecidableEq, Repr

/-- The wording of a cause. -/
def PatternCause.message : PatternCause → String
  | notRegular => "regex parse error"
  | unsupportedFlag flag => "unsupported flag `" ++ flag.toString ++ "`"
  | notGlobal => "pattern must scan for every match (add the `g` flag)"
  | groupCount found => "expected exactly one capture group, found " ++ toString found
  | combinedGroups => "combined pattern has an unexpected number of capture groups"

/-- A pattern that cannot be used, with the region it was meant for if that is known. -/
structure PatternError where
  region : Option Region
  pattern : String
  cause : PatternCause
deriving DecidableEq, Repr

namespace PatternError

/-- The wording of an error. -/
def message (e : PatternError) : String := e.cause.message

/-- The error in one line. -/
def display (e : PatternError) : String :=
  "Invalid " ++ (e.region.map (·.name)).getD "delimiter" ++ " pattern `" ++ e.pattern ++ "`: "
    ++ e.message

end PatternError

/-- A delimiter pattern: how it was written, the source of its regular expression, the expression
itself, and whether it scans for every match. -/
structure Pattern where
  text : String
  source : String
  isGlobal : Bool
  regex : Regex
  reads : Regex.ofText? source.toList = some regex

namespace Pattern

/-- A pattern with a regular expression as its source. -/
def build (text source : String) (isGlobal : Bool) : Except PatternError Pattern :=
  match h : Regex.ofText? source.toList with
  | some regex => .ok ⟨text, source, isGlobal, regex, h⟩
  | none => .error ⟨none, text, .notRegular⟩

theorem build_eq_ok {text source : String} {isGlobal : Bool} {e : Regex}
    (h : Regex.ofText? source.toList = some e) :
    build text source isGlobal = .ok ⟨text, source, isGlobal, e, h⟩ := by
  unfold build
  split
  · rename_i e' h'
    obtain rfl := Option.some.inj (h'.symm.trans h)
    rfl
  · rename_i h'
    rw [h'] at h
    cases h

theorem build_eq_error {text source : String} {isGlobal : Bool}
    (h : Regex.ofText? source.toList = none) :
    build text source isGlobal = .error ⟨none, text, .notRegular⟩ := by
  unfold build
  split
  · rename_i h'
    rw [h'] at h
    cases h
  · rfl

/-- A pattern that scans for every match, given its regular expression. -/
def ofSource (source : String) : Except PatternError Pattern := build source source true

/-- Cuts a text at its last slash, if it has one. -/
def cutLastSlash? : List Char → Option (List Char × List Char)
  | [] => none
  | c :: cs =>
    match cutLastSlash? cs with
    | some (before, after) => some (c :: before, after)
    | none => if c = '/' then some ([], cs) else none

/-- Cuts a literal into the expression and the flags. It starts with a slash, and after its last
slash there are letters only. -/
def cutLiteral? : List Char → Option (List Char × List Char)
  | '/' :: cs =>
    match cutLastSlash? cs with
    | some (body, flags) => if flags.all Char.isAlpha then some (body, flags) else none
    | none => none
  | _ => none

/-- Replaces each slash that has a backslash before it by the slash alone. -/
def unescapeSlashes : List Char → List Char
  | [] => []
  | ['\\'] => ['\\']
  | '\\' :: c :: cs => if c = '/' then '/' :: unescapeSlashes cs else '\\' :: c :: unescapeSlashes cs
  | c :: cs => c :: unescapeSlashes cs

/-- The first flag of a literal that is not supported. -/
def unsupportedFlag? (flags : List Char) : Option Char :=
  flags.find? fun c => !(['g', 'i', 'm', 's', 'u'].contains c)

/-- The flags that become flags of the expression, in the order in which they are written. -/
def inlineFlags (flags : List Char) : List Char := flags.filter fun c => ['i', 'm', 's'].contains c

/-- The source of the expression of a literal. -/
def literalSource (body flags : List Char) : List Char :=
  match inlineFlags flags with
  | [] => unescapeSlashes body
  | letters => '(' :: '?' :: letters ++ ')' :: unescapeSlashes body

/-- Reads a pattern: a literal, or else a regular expression. -/
def ofText (text : String) : Except PatternError Pattern :=
  match cutLiteral? text.toList with
  | some (body, flags) =>
    match unsupportedFlag? flags with
    | some flag => .error ⟨none, text, .unsupportedFlag flag⟩
    | none => build text (String.ofList (literalSource body flags)) (flags.contains 'g')
  | none => ofSource text

/-- The number of capture groups. -/
def groupCount (p : Pattern) : Nat := p.regex.groupCount

/-- Patterns are equal if they scan alike, however they were written. -/
instance : BEq Pattern := ⟨fun a b => a.isGlobal == b.isGlobal && a.source == b.source⟩

end Pattern

end Microtemplate
