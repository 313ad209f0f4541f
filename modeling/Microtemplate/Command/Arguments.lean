import Microtemplate.Command.Option
import Microtemplate.Settings.Pattern

/-!
Reading the words of a command line as options and operands. The value of an option is the next
word or is attached to the option; a word that starts with a dash is no value unless it is attached,
but the dash alone is one. After `--` all words are operands.
-/

namespace Microtemplate.Command

/-- What is wrong with a command line. -/
inductive UsageFault where
  | missingCommand
  | unknownCommand (word : String)
  | unknownOption (word : String)
  | missingValue (o : OptionName)
  | superfluousValue (o : OptionName)
  | repeated (o : OptionName)
  | conflict (first second : OptionName)
  | badMode (word : String)
  | badPattern (o : OptionName) (e : PatternError)
  | missingTemplate
  | superfluousOperand (word : String)
deriving DecidableEq

/-- The wording of a fault. -/
def UsageFault.message : UsageFault → String
  | missingCommand => "a command is required"
  | unknownCommand word => "there is no command '" ++ word ++ "'"
  | unknownOption word => "there is no option '" ++ word ++ "'"
  | missingValue o => "'--" ++ o.long ++ "' requires a value"
  | superfluousValue o => "'--" ++ o.long ++ "' takes no value"
  | repeated o => "'--" ++ o.long ++ "' is given more than once"
  | conflict first second => "'--" ++ first.long ++ "' cannot be used with '--" ++ second.long ++ "'"
  | badMode word => "there is no mode '" ++ word ++ "'"
  | badPattern o e => "'--" ++ o.long ++ "': " ++ e.display
  | missingTemplate => "a template is required"
  | superfluousOperand word => "there is no use for '" ++ word ++ "'"

/-- The options of a command line in order, each with its value or an empty text, and the
operands. -/
structure Arguments where
  options : List (OptionName × String)
  operands : List String
deriving DecidableEq

namespace Arguments

/-- No words. -/
def empty : Arguments := ⟨[], []⟩

/-- Puts an option before others. -/
def withOption (o : OptionName) (value : String) (a : Arguments) : Arguments :=
  { a with options := (o, value) :: a.options }

/-- Whether a word can be the value of the option before it. -/
def isValue (word : String) : Bool := word == "-" || !(['-'].isPrefixOf word.toList)

/-- Reads the short options of a word: those that have been read, and one that still waits for its
value. -/
def readShort (v : Verb) : List Char →
    Except UsageFault (List (OptionName × String) × Option OptionName)
  | [] => .ok ([], none)
  | c :: cs =>
    match (OptionName.ofVerb v).find? fun o => o.short? = some c with
    | none => .error (.unknownOption (String.ofList ['-', c]))
    | some o =>
      if o.takesValue then
        match cs with
        | [] => .ok ([], some o)
        | '=' :: value => .ok ([(o, String.ofList value)], none)
        | value => .ok ([(o, String.ofList value)], none)
      else (readShort v cs).map fun (options, waiting) => ((o, "") :: options, waiting)

/-- Reads a long option, given without its dashes, and its value if one is attached. -/
def readLong (v : Verb) (text : List Char) :
    Except UsageFault (List (OptionName × String) × Option OptionName) :=
  let (name, rest) := text.span (· ≠ '=')
  match (OptionName.ofVerb v).find? fun o => o.long.toList = name with
  | none => .error (.unknownOption (String.ofList ('-' :: '-' :: name)))
  | some o =>
    match o.takesValue, rest with
    | true, [] => .ok ([], some o)
    | true, _ :: value => .ok ([(o, String.ofList value)], none)
    | false, [] => .ok ([(o, "")], none)
    | false, _ => .error (.superfluousValue o)

/-- Reads words, of which the first one may have to be the value of an option. -/
def readWords (v : Verb) : Option OptionName → List String → Except UsageFault Arguments
  | none, [] => .ok empty
  | some o, [] => .error (.missingValue o)
  | some o, word :: rest =>
    if isValue word then (readWords v none rest).map (withOption o word)
    else .error (.missingValue o)
  | none, word :: rest =>
    match word.toList with
    | ['-', '-'] => .ok ⟨[], rest⟩
    | '-' :: c :: text => do
      let (options, waiting) ← if c = '-' then readLong v text else readShort v (c :: text)
      let a ← readWords v waiting rest
      return { a with options := options ++ a.options }
    | _ => (readWords v none rest).map fun a => { a with operands := word :: a.operands }

/-- Whether an option is given. -/
def has (a : Arguments) (o : OptionName) : Bool := a.options.any (·.1 = o)

/-- The first option that is given more than once. -/
def repeated? (a : Arguments) : Option OptionName :=
  (a.options.find? fun p => 1 < a.options.countP (·.1 = p.1)).map (·.1)

/-- The value of an option, if it is given. -/
def value? (a : Arguments) (o : OptionName) : Option String := a.options.lookup o

end Arguments

end Microtemplate.Command
