import Microtemplate.Command.Arguments
import Microtemplate.Command.Sink
import Microtemplate.Settings.Basic

/-!
What a command line asks for. An option is given at most once, and the pattern of a region is not
given together with the option that turns this region off.
-/

namespace Microtemplate.Command

/-- The options on settings: a file of settings, patterns and regions that are off, and the name of
the data. -/
structure SettingsOptions where
  file : Option String
  pattern : Region → Option Pattern
  isOff : Region → Bool
  variableName : Option String

/-- The changes that the options make on top of others. -/
def SettingsOptions.apply (o : SettingsOptions) (base : Overrides) : Overrides :=
  let changed := Region.all.foldl (fun changes r =>
    if o.isOff r then changes.withPattern r .off
    else match o.pattern r with
      | some p => changes.withPattern r (.set p)
      | none => changes) base
  match o.variableName with
  | some name => changed.withVariable (.set name)
  | none => changed

/-- What a command line asks for. -/
inductive Request where
  /-- Renders a template with data. The output goes to a file if one is given, and to the standard
  output unless it is written to a file quietly. -/
  | render (template : String) (data : Option String) (output : Option String) (mode : SinkMode)
    (quiet : Bool) (options : SettingsOptions)
  /-- Prints the program of a template. -/
  | source (template : String) (options : SettingsOptions)
  | version
  | help

namespace Request

/-- The word that stands for the standard input. -/
def standardInput : String := "-"

/-- The pattern that is given for a region. -/
def patternOf (a : Arguments) (r : Region) : Except UsageFault (Option Pattern) :=
  match a.value? (.pattern r) with
  | none => .ok none
  | some text =>
    match Pattern.ofText text with
    | .error e => .error (.badPattern (.pattern r) e)
    | .ok p =>
      if a.has (.off r) then .error (.conflict (.pattern r) (.off r)) else .ok (some p)

/-- The options on settings. -/
def settingsOf (a : Arguments) : Except UsageFault SettingsOptions := do
  let escape ← patternOf a .escape
  let interpolate ← patternOf a .interpolate
  let evaluate ← patternOf a .evaluate
  let pattern : Region → Option Pattern
    | .escape => escape
    | .interpolate => interpolate
    | .evaluate => evaluate
  return ⟨a.value? .settings, pattern, fun r => a.has (.off r), a.value? .variableName⟩

/-- The mode that is given. -/
def modeOf (a : Arguments) : Except UsageFault SinkMode :=
  match a.value? .mode with
  | none => .ok .append
  | some word =>
    match SinkMode.ofName? word with
    | some mode => .ok mode
    | none => .error (.badMode word)

/-- The template that is given. -/
def templateOf (a : Arguments) : Except UsageFault String :=
  match a.operands with
  | [] => .error .missingTemplate
  | [template] => .ok template
  | _ :: word :: _ => .error (.superfluousOperand word)

/-- What the arguments of a command ask for. -/
def ofArguments (v : Verb) (a : Arguments) : Except UsageFault Request := do
  if a.has .help then return .help
  match a.repeated? with
  | some o => throw (.repeated o)
  | none =>
    let options ← settingsOf a
    let template ← templateOf a
    match v with
    | .render =>
      return .render template (a.value? .data) (a.value? .output) (← modeOf a) (a.has .quiet) options
    | .source => return .source template options

/-- What short options before a command ask for; the first one counts. -/
def ofShort : List Char → Except UsageFault Request
  | 'V' :: _ => .ok .version
  | 'h' :: _ => .ok .help
  | cs => .error (.unknownOption (String.ofList ('-' :: cs)))

/-- What the words of a command line ask for. -/
def ofWords : List String → Except UsageFault Request
  | [] => .error .missingCommand
  | "--version" :: _ => .ok .version
  | "--help" :: _ => .ok .help
  | "help" :: _ => .ok .help
  | word :: rest =>
    match word.toList with
    | '-' :: c :: cs =>
      if c = '-' then .error (.unknownOption word) else ofShort (c :: cs)
    | _ =>
      match Verb.ofName? word with
      | none => .error (.unknownCommand word)
      | some v => do ofArguments v (← Arguments.readWords v none rest)

end Request

end Microtemplate.Command
