/-! Command lines, read as positional arguments and switches. -/

namespace Phrasebook

/-- Why a command line is not carried out. -/
inductive ArgumentStop where
  | misuse
  | help
  | version
  deriving DecidableEq, Repr

/-- What meeting a switch does. -/
inductive SwitchEffect where
  /-- The switch is on. -/
  | turnOn
  /-- The switch takes a value, from the same argument or the next. -/
  | takeValue
  /-- Nothing after the switch is read. -/
  | stop (reason : ArgumentStop)
  deriving DecidableEq, Repr

/-- A switch that a command knows. -/
structure Switch where
  /-- The name after two dashes. -/
  name : String
  /-- The letter after one dash. -/
  letter? : Option Char
  effect : SwitchEffect
  deriving DecidableEq, Repr

/-- What a command accepts. -/
structure Signature where
  switches : List Switch
  /-- How many positional arguments there have to be. -/
  positionals : Nat
  deriving DecidableEq, Repr

/-- What has been read of a command line. -/
structure Arguments where
  positionals : List String
  /-- The switches met, each with its value, which is empty if it takes none. -/
  switches : List (String × String)
  deriving DecidableEq, Repr

namespace Arguments

/-- The command line without arguments. -/
def none : Arguments := ⟨[], []⟩

/-- Whether a switch was met. -/
def has (arguments : Arguments) (name : String) : Bool :=
  (arguments.switches.lookup name).isSome

/-- The value of a switch. -/
def value? (arguments : Arguments) (name : String) : Option String :=
  arguments.switches.lookup name

/-- Takes up a switch, which must not come twice. -/
def addSwitch (arguments : Arguments) (name value : String) : Except ArgumentStop Arguments :=
  if arguments.has name then .error .misuse
  else .ok { arguments with switches := arguments.switches ++ [(name, value)] }

/-- Takes up a positional argument, if the command has room for one more. -/
def addPositional (arguments : Arguments) (signature : Signature) (value : String) :
    Except ArgumentStop Arguments :=
  if arguments.positionals.length < signature.positionals then
    .ok { arguments with positionals := arguments.positionals ++ [value] }
  else .error .misuse

end Arguments

/-- Whether an argument starts with a dash and is not the dash alone. -/
def looksLikeSwitch (argument : List Char) : Bool :=
  argument.head? == some '-' && 1 < argument.length

/-- What an argument of switches leaves: the arguments so far, and a switch that awaits a value. -/
abbrev SwitchOutcome := Except ArgumentStop (Arguments × Option Switch)

namespace Signature

/-- Reads a switch given by name, with the value behind an equals sign if there is one. -/
def readNamed (signature : Signature) (arguments : Arguments) (name : String)
    (attached? : Option String) : SwitchOutcome :=
  match signature.switches.find? (·.name == name) with
  | none => .error .misuse
  | some switch =>
    match switch.effect, attached? with
    | .takeValue, some value => do return (← arguments.addSwitch name value, none)
    | .takeValue, none => .ok (arguments, some switch)
    | .turnOn, none => do return (← arguments.addSwitch name "", none)
    | .stop reason, none => .error reason
    -- A value for a switch that takes none.
    | _, some _ => .error .misuse

/-- Reads switches given by letter, of which one with a value takes the rest of the argument. -/
def readLetters (signature : Signature) (arguments : Arguments) : List Char → SwitchOutcome
  | [] => .ok (arguments, none)
  | letter :: rest =>
    match signature.switches.find? (·.letter? == some letter) with
    | none => .error .misuse
    | some switch =>
      match switch.effect with
      | .takeValue =>
        match rest with
        -- With nothing left in this argument the value is the next one.
        | [] => .ok (arguments, some switch)
        | '=' :: value => do return (← arguments.addSwitch switch.name (.ofList value), none)
        | value => do return (← arguments.addSwitch switch.name (.ofList value), none)
      | .turnOn => do signature.readLetters (← arguments.addSwitch switch.name "") rest
      | .stop reason => .error reason

/-- Reads an argument that starts with a dash, other than one or two dashes alone. -/
def readSwitch (signature : Signature) (arguments : Arguments) (argument : List Char) :
    SwitchOutcome :=
  match argument with
  | '-' :: '-' :: named =>
    -- The name ends at the first equals sign, and the value may have others.
    let name := String.ofList (named.takeWhile (· != '='))
    match named.dropWhile (· != '=') with
    | [] => signature.readNamed arguments name none
    | _ :: value => signature.readNamed arguments name (some (.ofList value))
  | _ => signature.readLetters arguments argument.tail

/-- Reads the rest of a command line, the first of it being the value that a switch may await. -/
def readRest (signature : Signature) (arguments : Arguments) (awaiting : Option Switch) :
    List String → Except ArgumentStop Arguments
  | [] => if awaiting.isSome then .error .misuse else .ok arguments
  | argument :: rest =>
    match awaiting with
    | some switch => do
      -- A value that looks like a switch has to be attached to its own.
      if looksLikeSwitch argument.toList then throw .misuse
      signature.readRest (← arguments.addSwitch switch.name argument) none rest
    | none =>
      if argument = "--" then
        -- Two dashes alone end the switches.
        rest.foldlM (·.addPositional signature) arguments
      else if looksLikeSwitch argument.toList then do
        let (arguments, awaiting) ← signature.readSwitch arguments argument.toList
        signature.readRest arguments awaiting rest
      else do
        signature.readRest (← arguments.addPositional signature argument) none rest

/-- Reads a command line, on which no positional argument may be missing. -/
def read (signature : Signature) (line : List String) : Except ArgumentStop Arguments := do
  let arguments ← signature.readRest .none none line
  if arguments.positionals.length < signature.positionals then throw .misuse
  return arguments

end Signature

/-- The switches that every command knows. -/
def commonSwitches : List Switch :=
  [⟨"help", some 'h', .stop .help⟩, ⟨"version", some 'V', .stop .version⟩]

end Phrasebook
