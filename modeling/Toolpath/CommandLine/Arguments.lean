import Toolpath.Number.Scan
import Toolpath.Units

/-!
# Arguments of the command line

The arguments are taken one after the other, and the first that decides the
matter ends the reading: a wrong one, or one that only asks for information.
Every option may be given once.  A value follows its option as the next
argument or within the same one.
-/

namespace Toolpath

/-- What a run is asked to do. -/
structure Invocation where
  /-- The drawing file. -/
  input : String
  /-- The file for the program, if it is not to be printed. -/
  output : Option String
  settingsFile : Option String
  /-- A feed in the place of the one in the settings. -/
  feed : Option Float
  /-- A measurement system in the place of the one in the settings. -/
  units : Option MeasurementSystem
  optimizeOrder : Bool
  skipUnsupported : Bool
  includeBlocks : Bool

/-- What the arguments ask for. -/
inductive Request where
  | run (invocation : Invocation)
  | version
  | help

inductive ArgumentError where
  | unknown (argument : String)
  | repeated (option : String)
  | missingValue (option : String)
  | unwantedValue (option : String)
  | invalidValue (option value : String)
  | missingInput
deriving DecidableEq, Repr

def ArgumentError.message : ArgumentError → String
  | unknown argument => "unexpected argument '" ++ argument ++ "'"
  | repeated option => option ++ " is given more than once"
  | missingValue option => option ++ " needs a value"
  | unwantedValue option => option ++ " takes no value"
  | invalidValue option value =>
    "invalid value '" ++ value ++ "' for " ++ option
  | missingInput => "an input file is needed"

inductive ValuedOption where
  | output
  | settingsFile
  | feed
  | units
deriving DecidableEq, Repr

/-- The options that are given or not. -/
inductive Switch where
  | optimizeOrder
  | skipUnsupported
  | includeBlocks
deriving DecidableEq, Repr

inductive CommandOption where
  | valued (option : ValuedOption)
  | switch (option : Switch)
  | version
  | help
deriving DecidableEq, Repr

/-- The option with a long name, which is not to be abbreviated. -/
def CommandOption.ofName? : String → Option CommandOption
  | "output" => some (.valued .output)
  | "config" => some (.valued .settingsFile)
  | "feedrate" => some (.valued .feed)
  | "units" => some (.valued .units)
  | "optimize-order" => some (.switch .optimizeOrder)
  | "skip-unsupported" => some (.switch .skipUnsupported)
  | "include-blocks" => some (.switch .includeBlocks)
  | "version" => some .version
  | "help" => some .help
  | _ => none

def CommandOption.ofLetter? : Char → Option CommandOption
  | 'o' => some (.valued .output)
  | 'c' => some (.valued .settingsFile)
  | 'V' => some .version
  | 'h' => some .help
  | _ => none

/-- The arguments taken so far. -/
structure Arguments where
  input : Option String := none
  output : Option String := none
  settingsFile : Option String := none
  feed : Option Float := none
  units : Option MeasurementSystem := none
  optimizeOrder : Bool := false
  skipUnsupported : Bool := false
  includeBlocks : Bool := false

/-- Takes a value that is given for the first time. -/
def takeOnce
    {Content : Type}
    (name value : String)
    (former content : Option Content) :
    Except ArgumentError (Option Content) :=
  if former.isSome then .error (.repeated name)
  else if content.isNone then .error (.invalidValue name value)
  else .ok content

/-- A path, which cannot be empty. -/
def pathOfValue? (value : String) : Option String :=
  if value = "" then none else some value

namespace Arguments

def takeValue
    (arguments : Arguments)
    (name value : String) :
    ValuedOption → Except ArgumentError Arguments
  | .output => do
    let output ← takeOnce name value arguments.output (pathOfValue? value)
    return { arguments with output }
  | .settingsFile => do
    let settingsFile ←
      takeOnce name value arguments.settingsFile (pathOfValue? value)
    return { arguments with settingsFile }
  | .feed => do
    let feed ←
      takeOnce name value arguments.feed (Number.readFloat? value.toList)
    return { arguments with feed }
  | .units => do
    let units ←
      takeOnce name value arguments.units (MeasurementSystem.ofName? value)
    return { arguments with units }

def takeSwitch
    (arguments : Arguments)
    (name : String) :
    Switch → Except ArgumentError Arguments
  | .optimizeOrder =>
    if arguments.optimizeOrder then .error (.repeated name)
    else .ok { arguments with optimizeOrder := true }
  | .skipUnsupported =>
    if arguments.skipUnsupported then .error (.repeated name)
    else .ok { arguments with skipUnsupported := true }
  | .includeBlocks =>
    if arguments.includeBlocks then .error (.repeated name)
    else .ok { arguments with includeBlocks := true }

/-- Takes an argument that is no option: the input file. -/
def takeInput
    (arguments : Arguments)
    (value : String) :
    Except ArgumentError Arguments :=
  if arguments.input.isSome then .error (.unknown value)
  else do
    let input ← takeOnce "input" value none (pathOfValue? value)
    return { arguments with input }

/-- What the arguments ask for when there are no more of them. -/
def request (arguments : Arguments) : Except ArgumentError Request :=
  match arguments.input with
  | some input =>
    .ok
      (.run
        { input
          output := arguments.output
          settingsFile := arguments.settingsFile
          feed := arguments.feed
          units := arguments.units
          optimizeOrder := arguments.optimizeOrder
          skipUnsupported := arguments.skipUnsupported
          includeBlocks := arguments.includeBlocks })
  | none => .error .missingInput

end Arguments

inductive ArgumentForm where
  /-- The mark after which no argument is an option. -/
  | endOfOptions
  /-- An option by name or letter, with the value attached to it. -/
  | option (found : Option CommandOption) (value : Option String)
  | plain

/-- A long name and the value after its first equals sign. -/
def splitName (text : List Char) : String × Option String :=
  (String.ofList (text.takeWhile (· ≠ '=')),
    match text.dropWhile (· ≠ '=') with
    | _ :: value => some (String.ofList value)
    | [] => none)

/-- The value attached to a letter, with or without an equals sign. -/
def attachedValue? : List Char → Option String
  | [] => none
  | '=' :: value => some (String.ofList value)
  | value => some (String.ofList value)

/-- The form of an argument; a hyphen alone is a plain one. -/
def ArgumentForm.ofText (text : String) : ArgumentForm :=
  match text.toList with
  | ['-', '-'] => .endOfOptions
  | '-' :: '-' :: long =>
    .option (CommandOption.ofName? (splitName long).1) (splitName long).2
  | '-' :: letter :: rest =>
    .option (CommandOption.ofLetter? letter) (attachedValue? rest)
  | _ => .plain

/-- Whether an argument can be the value of the option before it. -/
def isSeparateValue (argument : String) : Bool :=
  match ArgumentForm.ofText argument with
  | .plain => true
  | _ => false

/-- Takes the arguments after the mark that ends the options. -/
def Arguments.takePlain
    (arguments : Arguments) :
    List String → Except ArgumentError Request
  | [] => arguments.request
  | argument :: rest => do
    let arguments ← arguments.takeInput argument
    arguments.takePlain rest

def Arguments.takeAll
    (arguments : Arguments) :
    List String → Except ArgumentError Request
  | [] => arguments.request
  | argument :: rest =>
    match ArgumentForm.ofText argument with
    | .endOfOptions => arguments.takePlain rest
    | .plain => do
      let arguments ← arguments.takeInput argument
      arguments.takeAll rest
    | .option none _ => .error (.unknown argument)
    | .option (some .version) value =>
      if value.isSome ∧ argument.startsWith "--" then
        .error (.unwantedValue argument)
      else .ok .version
    | .option (some .help) value =>
      if value.isSome ∧ argument.startsWith "--" then
        .error (.unwantedValue argument)
      else .ok .help
    | .option (some (.switch _)) (some _) =>
      .error (.unwantedValue argument)
    | .option (some (.switch option)) none => do
      let arguments ← arguments.takeSwitch argument option
      arguments.takeAll rest
    | .option (some (.valued option)) (some value) => do
      let arguments ← arguments.takeValue argument value option
      arguments.takeAll rest
    | .option (some (.valued option)) none =>
      match rest with
      | value :: rest =>
        if isSeparateValue value then do
          let arguments ← arguments.takeValue argument value option
          arguments.takeAll rest
        else .error (.missingValue argument)
      | [] => .error (.missingValue argument)

/-- What the arguments of the command line ask for. -/
def Request.ofArguments (arguments : List String) :
    Except ArgumentError Request :=
  Arguments.takeAll {} arguments

end Toolpath
