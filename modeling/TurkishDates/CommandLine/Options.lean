import TurkishDates.Calendar.Written

/-!
The options of the command line. Arguments are read from left to right; the first complaint ends the
reading, and so does a request for help or for the version. A conflict between options is found only
when all of them have been read.
-/

namespace TurkishDates

namespace CommandLine

inductive Flag where
  | json
  | numbers
  | noFallback
  | longestMatch
  | color
  | noColor
deriving DecidableEq, Repr

def Flag.text : Flag → String
  | .json => "--json"
  | .numbers => "--numbers"
  | .noFallback => "--no-fallback"
  | .longestMatch => "--longest-match"
  | .color => "--color"
  | .noColor => "--no-color"

inductive UsageError where
  | unexpectedArgument (argument : String)
  | unexpectedValue (value option : String)
  | missingValue
  | repeated (option : String)
  | conflict (option other : String)
  | invalidReference (value : String)
deriving DecidableEq, Repr

def referenceOption : String := "--reference <REFERENCE>"

def UsageError.message : UsageError → String
  | .unexpectedArgument argument => "unexpected argument '" ++ argument ++ "' found"
  | .unexpectedValue value option =>
      "unexpected value '" ++ value ++ "' for '" ++ option ++ "' found; no more were expected"
  | .missingValue => "a value is required for '" ++ referenceOption ++ "' but none was supplied"
  | .repeated option => "the argument '" ++ option ++ "' cannot be used multiple times"
  | .conflict option other => "the argument '" ++ option ++ "' cannot be used with '" ++ other ++ "'"
  | .invalidReference value =>
      "invalid value '" ++ value ++ "' for '" ++ referenceOption ++ "': invalid reference '" ++
        value ++ "' (expected YYYY-MM-DDTHH:MM:SS)"

inductive Stop where
  | help
  | version
  | usage (error : UsageError)
deriving DecidableEq, Repr

/-- The options read so far, with the flags in the order in which they were given. -/
structure Options where
  flags : List Flag
  reference : Option Moment
  input : List String

/-- An option whose value has not been looked at yet. -/
inductive Pending where
  | nothing
  | awaitsValue
  | value (text : String)

def allFlags : List Flag := [.json, .numbers, .noFallback, .longestMatch, .color, .noColor]

namespace Options

def initial : Options := ⟨[], none, []⟩

def has (options : Options) (flag : Flag) : Bool := options.flags.contains flag

def setReference (options : Options) (value : String) : Except Stop Options :=
  if options.reference.isSome then .error (.usage (.repeated referenceOption))
  else match Moment.read? value.toList with
    | some time => .ok { options with reference := some time }
    | none => .error (.usage (.invalidReference value))

def settle (options : Options) : Pending → Except Stop Options
  | .nothing => .ok options
  | .awaitsValue => .error (.usage .missingValue)
  | .value text => options.setReference text

def addFlag (options : Options) (flag : Flag) : Except Stop Options :=
  if options.has flag then .error (.usage (.repeated flag.text))
  else .ok { options with flags := options.flags ++ [flag] }

def request? (option : String) : Option Stop :=
  if option = "--help" then some .help else if option = "--version" then some .version else none

def readLong (options : Options) (pending : Pending) (option : String) (value : Option String) :
    Except Stop (Options × Pending) :=
  match allFlags.find? (·.text == option), request? option, value with
  | some _, _, some value | none, some _, some value =>
      .error (.usage (.unexpectedValue value option))
  | some flag, _, none => do
      return (← (← options.settle pending).addFlag flag, .nothing)
  | none, some stop, none => do
      let _ ← options.settle pending
      .error stop
  | none, none, value =>
      if option = "--reference" then do
        let options ← options.settle pending
        match value with
        | some text => return (← options.setReference text, .nothing)
        | none => return (options, .awaitsValue)
      else .error (.usage (.unexpectedArgument option))

/-- Letters after one dash; only `h` and `V` are options. -/
def readShort (options : Options) (pending : Pending) (letter : Char) :
    Except Stop (Options × Pending) :=
  if letter = 'h' then do
    let _ ← options.settle pending
    .error .help
  else if letter = 'V' then do
    let _ ← options.settle pending
    .error .version
  else .error (.usage (.unexpectedArgument (String.ofList ['-', letter])))

def addInput (options : Options) (pending : Pending) (argument : String) :
    Except Stop (Options × Pending) :=
  match pending with
  | .awaitsValue => .ok (options, .value argument)
  | pending => do
      let options ← options.settle pending
      return ({ options with input := options.input ++ [argument] }, .nothing)

def cutAtEquals (argument : String) : String × Option String :=
  let name := argument.toList.takeWhile (· != '=')
  match argument.toList.drop name.length with
  | _ :: value => (String.ofList name, some (String.ofList value))
  | [] => (argument, none)

def readArgument (options : Options) (pending : Pending) (argument : String) :
    Except Stop (Options × Pending) :=
  match argument.toList with
  | '-' :: '-' :: _ => options.readLong pending (cutAtEquals argument).1 (cutAtEquals argument).2
  | '-' :: letter :: _ => options.readShort pending letter
  | _ => options.addInput pending argument

/-- The first two conflicting options in the order in which they were given. -/
def conflict? (options : Options) : Option UsageError :=
  match options.flags.filter fun flag => flag = .color || flag = .noColor with
  | first :: second :: _ => some (.conflict first.text second.text)
  | _ => none

/-- After `--` every argument is input. -/
def readArguments (options : Options) (pending : Pending) : List String → Except Stop Options
  | [] => options.settle pending
  | argument :: rest =>
      if argument = "--" then do
        let options ← options.settle pending
        return { options with input := options.input ++ rest }
      else
        match options.readArgument pending argument with
        | .ok (options, pending) => options.readArguments pending rest
        | .error stop => .error stop

def read (arguments : List String) : Except Stop Options :=
  match initial.readArguments .nothing arguments with
  | .error stop => .error stop
  | .ok options =>
      match options.conflict? with
      | some error => .error (.usage error)
      | none => .ok options

end Options

end CommandLine

end TurkishDates
