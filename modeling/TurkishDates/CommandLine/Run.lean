import TurkishDates.CommandLine.Options
import TurkishDates.English.Meaning
import TurkishDates.Grammar.Table
import TurkishDates.Report.Listing

/-!
What the program prints for its arguments and its input.
-/

namespace TurkishDates

namespace CommandLine

structure Outcome where
  code : Nat
  stdout : String
  stderr : String
deriving DecidableEq, Repr

/-- What the options do not say: the local time and whether the output is a terminal. -/
structure Surroundings where
  now : Moment
  isTerminal : Bool

def versionText : String := "tarih 0.1.0\n"

def helpText : String :=
  "Tag Turkish date and time expressions\n\n" ++
  "Usage: tarih [OPTIONS] [INPUT]...\n\n" ++
  "Arguments:\n" ++
  "  [INPUT]...  Sentence to tag\n\n" ++
  "Options:\n" ++
  "      --reference <REFERENCE>  Reference time in YYYY-MM-DDTHH:MM:SS. Default: the local clock\n" ++
  "      --json                   Print spans as JSON\n" ++
  "      --numbers                List numerals instead of date expressions\n" ++
  "      --no-fallback            Do not hand unmatched expressions to the fallback parser\n" ++
  "      --longest-match          Keep the longest window when windows overlap\n" ++
  "      --color                  Force ANSI color output\n" ++
  "      --no-color               Disable ANSI color output\n" ++
  "  -h, --help                   Print help\n" ++
  "  -V, --version                Print version\n"

def complaint (message : String) : Outcome := ⟨2, "", "error: " ++ message ++ "\n"⟩

def Stop.outcome : Stop → Outcome
  | .help => ⟨0, helpText, ""⟩
  | .version => ⟨0, versionText, ""⟩
  | .usage error => complaint error.message

/-- The lines of a text without their line ends, of which a carriage return is part. -/
def linesOf : Text → List Text
  | [] => []
  | t@(_ :: _) =>
      let lines := cut t
      match lines.getLast? with
      | some [] => lines.dropLast.map strip
      | some last => lines.dropLast.map strip ++ [last]
      | none => []
where
  cut : Text → List Text
    | [] => [[]]
    | c :: t =>
        if c = '\n' then [] :: cut t
        else match cut t with
          | [] => [[c]]
          | first :: rest => (c :: first) :: rest
  strip (line : Text) : Text :=
    match line.getLast? with
    | some '\r' => line.dropLast
    | _ => line

namespace Options

def inColor (options : Options) (surroundings : Surroundings) : Bool :=
  options.has .color || !options.has .noColor && surroundings.isTerminal

def policy (options : Options) : OverlapPolicy :=
  if options.has .longestMatch then .longestMatch else .lastWriteWins

def resolver (options : Options) (surroundings : Surroundings) : Resolver :=
  { rules := grammar
    reference := options.reference.getD surroundings.now
    fallback := if options.has .noFallback then none else some (English.parse .dayFirst) }

end Options

def printed (lines : List String) : String := String.join (lines.map (· ++ "\n"))

def jsonOf (items : List Json) : String := String.ofList (Json.pretty 0 (.array items))

def report (surroundings : Surroundings) (options : Options) (line : Text) :
    Except FramingError String :=
  let color := options.inColor surroundings
  let input := String.ofList line
  if options.has .numbers then
    let numerals := Numeral.findAll line
    if options.has .json then .ok (printed [jsonOf (numerals.map Report.numeralJson)])
    else .ok (printed (Report.numeralListing color input numerals))
  else
    (findAll (options.resolver surroundings) options.policy line).map fun spans =>
      if options.has .json then printed [jsonOf (spans.map Report.spanJson)]
      else printed (Report.spanListing color input spans)

def framingMessage : FramingError → String
  | .charactersLost expected actual =>
      String.ofList ("characters lost during tokenization: reconstructed ".toList ++ digitsOf actual ++
        " chars, input has ".toList ++ digitsOf expected)
  | .tagCount tokens tags =>
      String.ofList ("number of tags (".toList ++ digitsOf tags ++
        ") does not match number of tokens (".toList ++ digitsOf tokens ++ ")".toList)

/-- Reports line after line, up to the first that cannot be reported. -/
def reportAll (surroundings : Surroundings) (options : Options) (done : String) :
    List Text → Outcome
  | [] => ⟨0, done, ""⟩
  | line :: rest =>
      match report surroundings options line with
      | .ok text => reportAll surroundings options (done ++ text) rest
      | .error error => ⟨1, done, "error: " ++ framingMessage error ++ "\n"⟩

/-- Without arguments to tag, each line of the standard input is tagged. -/
def inputLines (options : Options) (standardInput : String) : List Text :=
  if options.input.isEmpty then linesOf standardInput.toList
  else [Text.unwords (options.input.map String.toList)]

def respond (surroundings : Surroundings) (options : Options) (standardInput : String) : Outcome :=
  let lines := (inputLines options standardInput).filter fun line => !Text.isAllBlank line
  if lines.isEmpty then complaint "no input provided"
  else reportAll surroundings options "" lines

def readsInput (arguments : List String) : Bool :=
  match Options.read arguments with
  | .ok options => options.input.isEmpty
  | .error _ => false

def run (surroundings : Surroundings) (arguments : List String) (standardInput : String) : Outcome :=
  match Options.read arguments with
  | .ok options => respond surroundings options standardInput
  | .error stop => stop.outcome

end CommandLine

end TurkishDates
