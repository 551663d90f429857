import TurkishDates.Report.Results

/-!
The results of a sentence as a listing for the terminal, in colour or without.
-/

namespace TurkishDates

namespace Report

inductive Style where
  | bold
  | dim
  | green
  | yellow
  | blue
  | cyan
  | gray

def Style.code : Style → String
  | .bold => "\x1b[1m"
  | .dim => "\x1b[2m"
  | .green => "\x1b[32m"
  | .yellow => "\x1b[33m"
  | .blue => "\x1b[34m"
  | .cyan => "\x1b[36m"
  | .gray => "\x1b[90m"

def paint (color : Bool) (style : Style) (s : String) : String :=
  if color then style.code ++ s ++ "\x1b[0m" else s

def join (parts : List String) : String := String.intercalate " " parts

/-- Fewest digits, always positional; whole numbers have no point. -/
def listedNumber : NumberStyle := ⟨.up, fun _ => true, false⟩

def numberText (x : Float) : String :=
  match Binary.ofFloat x with
  | .undefined => "NaN"
  | .infinite negative => if negative then "-inf" else "inf"
  | parts => String.ofList ((listedNumber.write? parts).getD [])

def timeText (moment : Moment) : String := String.ofList (moment.text ' ')

def meaningText : Endpoint → Endpoint → String
  | .time first, .time last =>
      if first = last then timeText first else timeText first ++ " → " ++ timeText last
  | .recurrence unit anchor, _ | _, .recurrence unit anchor =>
      "every " ++ unit.label ++ " from " ++ String.ofList anchor

def placeText (start stop : Nat) : String :=
  String.ofList ("chars ".toList ++ digitsOf start ++ ['.', '.'] ++ digitsOf stop)

def indexText (index : Nat) : String := String.ofList ('[' :: digitsOf index ++ [']'])

def found (color : Bool) (t : Text) : String :=
  paint color .bold (paint color .green (String.ofList t))

def heading (color : Bool) (input title : String) : List String :=
  ["", paint color .bold (paint color .cyan ("⚙  Tagging: \"" ++ input ++ "\"")), "",
    paint color .gray ("━━━ " ++ title ++ " ━━━")]

def spanLines (color : Bool) (span : TaggedSpan) (index : Nat) : List String :=
  ["  " ++ join [paint color .gray (indexText index), found color span.text, paint color .dim "│",
      paint color .yellow (placeText span.start span.stop)],
    "      " ++ join [paint color .dim "type:", paint color .blue span.value.kind.label ++ " ",
      paint color .dim "│", paint color .cyan (meaningText span.value.first span.value.last)]]

def numeralLine (color : Bool) (numeral : Numeral) (index : Nat) : String :=
  "  " ++ join [paint color .gray (indexText index), found color numeral.text, paint color .dim "→",
    paint color .cyan (numberText (numeralValue numeral.text)),
    paint color .yellow (placeText numeral.start numeral.stop)]

def spanListing (color : Bool) (input : String) (spans : List TaggedSpan) : List String :=
  heading color input "Expressions" ++
    (if spans.isEmpty then
      [paint color .dim "  No date expressions found", "",
        paint color .dim "  Tip: set TARIH_LOG=tarih=trace to see which rules were tried"]
    else spans.zipIdx.flatMap fun (span, index) => spanLines color span index) ++ [""]

def numeralListing (color : Bool) (input : String) (numerals : List Numeral) : List String :=
  heading color input "Numerals" ++
    (if numerals.isEmpty then [paint color .dim "  No numerals found"]
    else numerals.zipIdx.map fun (numeral, index) => numeralLine color numeral index) ++ [""]

end Report

end TurkishDates
