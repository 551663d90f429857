import TurkishDates.Calendar.Written
import TurkishDates.Number.Written
import TurkishDates.Report.Json
import TurkishDates.Tagging.Spans

/-!
The results of a sentence as JSON.
-/

namespace TurkishDates

namespace Report

/-- Positional from five places before the point to sixteen behind the first digit, with `.0`. -/
def jsonNumber : NumberStyle := ⟨.even, fun point => -5 < point && point ≤ 16, true⟩

def numberOfJson (x : Float) : Json :=
  match jsonNumber.write? (Binary.ofFloat x) with
  | some digits => .number digits
  | none => .null

def natural (n : Nat) : Json := .number (digitsOf n)

def endpointJson : Endpoint → Json
  | .time moment => .string (moment.text 'T')
  | .recurrence unit anchor => .object [(unit.label, .string anchor)]

def spanJson (span : TaggedSpan) : Json :=
  .object
    [("start_index", natural span.start), ("end_index", natural span.stop),
      ("text", .string span.text), ("type", .string span.value.kind.label.toList),
      ("start_date", endpointJson span.value.first), ("end_date", endpointJson span.value.last)]

def numeralJson (numeral : Numeral) : Json :=
  .object
    [("start_index", natural numeral.start), ("end_index", natural numeral.stop),
      ("text", .string numeral.text), ("value", numberOfJson (numeralValue numeral.text))]

end Report

end TurkishDates
