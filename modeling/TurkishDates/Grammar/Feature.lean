import TurkishDates.Calendar.Names
import TurkishDates.Text.Digits

/-!
Coarse features of a text. A rule names the features without which its pattern cannot match, and is
passed over where one of them is missing.
-/

namespace TurkishDates

inductive Feature where
  | digits
  | monthName
  | weekdayName
deriving DecidableEq, Repr

namespace Feature

/-- Names count with endings attached, so they are looked for anywhere in the text. -/
def isPresent (t : Text) : Feature → Bool
  | .digits => t.any isDigit
  | .monthName => monthNames.any fun name => Text.occurs name t
  | .weekdayName => weekdayNames.any fun name => Text.occurs name t

def scan (t : Text) : List Feature := [digits, monthName, weekdayName].filter (isPresent t)

end Feature

end TurkishDates
