import TurkishDates.Grammar.Rule
import TurkishDates.Grammar.Wording

/-!
Expressions that denote a recurrence.
-/

namespace TurkishDates

namespace Grammar

open Shape Wording

def everyWeekday : Rule where
  name := "every <weekday>"
  needs := [.weekdayName]
  pattern := "her " ++ opt (weekNoun ++ " ") ++ keep weekdayName
  action := .recurrence .week (.group 1)

def everyWeek : Rule where
  name := "every week"
  needs := []
  pattern := anyOf ["her " ++ weekNoun, "haftalık"]
  action := .recurrence .week (.fixed "pazartesi".toList)

def everyMonth : Rule where
  name := "every month"
  needs := []
  pattern := anyOf ["her " ++ monthNoun, "aylık"]
  action := .recurrence .month (.fixed "1".toList)

def everyDayOfMonth : Rule where
  name := "every <day> of month"
  needs := [.digits]
  pattern := "her " ++ monthNoun ++ " " ++ keep dayNumber ++ opt caseEnding
  action := .recurrence .month (.group 1)

def everyMonthOfYear : Rule where
  name := "every <month> of year"
  needs := [.monthName]
  pattern := "her " ++ yearNoun ++ " " ++ keep monthName ++ " " ++ inflected monthNoun
  action := .recurrence .year (.group 1)

end Grammar

end TurkishDates
