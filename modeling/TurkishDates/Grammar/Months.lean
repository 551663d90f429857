import TurkishDates.Grammar.Rule
import TurkishDates.Grammar.Wording

/-!
Months by name or by distance, their first and last days, and spans that run from a month up to the
reference.
-/

namespace TurkishDates

namespace Grammar

open Shape Wording

def dayMonth : Rule where
  name := "<day> <month>"
  needs := [.digits, .monthName]
  pattern := keep dayNumber ++ dateSeparator ++ keep monthName ++ opt caseEnding
  action := .instant { month := monthOf 2, day := group 1 }

def monthEnd : Rule where
  name := "end of <month>"
  needs := [.monthName]
  pattern := keep monthName ++ opt (anyOf [caseEnding, " ayı"]) ++ " sonu" ++ opt "ndaki"
  action := .instant { month := monthOf 1, day := .lastDay }

def beginning : Shape := "başı" ++ opt ("nda" ++ opt "ki")

def monthStart : Rule where
  name := "start of <month>"
  needs := [.monthName]
  pattern := keep monthName ++ opt caseEnding ++ " " ++ anyOf ["ilk günü" ++ opt "ndeki", beginning]
  action := .instant { month := monthOf 1, day := 1 }

def thisMonthStart : Rule where
  name := "start of this month"
  needs := []
  pattern := opt "bu " ++ monthNoun ++ " " ++
    anyOf [inflected (ordinalFirst ++ " günü"), beginning, "biri"]
  action := .instant { day := 1 }

def previousMonthStart : Rule where
  name := "start of previous month"
  needs := []
  pattern := before ++ " " ++ monthNoun ++ " " ++
    anyOf [anyOf ["ilk", "birinci"] ++ " günü" ++ opt "ndeki", beginning, "biri"]
  action := .instant { monthShift := -1, day := 1 }

def thisMonthEnd : Rule where
  name := "end of this month"
  needs := []
  pattern := opt "bu " ++ monthNoun ++ " " ++ anyOf ["sonu" ++ opt "ndaki", "son günü"]
  action := .instant { day := .lastDay }

def dayOfThisMonth : Rule where
  name := "<day> of this month"
  needs := [.digits]
  pattern := opt "bu " ++ monthNoun ++ " " ++ keep dayNumber ++ opt (anyChar " '.") ++ genitive ++
    caseEnding
  action := .instant { day := group 1 }

def dayOfPreviousMonth : Rule where
  name := "<day> of previous month"
  needs := [.digits]
  pattern := before ++ " " ++ monthNoun ++ " " ++ keep dayNumber ++ opt (anyChar " '.") ++ genitive ++
    caseEnding
  action := .instant { monthShift := -1, day := group 1 }

def firstWeekOfMonth : Rule where
  name := "first week of <month>"
  needs := [.monthName]
  pattern := keep monthName ++ " " ++ monthNoun ++ caseEnding ++ " " ++ anyOf ["ilk", "birinci"] ++
    " " ++ weekNoun
  action := .span (DateSpec.startOfDay { month := monthOf 1, day := 1 })
    (DateSpec.endOfDay { month := monthOf 1, day := 7 })

def thisMonth : Rule where
  name := "this month"
  needs := []
  pattern := "bu " ++ monthNoun ++ opt (" " ++ during)
  action := .untilNow { day := 1 }

def nextMonth : Rule where
  name := "next month"
  needs := []
  pattern := later ++ " " ++ inflected monthNoun
  action := .wholeMonth { monthShift := 1 }

def previousMonth : Rule where
  name := "previous month"
  needs := []
  pattern := anyOf [before ++ " " ++ inflected monthNoun, "geçenlerde"]
  action := .wholeMonth { monthShift := -1 }

def monthsBefore : Rule where
  name := "<n> months before"
  needs := [.digits]
  pattern := keep positiveNumber ++ " " ++ monthNoun ++ " " ++ before
  action := .wholeMonth { monthShift := -group 1 }

def lastMonths : Rule where
  name := "last <n> months"
  needs := [.digits]
  pattern := before ++ " " ++ keep smallNumber ++ " " ++ inflected monthNoun ++ opt (" " ++ during)
  action := .untilNow { monthShift := -group 1, day := 1 }

def inMonth : Rule where
  name := "<month> month"
  needs := [.monthName]
  pattern := keep monthName ++ " " ++ inflected monthNoun
  action := .wholeMonth { month := monthOf 1 }

def month : Rule where
  name := "<month>"
  needs := [.monthName]
  pattern := keep monthName ++ opt caseEnding
  action := .wholeMonth { month := monthOf 1 }

/-- What follows the date that a span up to the reference begins with. -/
def sinceThen : Shape :=
  opt caseEnding ++ " " ++ opt (anyOf [inflected monthNoun, "tarihinden"] ++ " ") ++
    anyOf ["bugüne", "bu yana", "yana", "beri", "sonra"]

def sinceMonth : Rule where
  name := "since <month>"
  needs := [.monthName]
  pattern := keep monthName ++ sinceThen
  action := .untilNow { month := monthOf 1, day := 1, rounding := .ownMonth }

def sinceDayMonth : Rule where
  name := "since <day> <month>"
  needs := [.digits, .monthName]
  pattern := keep dayNumber ++ " " ++ keep monthName ++ sinceThen
  action := .untilNow { month := monthOf 2, day := group 1, rounding := .ownMonth }

def previousMonthUntilToday : Rule where
  name := "previous month until today"
  needs := []
  pattern := before ++ " " ++ inflected monthNoun ++ " bu" ++ anyOf ["güne", " yana"]
  action := .untilNow { monthShift := -1, day := 1 }

def betweenMonths : Rule where
  name := "between <month> and <month>"
  needs := [.monthName]
  pattern := keep monthName ++ conjunction ++ keep monthName ++
    opt (" " ++ monthNoun ++ opt plural ++ opt (anyOf [possessive, caseEnding])) ++ " " ++ during
  action := .span (DateSpec.startOfDay { month := monthOf 1, day := 1 })
    (DateSpec.endOfDay { month := monthOf 2, day := .lastDay })

end Grammar

end TurkishDates
