import TurkishDates.Grammar.Rule
import TurkishDates.Grammar.Wording

/-!
Dates written with a year, and ranges between two written dates. A range begins with the first second of
its first day and ends with the last second of its last day.
-/

namespace TurkishDates

namespace Grammar

open Shape Wording

def dayMonthYear : Rule where
  name := "<day> <month> <year>"
  needs := [.digits, .monthName]
  pattern := keep dayNumber ++ " " ++ keep monthName ++ " " ++ keep fullYear ++ opt caseEnding
  action := .wholeDay { year := group 3, month := monthOf 2, day := group 1 }

def monthYear : Rule where
  name := "<month> <year>"
  needs := [.digits, .monthName]
  pattern := keep monthName ++ " " ++ keep fullYear ++ opt caseEnding
  action := .wholeMonth { year := group 2, month := monthOf 1 }

def numericDay : Pattern :=
  keep twoDigitDay ++ dateSeparator ++ keep twoDigitMonth ++ dateSeparator ++ keep fullYear

def numericDate : Rule where
  name := "dd.mm.yyyy"
  needs := [.digits]
  pattern := numericDay ++ opt caseEnding
  action := .wholeDay { year := group 3, month := group 2, day := group 1 }

def joint : Shape := anyOf [dateSeparator, conjunction]

def dayJoint : Shape := anyOf [dateSeparator, conjunction, " "]

def inBetween : Shape := opt " tarihleri" ++ inflected " arası"

def dayRange (first last : DateSpec) : Action := .span first.startOfDay last.endOfDay

def dayMonthToDayMonth : Rule where
  name := "<day> <month> - <day> <month>"
  needs := [.digits, .monthName]
  pattern := keep dayNumber ++ " " ++ keep monthName ++ joint ++ keep dayNumber ++ " " ++
    keep monthName ++ inBetween
  action := dayRange { month := monthOf 2, day := group 1 } { month := monthOf 4, day := group 3 }

def numericDateRange : Rule where
  name := "dd.mm.yyyy - dd.mm.yyyy"
  needs := [.digits]
  pattern := numericDay ++ opt joint ++ numericDay ++
    opt (" " ++ opt "tarihleri " ++ inflected "arası")
  action := dayRange { year := group 3, month := group 2, day := group 1 }
    { year := group 6, month := group 5, day := group 4 }

def dayMonthYearToDayMonthYear : Rule where
  name := "<day> <month> <year> - <day> <month> <year>"
  needs := [.digits, .monthName]
  pattern := keep dayNumber ++ " " ++ keep monthName ++ " " ++ keep fullYear ++ joint ++
    keep dayNumber ++ " " ++ keep monthName ++ " " ++ keep fullYear ++ inBetween
  action := dayRange { year := group 3, month := monthOf 2, day := group 1 }
    { year := group 6, month := monthOf 5, day := group 4 }

def dayToDayMonthYear : Rule where
  name := "<day> - <day> <month> <year>"
  needs := [.digits, .monthName]
  pattern := keep dayNumber ++ dayJoint ++ keep dayNumber ++ " " ++ keep monthName ++ " " ++
    keep fullYear ++ inBetween
  action := dayRange { year := group 4, month := monthOf 3, day := group 1 }
    { year := group 4, month := monthOf 3, day := group 2 }

def dayToDayMonth : Rule where
  name := "<day> - <day> <month>"
  needs := [.digits, .monthName]
  pattern := keep dayNumber ++ dayJoint ++ keep dayNumber ++ " " ++ keep monthName ++ inBetween
  action := dayRange { month := monthOf 3, day := group 1 } { month := monthOf 3, day := group 2 }

def dayMonthYearToDayMonth : Rule where
  name := "<day> <month> <year> - <day> <month>"
  needs := [.digits, .monthName]
  pattern := keep dayNumber ++ " " ++ keep monthName ++ " " ++ keep fullYear ++ joint ++
    keep dayNumber ++ " " ++ keep monthName ++ inBetween
  action := dayRange { year := group 3, month := monthOf 2, day := group 1 }
    { year := group 3, month := monthOf 5, day := group 4 }

def dayMonthToDayMonthYear : Rule where
  name := "<day> <month> - <day> <month> <year>"
  needs := [.digits, .monthName]
  pattern := keep dayNumber ++ " " ++ keep monthName ++ joint ++ keep dayNumber ++ " " ++
    keep monthName ++ " " ++ keep fullYear ++ inBetween
  action := dayRange { year := group 5, month := monthOf 2, day := group 1 }
    { year := group 5, month := monthOf 4, day := group 3 }

end Grammar

end TurkishDates
