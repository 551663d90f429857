import TurkishDates.Grammar.Rule
import TurkishDates.Grammar.Wording

/-!
Years, some first or last months of a year, and seasons. A season is the latest one that has begun, with
or without a word such as `geçen`.
-/

namespace TurkishDates

namespace Grammar

open Shape Wording

def wholeYear : Rule where
  name := "<year>"
  needs := [.digits]
  pattern := keep fullYear ++ opt (anyOf [caseEnding, " " ++ inflected yearNoun])
  action := .span (DateSpec.startOfDay { year := group 1, month := 1, day := 1 })
    (DateSpec.endOfDay { year := group 1, month := 12, day := .lastDay })

def thisYear : Rule where
  name := "this year"
  needs := []
  pattern := "bu " ++ yearNoun ++ opt pronoun
  action := .untilNow { month := 1, day := 1 }

def one : Shape := star "0" ++ "1"

def lastYear : Rule where
  name := "last year"
  needs := []
  pattern := anyOf
    [before ++ opt (" " ++ one) ++ " " ++ yearNoun ++ opt (anyOf [caseEnding, pronoun]),
      one ++ " " ++ yearNoun ++ " " ++ before]
  action := .untilNow { yearShift := -1 }

def lastYearMonth : Rule where
  name := "last year <month>"
  needs := [.monthName]
  pattern := before ++ " " ++ yearNoun ++ " " ++ keep monthName ++ " ayında"
  action := .wholeMonth { yearShift := -1, month := monthOf 1 }

def oneYearLater : Rule where
  name := "one year later"
  needs := []
  pattern := anyOf
    [anyOf ["bir", one] ++ " " ++ inflected yearNoun ++ opt " kadar" ++
        opt (" sonra" ++ opt (anyChar "sk" ++ anyChar "ıi")),
      later ++ " " ++ inflected yearNoun,
      "seneye"]
  action := .span {} { yearShift := 1 }

def yearsBefore : Rule where
  name := "<n> years before"
  needs := [.digits]
  pattern := keep positiveNumber ++ " " ++ inflected yearNoun ++ " " ++ before
  action := .untilNow { yearShift := -group 1 }

def firstMonthsOfYear : Rule where
  name := "first <n> months of the year"
  needs := [.digits]
  pattern := opt "bu " ++ inflected yearNoun ++ " ilk " ++ keep (opt "1" ++ digit) ++ " " ++
    inflected monthNoun
  action := .span (DateSpec.startOfDay { month := 1, day := 1 })
    (DateSpec.endOfDay { month := group 1, day := .lastDay })

/-- December is the first of the months counted back. -/
def lastMonthsOfYear : Rule where
  name := "last <n> months of the year"
  needs := [.digits]
  pattern := opt "bu " ++ inflected yearNoun ++ " son " ++ keep digit ++ " " ++ inflected monthNoun
  action := .span
    (DateSpec.startOfDay { month := 12, monthShift := (-group 1).plus 1, day := 1 })
    (DateSpec.endOfDay { month := 12, day := .lastDay })

def lastYears : Rule where
  name := "last <n> years"
  needs := [.digits]
  pattern := before ++ " " ++ keep positiveNumber ++ " " ++ inflected yearNoun ++
    opt (" " ++ during)
  action := .untilNow { yearShift := -group 1 }

/-- The months from `first` to `last`. The first month decides on the year of both ends, and a season that
ends before it begins ends in the next year. -/
def season (first last : Int) : Action :=
  .span (DateSpec.startOfDay { month := .literal first, day := 1, rounding := .ownMonth })
    (DateSpec.endOfDay
      { month := .literal last, day := .lastDay, rounding := .pivot first,
        yearShift := if last < first then 1 else .unset })

def ofSomeYear (beforeWords : Shape) : Shape := opt (anyOf [beforeWords, "bu"] ++ " ")

def summer : Rule where
  name := "summer"
  needs := []
  pattern := ofSomeYear before ++ inflected "yaz"
  action := season 6 8

def winter : Rule where
  name := "winter"
  needs := []
  pattern := ofSomeYear before ++ inflected ("kı" ++ anyChar "şs")
  action := season 12 2

/-- The word `son` before `bahar` makes it autumn, so it is no word for the past here. -/
def spring : Rule where
  name := "spring"
  needs := []
  pattern := ofSomeYear beforeStrict ++ opt ("ilk" ++ opt " ") ++ inflected "bahar"
  action := season 3 5

def autumn : Rule where
  name := "autumn"
  needs := []
  pattern := ofSomeYear before ++ "son" ++ opt " " ++ inflected "bahar"
  action := season 9 11

end Grammar

end TurkishDates
