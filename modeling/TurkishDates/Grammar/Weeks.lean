import TurkishDates.Grammar.Rule
import TurkishDates.Grammar.Wording

/-!
Weeks, which begin on Monday, and spans of some last weeks or days up to the reference.
-/

namespace TurkishDates

namespace Grammar

open Shape Wording

/-- From the start of one weekday to the end of another, counted from Monday, some weeks away. -/
def weekdaySpan (weeks first last : Field) : Action :=
  .span (DateSpec.startOfDay { weekShift := weeks, weekday := first })
    (DateSpec.endOfDay { weekShift := weeks, weekday := last })

def thisWeek : Rule where
  name := "this week"
  needs := []
  pattern := "bu hafta" ++ opt pronoun
  action := .untilNow { weekday := 0 }

def lastWeek : Rule where
  name := "last week"
  needs := []
  pattern := before ++ " " ++ weekNoun
  action := weekdaySpan (-1) 0 6

def lastWeeks : Rule where
  name := "last <n> weeks"
  needs := [.digits]
  pattern := before ++ " " ++ keep positiveNumber ++ " " ++ weekNoun
  action := .span { weekShift := -group 1 } {}

def lastDays : Rule where
  name := "last <n> days"
  needs := [.digits]
  pattern := before ++ " " ++ keep positiveNumber ++ " gün" ++ opt (anyOf [pronoun, " " ++ during])
  action := .span { dayShift := -group 1 } {}

def weekdays : Rule where
  name := "weekdays"
  needs := []
  pattern := inflected (opt "bu " ++ "hafta" ++ opt " " ++ "içi")
  action := weekdaySpan .unset 0 4

def weekend : Rule where
  name := "weekend"
  needs := []
  pattern := inflected (opt (before ++ " ") ++ "hafta" ++ opt " " ++ "sonu")
  action := weekdaySpan (-1) 5 6

end Grammar

end TurkishDates
