import TurkishDates.Grammar.Rule
import TurkishDates.Grammar.Wording

/-!
Expressions that denote an instant by the clock or by counting days and weeks.
-/

namespace TurkishDates

namespace Grammar

open Shape Wording

def now : Rule where
  name := "now"
  needs := []
  pattern := inflected (anyOf ["şuan", "şimdi", "hemen", "acil", "birazdan", "tez" ++ opt " zaman",
    "derhal"])
  action := .instant {}

def minutesBefore : Rule where
  name := "<n> minutes before"
  needs := [.digits]
  pattern := keep number ++ " " ++ minuteNoun ++ " " ++ before
  action := .instant { minuteShift := -group 1 }

def minutesAfter : Rule where
  name := "<n> minutes after"
  needs := [.digits]
  pattern := keep number ++ " " ++ minuteNoun ++ anyOf ["y" ++ anyChar "ae", " " ++ later]
  action := .instant { minuteShift := group 1 }

def clock : Rule where
  name := "hh:mm"
  needs := [.digits]
  pattern := keep (anyChar "012" ++ digit) ++ anyChar ": ,." ++ keep (anyChar "0123456" ++ digit)
  action := .instant { hour := group 1, minute := group 2 }

def eveningHour : Rule where
  name := "evening <hour>"
  needs := [.digits]
  pattern := evening ++ " " ++ keep smallNumber
  action := .instant { hour := group 1, hourShift := 12, minute := 0, second := 0 }

def inTheEvening : Rule where
  name := "evening"
  needs := []
  pattern := evening
  action := .instant { hour := 17, minute := 0, second := 0 }

def morningHour : Rule where
  name := "morning <hour>"
  needs := [.digits]
  pattern := morning ++ " " ++ keep smallNumber
  action := .instant { hour := group 1, minute := 0, second := 0 }

def inTheMorning : Rule where
  name := "morning"
  needs := []
  pattern := morning
  action := .instant { hour := 8, minute := 0, second := 0 }

def dayAfterTomorrow : Rule where
  name := "day after tomorrow"
  needs := []
  pattern := "öbür" ++ opt "sü" ++ " gün"
  action := .instant { dayShift := 2 }

def nextWeekday : Rule where
  name := "next <weekday>"
  needs := [.weekdayName]
  pattern := later ++ " " ++ keep weekdayName
  action := .instant { weekday := weekdayOf 1, weekShift := 1 }

def previousWeekday : Rule where
  name := "previous <weekday>"
  needs := [.weekdayName]
  pattern := before ++ " " ++ keep weekdayName
  action := .instant { weekday := weekdayOf 1, weekShift := -1 }

def daysLater : Rule where
  name := "<n> days later"
  needs := [.digits]
  pattern := keep number ++ " gün " ++
    anyOf ["içinde", "boyunca", "sonra" ++ opt ("sı" ++ opt "nda")]
  action := .instant { dayShift := group 1 }

def daysBefore : Rule where
  name := "<n> days before"
  needs := [.digits]
  pattern := keep number ++ " gün " ++ before
  action := .instant { dayShift := -group 1 }

def weeksLaterAtWeekday : Rule where
  name := "<n> weeks later <weekday>"
  needs := [.digits, .weekdayName]
  pattern := keep number ++ " " ++ weekNoun ++ " " ++ later ++ " " ++ keep weekdayName
  action := .instant { weekShift := group 1, weekday := weekdayOf 2 }

def weeksBeforeAtWeekday : Rule where
  name := "<n> weeks before <weekday>"
  needs := [.digits, .weekdayName]
  pattern := keep number ++ " " ++ weekNoun ++ " " ++ before ++ " " ++ keep weekdayName
  action := .instant { weekShift := -group 1, weekday := weekdayOf 2 }

end Grammar

end TurkishDates
