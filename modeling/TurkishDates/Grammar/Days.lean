import TurkishDates.Grammar.Rule
import TurkishDates.Grammar.Wording

/-!
Whole days around today, and public holidays. A holiday whose month lies after the reference month is
last year's; only new year's day is always this year's.
-/

namespace TurkishDates

namespace Grammar

open Shape Wording

def today : Rule where
  name := "today"
  needs := []
  pattern := anyOf ["bu" ++ opt " " ++ "gün" ++ opt pronoun, "gün " ++ during]
  action := .wholeDay {}

def yesterday : Rule where
  name := "yesterday"
  needs := []
  pattern := anyOf ["dün" ++ opt pronoun, before ++ " gün"]
  action := .wholeDay { dayShift := -1 }

def tomorrow : Rule where
  name := "tomorrow"
  needs := []
  pattern := "yarın" ++ opt (anyOf ["ki", caseEnding])
  action := .wholeDay { dayShift := 1 }

def newYear : Rule where
  name := "new year"
  needs := []
  pattern := inflected ("yıl" ++ opt " " ++ "ba" ++ anyChar "sş" ++ anyChar "iı")
  action := .wholeDay { month := 1, day := 1 }

/-- The last time that this day of the year was in the reference month or an earlier one. -/
def holiday (month day : Field) : Action := .wholeDay { month, day, rounding := .ownMonth }

def valentinesDay : Rule where
  name := "valentine's day"
  needs := []
  pattern := inflected ("sevgililer g" ++ anyChar "uü" ++ "n" ++ anyChar "uü")
  action := holiday 2 14

def republicDay : Rule where
  name := "republic day"
  needs := []
  pattern := inflected ("cumhuriyet bayram" ++ anyChar "iı")
  action := holiday 10 29

def childrensDay : Rule where
  name := "children's day"
  needs := []
  pattern := inflected (anyChar "çc" ++ "ocuk " ++
    anyOf ["bayram" ++ anyChar "iı", anyChar "şs" ++ "enli" ++ anyChar "ğg" ++ "i"])
  action := holiday 4 23

def labourDay : Rule where
  name := "labour day"
  needs := []
  pattern := inflected ("i" ++ anyChar "şs" ++ anyChar "çc" ++ "i bayram" ++ anyChar "iı")
  action := holiday 5 1

end Grammar

end TurkishDates
