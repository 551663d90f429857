import TurkishDates.Calendar.Names
import TurkishDates.Pattern.Basic

/-!
The wording that the rules share: endings, words for before and after, nouns of time, names, and the
digits of dates. None of it is kept by a match.
-/

namespace TurkishDates

namespace Wording

open Shape

/-- Case endings with their buffer consonants: locative, ablative, dative and accusative. -/
def caseEnding : Shape :=
  opt (anyChar "'.\"") ++ opt (anyChar "yşsn") ++ anyOf
    [opt " " ++ anyChar "dt" ++ anyChar "ea" ++ opt (anyOf ["n", "k" ++ anyChar "iı"]),
      opt (anyChar "iıuü") ++ "nd" ++ anyChar "ae" ++ opt "n",
      opt " " ++ anyChar "ae",
      opt " " ++ anyChar "iıuü" ++ opt "n"]

def genitive : Shape := opt (anyChar "yşsn") ++ anyChar "ıiuü" ++ "n"

def pronoun : Shape := opt (anyChar "dt" ++ anyChar "ea") ++ "k" ++ anyChar "iü"

def plural : Shape := "l" ++ anyChar "ae" ++ "r"

def possessive : Shape := anyChar "ıiuü"

def conjunction : Shape :=
  anyOf [" ve ", " ile ", opt (anyChar "y'") ++ "l" ++ anyChar "ae" ++ " "]

def during : Shape :=
  anyOf ["boyunca", "süresince", "arası" ++ opt "nda", "içer" ++ opt "i" ++ "sinde", "içinde"]

/-- Words for the past that leave the words `son` and `diğer` to what follows. -/
def pastWords : List Shape :=
  ["geçen" ++ opt "ki", "önce" ++ opt (anyChar "sk" ++ "i"), "evvel" ++ opt (anyChar "sk" ++ "i"),
    "geçtiğimiz"]

def beforeStrict : Shape := anyOf pastWords

def before : Shape := anyOf (pastWords ++ [.word "diğer".toList, .word "son".toList])

def ordinalFirst : Shape := anyOf ["ilk", "birinci", "1" ++ opt ".", "1" ++ opt "inci"]

def later : Shape :=
  anyOf ["sonra" ++ opt (anyChar "ks" ++ anyChar "iı"), "önümüzdeki", "haftaya", "gelecek", "içinde"]

def minuteNoun : Shape := anyOf ["dak" ++ opt "i" ++ "ka", "dk"]

def yearNoun : Shape := anyOf ["yıl", "sene"]

def monthNoun : Shape := anyOf ["ay" ++ opt (anyOf ["ın", "ki", "a"]), "dönem"]

def weekNoun : Shape := "hafta" ++ opt (anyOf [caseEnding, genitive])

def evening : Shape := anyOf ["akşam" ++ opt " " ++ "üstü", "öğleden sonra", "akşam",
  "akşam" ++ opt " " ++ "üzeri"]

def morning : Shape := anyOf ["öğlenden önce", "sabah", "gece"]

def weekdayName : Shape := anyWord weekdayNames

def monthName : Shape := anyWord monthNames

def dateSeparator : Shape := anyChar "_, -.\\/"

def digit : Shape := anyChar "0123456789"

def number : Shape := plus digit

def positiveNumber : Shape := anyChar "123456789" ++ star digit

def dayNumber : Shape := opt (anyChar "0123") ++ digit

def twoDigitDay : Shape := anyChar "0123" ++ digit

def twoDigitMonth : Shape := anyChar "01" ++ digit

def smallNumber : Shape := opt (anyChar "01") ++ digit

def fullYear : Shape := anyOf ["19" ++ digit ++ digit, "20" ++ digit ++ digit]

def inflected (noun : Shape) : Shape := noun ++ opt caseEnding

end Wording

end TurkishDates
