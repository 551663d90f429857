import TurkishDates.Text.Basic

/-!
The Turkish names of months and weekdays, January and Monday first.
-/

namespace TurkishDates

/-- A month's name, its abbreviation of three letters and its genitive. -/
structure MonthName where
  full : Text
  short : Text
  genitive : Text

def monthTable : List MonthName :=
  [⟨"ocak".toList, "oca".toList, "ocağın".toList⟩,
    ⟨"şubat".toList, "şub".toList, "şubatın".toList⟩,
    ⟨"mart".toList, "mar".toList, "martın".toList⟩,
    ⟨"nisan".toList, "nis".toList, "nisanın".toList⟩,
    ⟨"mayıs".toList, "may".toList, "mayısın".toList⟩,
    ⟨"haziran".toList, "haz".toList, "haziranın".toList⟩,
    ⟨"temmuz".toList, "tem".toList, "temmuzun".toList⟩,
    ⟨"ağustos".toList, "ağu".toList, "ağustosun".toList⟩,
    ⟨"eylül".toList, "eyl".toList, "eylülün".toList⟩,
    ⟨"ekim".toList, "eki".toList, "ekimin".toList⟩,
    ⟨"kasım".toList, "kas".toList, "kasımın".toList⟩,
    ⟨"aralık".toList, "ara".toList, "aralığın".toList⟩]

def monthNames : List Text := monthTable.map (·.full)

def weekdayNames : List Text :=
  ["pazartesi".toList, "salı".toList, "çarşamba".toList, "perşembe".toList, "cuma".toList,
    "cumartesi".toList, "pazar".toList]

def monthNumber? (name : Text) : Option Int := (monthNames.idxOf? name).map fun i => i + 1

def weekdayOffset? (name : Text) : Option Int := (weekdayNames.idxOf? name).map fun i => i

/-- The name of the month that a text spells as a whole, in any of its three forms. -/
def canonicalMonth? (t : Text) : Option Text :=
  (monthTable.find? fun m => t = m.full || t = m.short || t = m.genitive).map (·.full)

end TurkishDates
