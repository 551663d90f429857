/-!
Dates of the Gregorian calendar, carried on in both directions, with a year 0 before the year 1.

Days are counted from 1 March of the year 0, so that the leap day ends a counting year. A date exists
when the day it is counted as reads back as the same date. The table of month lengths is kept apart
from this count.
-/

namespace TurkishDates

structure Date where
  year : Int
  month : Int
  day : Int
deriving DecidableEq, Repr

def isLeap (year : Int) : Bool :=
  (year.tmod 4 == 0 && year.tmod 100 != 0) || year.tmod 400 == 0

def commonMonthLengths : List Int := [31, 28, 31, 30, 31, 30, 31, 31, 30, 31, 30, 31]

def daysInMonth? (year month : Int) : Option Int :=
  if month < 1 then none
  else (commonMonthLengths[(month - 1).toNat]?).map fun days =>
    if month = 2 ∧ isLeap year then days + 1 else days

/-- The month `delta` months later. Whole years are carried first and the rest wraps at most once. -/
def shiftMonths (year month delta : Int) : Int × Int :=
  let year := year + delta.tdiv 12
  let month := month + delta.tmod 12
  if 12 < month then (year + 1, month - 12)
  else if month < 1 then (year - 1, month + 12)
  else (year, month)

def earliestYear : Int := -262143

def latestYear : Int := 262142

namespace Date

/-- The first day of a counting year, which begins in March. -/
def yearStart (year : Int) : Int := 365 * year + year / 4 - year / 100 + year / 400

/-- The first day of a month within the counting year, months counted from March as 0. -/
def monthStart (month : Int) : Int := (153 * month + 2) / 5

def dayNumber (date : Date) : Int :=
  let year := if date.month ≤ 2 then date.year - 1 else date.year
  yearStart year + monthStart ((date.month + 9) % 12) + (date.day - 1)

def countingYear (number : Int) : Int :=
  let near := 400 * number / 146097
  if yearStart (near + 1) ≤ number then near + 1
  else if yearStart near ≤ number then near
  else near - 1

def ofDayNumber (number : Int) : Date :=
  let year := countingYear number
  let dayOfYear := number - yearStart year
  let month := (5 * dayOfYear + 2) / 153
  let day := dayOfYear - monthStart month + 1
  if month < 10 then ⟨year, month + 3, day⟩ else ⟨year + 1, month - 9, day⟩

def ofParts? (year month day : Int) : Option Date :=
  let date : Date := ⟨year, month, day⟩
  if earliestYear ≤ year ∧ year ≤ latestYear ∧ ofDayNumber date.dayNumber = date then some date
  else none

/-- Days since Monday: 0 for a Monday, 6 for a Sunday. -/
def daysSinceMonday (date : Date) : Int := (date.dayNumber + 2) % 7

end Date

example : Date.ofParts? 2024 2 29 = some ⟨2024, 2, 29⟩ ∧ Date.ofParts? 2023 2 29 = none := by decide

example : (⟨2021, 6, 15⟩ : Date).daysSinceMonday = 1 := by decide

example : Date.ofDayNumber (Date.dayNumber ⟨-262143, 1, 1⟩) = ⟨-262143, 1, 1⟩ := by decide

example : shiftMonths 2021 6 (-17) = (2020, 1) ∧ shiftMonths 2021 6 25 = (2023, 7) := by decide

end TurkishDates
