import TurkishDates.Proofs.Calendar.Months
import TurkishDates.Proofs.Numeral.Substitution

/-!
The texts of dates: day, month and year in digits with separators between them, or with the name of the month.
The digits of each part spell its number, and their count is known.
-/

namespace TurkishDates

open Numeral

theorem length_paddedDigits {width n : Nat} (short : n < 10 ^ width) (positive : 0 < width) :
    (paddedDigits width n).length = width := by
  have fits : (digitsOf n).length ≤ width := (Nat.length_toDigits_le_iff (by decide) positive).mpr short
  rw [paddedDigits, List.length_append, List.length_replicate]
  omega

def dateSeparators : List Char := "_, -.\\/".toList

def conjunctions : List Text := [" ve ".toList, " ile ".toList]

def rangeJoints : List Text := [] :: conjunctions ++ dateSeparators.map fun s => [s]

def rangeEndings : List Text := ["".toList, " arasında".toList, " tarihleri arasında".toList]

namespace Date

structure FitsDigits (date : Date) : Prop where
  day : 0 ≤ date.day ∧ date.day < 100
  month : 0 ≤ date.month ∧ date.month < 100
  year : 0 ≤ date.year ∧ date.year < 10000

structure IsWritable (date : Date) : Prop where
  real : date.IsReal
  year : 1900 ≤ date.year ∧ date.year ≤ 2099

def numericText (s s' : Char) (date : Date) : Text :=
  paddedDigits 2 date.day.toNat ++
    s :: (paddedDigits 2 date.month.toNat ++ s' :: paddedDigits 4 date.year.toNat)

def monthName (date : Date) : Text := monthNames.getD (date.month - 1).toNat []

/-- The day in `width` digits or more, the name of the month and the year. -/
def namedText (width : Nat) (date : Date) : Text :=
  paddedDigits width date.day.toNat ++ ' ' :: (date.monthName ++ ' ' :: paddedDigits 4 date.year.toNat)

variable {date : Date}

theorem IsWritable.fitsDigits (writable : date.IsWritable) : date.FitsDigits := by
  obtain ⟨month, month'⟩ := writable.real.month_bounds
  obtain ⟨day, day'⟩ := writable.real.day_bounds
  obtain ⟨year, year'⟩ := writable.year
  exact ⟨by omega, by omega, by omega⟩

theorem IsWritable.monthName_read (writable : date.IsWritable) :
    date.monthName ∈ monthNames ∧ monthNumber? date.monthName = some date.month := by
  have listed : ∀ i < 12, monthNames.getD i [] ∈ monthNames ∧
      monthNumber? (monthNames.getD i []) = some ((i : Nat) + 1) := by
    decide
  obtain ⟨first, last⟩ := writable.real.month_bounds
  obtain ⟨member, number⟩ := listed (date.month - 1).toNat (by omega)
  refine ⟨member, number.trans (congrArg some ?_)⟩
  omega

end Date

end TurkishDates
