import TurkishDates.Calendar.Date

/-!
Shifting months is arithmetic on the count of months: the month stays between 1 and 12, and a date moves by
as many months as asked for, whatever their sign.
-/

namespace TurkishDates

theorem tdiv_twelve_bounds (delta : Int) :
    12 * delta.tdiv 12 + delta.tmod 12 = delta ∧ -12 < delta.tmod 12 ∧ delta.tmod 12 < 12 ∧
      delta / 12 ≤ delta.tdiv 12 ∧ delta.tdiv 12 ≤ delta / 12 + 1 := by
  have whole := Int.mul_tdiv_add_tmod delta 12
  have low := Int.lt_tmod_of_pos delta (show 0 < (12 : Int) by decide)
  have high := Int.tmod_lt_of_pos delta (show 0 < (12 : Int) by decide)
  omega

/-- Whatever the month is, the count of months moves as far as asked for. -/
theorem shiftMonths_count (year month delta : Int) :
    12 * (shiftMonths year month delta).1 + (shiftMonths year month delta).2 =
      12 * year + month + delta := by
  obtain ⟨whole, -⟩ := tdiv_twelve_bounds delta
  unfold shiftMonths
  simp only
  split
  · simp only
    omega
  · split
    · simp only
      omega
    · simp only
      omega

theorem shiftMonths_spec (year : Int) {month : Int} (first : 1 ≤ month) (last : month ≤ 12) (delta : Int) :
    1 ≤ (shiftMonths year month delta).2 ∧ (shiftMonths year month delta).2 ≤ 12 ∧
      12 * (shiftMonths year month delta).1 + (shiftMonths year month delta).2 =
        12 * year + month + delta := by
  obtain ⟨whole, low, high, -⟩ := tdiv_twelve_bounds delta
  unfold shiftMonths
  simp only
  split
  next afterDecember =>
    simp only
    omega
  next notAfter =>
    split
    next beforeJanuary =>
      simp only
      omega
    next within =>
      simp only
      omega

theorem eq_of_month_count {here there : Int × Int} (first : 1 ≤ here.2) (last : here.2 ≤ 12) (first' : 1 ≤ there.2)
    (last' : there.2 ≤ 12) (same : 12 * here.1 + here.2 = 12 * there.1 + there.2) : here = there := by
  have years : here.1 = there.1 := by omega
  have months : here.2 = there.2 := by omega
  exact Prod.ext years months

/-- A shift of months leads to the one month that lies so many months away, forward or back. Two shifts one after the
other lead as far as their sum. -/
theorem shiftMonths_moves_count (year : Int) {month : Int} (first : 1 ≤ month) (last : month ≤ 12) (delta more : Int) :
    (∀ later : Int × Int, shiftMonths year month delta = later ↔
      1 ≤ later.2 ∧ later.2 ≤ 12 ∧ 12 * later.1 + later.2 = 12 * year + month + delta) ∧
    shiftMonths (shiftMonths year month delta).1 (shiftMonths year month delta).2 more =
      shiftMonths year month (delta + more) := by
  obtain ⟨start, stop, count⟩ := shiftMonths_spec year first last delta
  constructor
  · intro later
    constructor
    · rintro rfl
      exact ⟨start, stop, count⟩
    · rintro ⟨start', stop', count'⟩
      exact eq_of_month_count start stop start' stop' (count.trans count'.symm)
  · obtain ⟨startSum, stopSum, countSum⟩ := shiftMonths_spec year first last (delta + more)
    obtain ⟨start', stop', count'⟩ := shiftMonths_spec (shiftMonths year month delta).1 start stop more
    apply eq_of_month_count start' stop' startSum stopSum
    rw [count', count, countSum, Int.add_assoc]

/-- Back over the year 0 and forth again, with less and with more than a year. -/
theorem shiftMonths_moves_count_year_zero :
    shiftMonths 1 1 (-14) = (-1, 11) ∧ shiftMonths (-1) 11 15 = shiftMonths 1 1 1 := by
  obtain ⟨back, forth⟩ := shiftMonths_moves_count 1 (show (1 : Int) ≤ 1 by decide) (by decide) (-14) 15
  have led : shiftMonths 1 1 (-14) = (-1, 11) := (back (-1, 11)).mpr (by decide)
  rw [led] at forth
  exact ⟨led, forth⟩

end TurkishDates
