import TurkishDates.Proofs.Calendar.Months
import TurkishDates.Proofs.DateSpec.Anchor
import TurkishDates.Proofs.DateSpec.Building

/-!
Two descriptions of which the first is never later than the second. What their fields are read as may
depend on the reference and the captures, but an equal field is read equally, and other fields have
bounds, so the distance of the two points in time is computed part by part from the descriptions alone.
-/

namespace TurkishDates

variable {captures : Captures} {reference : Moment} {start stop : DateSpec} {date later : Date}

/-- How far the second field lies beyond the first at least, when one that is not set is within bounds. -/
def Field.gap (unset : Bounds) (first second : Field) : Int :=
  if first = second then 0 else (second.bounds unset).low - (first.bounds unset).high

namespace DateSpec

theorem bounds_of_valueOf {field : Field} (met : ∀ source ∈ field.sources, source.use.IsMet captures)
    {unset : Int} {bounds : Bounds} (inside : unset ∈ bounds) {n : Int}
    (read : valueOf captures unset field = .ok n) : n ∈ field.bounds bounds := by
  have meets := valueOf_meets met inside
  rw [read] at meets
  exact meets

theorem add_gap_le (met : start.IsMet captures) (met' : stop.IsMet captures) {first second : Field}
    (sameKind : (first, second) ∈ start.fields.zip stop.fields) {unset : Int} {bounds : Bounds}
    (inside : unset ∈ bounds) {m n : Int} (read : valueOf captures unset first = .ok m)
    (read' : valueOf captures unset second = .ok n) : m + Field.gap bounds first second ≤ n := by
  obtain ⟨member, member'⟩ := List.of_mem_zip sameKind
  unfold Field.gap
  split
  next same =>
    rw [same] at read
    have equal := Except.ok.inj (read.symm.trans read')
    omega
  next different =>
    obtain ⟨-, notMore⟩ := bounds_of_valueOf (met.field member) inside read
    obtain ⟨notLess, -⟩ := bounds_of_valueOf (met'.field member') inside read'
    omega

def pivotField (spec : DateSpec) : Option Field :=
  match spec.rounding with
  | .off => none
  | .ownMonth => some spec.month
  | .pivot month => some (.literal month)

def yearsBack (rounding : YearRounding) (month referenceMonth : Int) : Int :=
  if (pivotMonth rounding month).any (referenceMonth < ·) then 1 else 0

theorem roundYear_eq_ok {rounding : YearRounding} {year month referenceMonth rounded : Int}
    (computed : roundYear rounding year month referenceMonth = .ok rounded) :
    rounded = year - yearsBack rounding month referenceMonth := by
  unfold roundYear at computed
  unfold yearsBack
  cases pivot : pivotMonth rounding month with
  | none =>
    simp only [pivot, Except.ok.injEq] at computed
    simp [computed]
  | some deciding =>
    simp only [pivot] at computed
    by_cases later : referenceMonth < deciding
    · rw [if_pos later, word] at computed
      split at computed
      · simpa [later] using (Except.ok.inj computed).symm
      · cases computed
    · rw [if_neg later] at computed
      simpa [later] using (Except.ok.inj computed).symm

theorem pivotMonth_eq (spec : DateSpec) {today : Date} {month : Int}
    (read : valueOf captures today.month spec.month = .ok month) :
    spec.pivotField.map (valueOf captures today.month) = (pivotMonth spec.rounding month).map .ok := by
  unfold pivotField pivotMonth
  cases spec.rounding with
  | off => rfl
  | ownMonth => exact congrArg some read
  | pivot deciding => rfl

structure HasMonths (spec : DateSpec) (captures : Captures) (today : Date)
    (year month yearShift monthShift : Int) : Prop where
  yearRead : valueOf captures today.year spec.year = .ok year
  monthRead : valueOf captures today.month spec.month = .ok month
  yearShiftRead : valueOf captures 0 spec.yearShift = .ok yearShift
  monthShiftRead : valueOf captures 0 spec.monthShift = .ok monthShift

theorem applyMonthShift_eq_ok {shift : Field} {year month : Int} {shifted : Int × Int}
    (computed : applyMonthShift captures shift year month = .ok shifted) :
    ∃ delta, valueOf captures 0 shift = .ok delta ∧
      12 * shifted.1 + shifted.2 = 12 * year + month + delta ∧
      (shift = .unset → shifted.2 = month ∧ delta = 0) := by
  by_cases given : shift = .unset
  · subst given
    obtain rfl := Except.ok.inj computed
    exact ⟨0, rfl, by simp, fun _ => ⟨rfl, rfl⟩⟩
  · rw [applyMonthShift_eq given, bind_eq_ok_iff] at computed
    obtain ⟨delta, read, computed⟩ := computed
    split at computed
    · obtain rfl := Except.ok.inj computed
      exact ⟨delta, read, shiftMonths_count year month delta, fun unset => absurd unset given⟩
    · cases computed

theorem yearAndMonth_eq_ok {spec : DateSpec} {today : Date} {date : Int × Int}
    (computed : spec.yearAndMonth captures today = .ok date) :
    ∃ year month yearShift monthShift,
      spec.HasMonths captures today year month yearShift monthShift ∧
      12 * date.1 + date.2 =
        12 * (year - yearsBack spec.rounding month today.month + yearShift) + month + monthShift ∧
      (spec.monthShift = .unset → date.2 = month ∧ monthShift = 0) := by
  simp only [yearAndMonth, bind_eq_ok_iff] at computed
  obtain ⟨year, yearRead, month, monthRead, rounded, roundedYear, yearShift, yearShiftRead, moved,
    movedYear, computed⟩ := computed
  obtain ⟨monthShift, monthShiftRead, count, still⟩ := applyMonthShift_eq_ok computed
  obtain rfl := roundYear_eq_ok roundedYear
  unfold checked at movedYear
  split at movedYear
  · obtain rfl := Except.ok.inj movedYear
    exact ⟨year, month, yearShift, monthShift, ⟨yearRead, monthRead, yearShiftRead, monthShiftRead⟩,
      count, still⟩
  · cases movedYear

def monthsRead (field : Field) : Bounds :=
  ⟨max 1 (field.bounds calendarMonths).low, min 12 (field.bounds calendarMonths).high⟩

/-- Whether the year is that of the latest such month that is not after the month of the reference. -/
def looksBack (spec : DateSpec) : Bool :=
  spec.year = .unset && spec.rounding = .ownMonth && spec.yearShift = .unset && spec.monthShift = .unset

/-- How many months the second description lies beyond the first at least. Their years are comparable when
they are read and rounded alike. Otherwise the first has to look back from the month of the second. -/
def monthsGap? (start stop : DateSpec) : Option Int :=
  if start.year = stop.year ∧ start.pivotField = stop.pivotField then
    let years := Field.gap (.only 0) start.yearShift stop.yearShift
    let months := Field.gap (.only 0) start.monthShift stop.monthShift
    if start.month = stop.month then some (12 * years + months)
    else if start.monthShift = .unset ∧ stop.monthShift = .unset then
      some (12 * years + ((monthsRead stop.month).low - (monthsRead start.month).high))
    else none
  else if start.looksBack ∧ stop.keepsMonth then some 0
  else none

theorem month_mem_monthsRead (met : start.IsMet captures) (dated : start.HasDate captures reference date)
    (real : date.IsReal) (unmoved : start.monthShift = .unset) : date.month ∈ monthsRead start.month := by
  obtain ⟨_, month, _, _, read, -, still⟩ := yearAndMonth_eq_ok dated.yearAndMonth
  obtain rfl : date.month = month := (still unmoved).1
  have calendar : reference.date.month ∈ calendarMonths := reference.isReal_date.month_bounds
  obtain ⟨notLess, notMore⟩ := bounds_of_valueOf (met.field (by simp [fields])) calendar read.monthRead
  obtain ⟨january, december⟩ := real.month_bounds
  exact ⟨Int.max_le.mpr ⟨january, notLess⟩, Int.le_min.mpr ⟨december, notMore⟩⟩

theorem yearsBack_eq (sameRounding : start.pivotField = stop.pivotField) {today : Date} {m n : Int}
    (read : valueOf captures today.month start.month = .ok m)
    (read' : valueOf captures today.month stop.month = .ok n) :
    yearsBack start.rounding m today.month = yearsBack stop.rounding n today.month := by
  have pivots : (pivotMonth start.rounding m).map Except.ok =
      (pivotMonth stop.rounding n).map (Except.ok (ε := BuildError)) := by
    rw [← pivotMonth_eq start read, ← pivotMonth_eq stop read', sameRounding]
  have same := Option.map_injective (fun _ _ equal => Except.ok.inj equal) pivots
  rw [yearsBack, yearsBack, same]

theorem months_le_of_looksBack (back : start.looksBack = true) (keeps : stop.keepsMonth = true)
    (dated : start.HasDate captures reference date) (dated' : stop.HasDate captures reference later)
    (real : date.IsReal) : date.months ≤ later.months := by
  simp only [looksBack, Bool.and_eq_true, decide_eq_true_eq] at back
  obtain ⟨⟨⟨year, rounding⟩, yearShift⟩, monthShift⟩ := back
  obtain ⟨start, stop⟩ := real.month_bounds
  obtain ⟨january, december⟩ := reference.isReal_date.month_bounds
  obtain ⟨sameYear, sameMonth⟩ := Prod.mk.inj (eq_of_keepsMonth keeps dated'.yearAndMonth)
  obtain ⟨_, month, _, _, read, count, still⟩ := yearAndMonth_eq_ok dated.yearAndMonth
  obtain rfl : reference.date.year = _ := Except.ok.inj (year ▸ read.yearRead)
  obtain rfl : 0 = _ := Except.ok.inj (yearShift ▸ read.yearShiftRead)
  obtain ⟨unmoved, rfl⟩ := still monthShift
  rw [rounding, yearsBack, pivotMonth, Option.any_some] at count
  unfold Date.months
  rw [sameYear, sameMonth]
  simp only [decide_eq_true_eq] at count
  split at count <;> omega

theorem months_add_gap_le (met : start.IsMet captures) (met' : stop.IsMet captures)
    (dated : start.HasDate captures reference date) (dated' : stop.HasDate captures reference later)
    (real : date.IsReal) (real' : later.IsReal) {gap : Int} (known : monthsGap? start stop = some gap) :
    date.months + gap ≤ later.months := by
  obtain ⟨year, month, yearShift, monthShift, read, count, still⟩ := yearAndMonth_eq_ok dated.yearAndMonth
  obtain ⟨year', month', yearShift', monthShift', read', count', still'⟩ :=
    yearAndMonth_eq_ok dated'.yearAndMonth
  have years := add_gap_le met met' (by simp [fields]) (Bounds.mem_only 0) read.yearShiftRead
    read'.yearShiftRead
  have months := add_gap_le met met' (by simp [fields]) (Bounds.mem_only 0) read.monthShiftRead
    read'.monthShiftRead
  unfold monthsGap? at known
  split at known
  next alike =>
    obtain ⟨sameYear, sameRounding⟩ := alike
    obtain rfl : year = year' := Except.ok.inj (read.yearRead.symm.trans (sameYear ▸ read'.yearRead))
    -- Both years are now the same but for their shifts, and what remains is to compare the months.
    rw [yearsBack_eq sameRounding read.monthRead read'.monthRead] at count
    simp only at known
    split at known
    next sameMonth =>
      obtain rfl : month = month' :=
        Except.ok.inj (read.monthRead.symm.trans (sameMonth ▸ read'.monthRead))
      obtain rfl := Option.some.inj known
      unfold Date.months
      omega
    next =>
      split at known
      next unmoved =>
        obtain rfl := Option.some.inj known
        obtain ⟨rfl, rfl⟩ := still unmoved.1
        obtain ⟨rfl, rfl⟩ := still' unmoved.2
        obtain ⟨-, notMore⟩ := month_mem_monthsRead met dated real unmoved.1
        obtain ⟨notLess, -⟩ := month_mem_monthsRead met' dated' real' unmoved.2
        unfold Date.months
        omega
      next => cases known
  next =>
    split at known
    next back =>
      obtain rfl := Option.some.inj known
      rw [Int.add_zero]
      exact months_le_of_looksBack back.1 back.2 dated dated' real
    next => cases known

def daysInOrder (start stop : DateSpec) : Bool :=
  stop.day = .lastDay || (start.day ≠ .lastDay && 0 ≤ Field.gap ⟨1, 31⟩ start.day stop.day)

theorem dayOf_eq (spec : DateSpec) (numbered : spec.day ≠ .lastDay) (today : Date) (year month : Int) :
    spec.dayOf captures today year month = valueOf captures today.day spec.day := by
  unfold dayOf
  split
  next last => exact absurd last numbered
  next => rfl

theorem day_le (met : start.IsMet captures) (met' : stop.IsMet captures)
    (dated : start.HasDate captures reference date) (dated' : stop.HasDate captures reference later)
    (real : date.IsReal) (real' : later.IsReal) (ordered : daysInOrder start stop = true)
    (inMonth : date.months = later.months) : date.day ≤ later.day := by
  by_cases last : stop.day = .lastDay
  · obtain ⟨days, known, -, notMore⟩ := id real
    have read := dated'.day
    rw [dayOf, last] at read
    simp only [found_eq_ok_iff] at read
    obtain ⟨year, month⟩ := real.year_and_month_eq real' inMonth
    rw [year, month, known] at read
    obtain rfl := Option.some.inj read
    exact notMore
  · simp only [daysInOrder, last, decide_false, Bool.false_or, Bool.and_eq_true, decide_eq_true_eq] at ordered
    have read := dated.day
    have read' := dated'.day
    rw [dayOf_eq start ordered.1] at read
    rw [dayOf_eq stop last] at read'
    have inside : reference.date.day ∈ (⟨1, 31⟩ : Bounds) := reference.isReal_date.day_bounds
    have days := add_gap_le met met' (by simp [fields]) inside read read'
    omega

def clockInOrder (start stop : DateSpec) : Bool :=
  0 ≤ Field.gap ⟨0, 23⟩ start.hour stop.hour && 0 ≤ Field.gap ⟨0, 59⟩ start.minute stop.minute &&
    0 ≤ Field.gap ⟨0, 59⟩ start.second stop.second

def anchorsInOrder (start stop : DateSpec) : Bool :=
  (monthsGap? start stop).any (0 ≤ ·) && daysInOrder start stop && clockInOrder start stop

theorem anchor_le (met : start.IsMet captures) (met' : stop.IsMet captures)
    (ordered : anchorsInOrder start stop = true) {t t' : Timestamp}
    (anchored : start.anchor captures reference = .ok t)
    (anchored' : stop.anchor captures reference = .ok t') : t.seconds ≤ t'.seconds := by
  simp only [anchorsInOrder, clockInOrder, Bool.and_eq_true, decide_eq_true_eq] at ordered
  obtain ⟨⟨months, days⟩, ⟨hours, minutes⟩, seconds⟩ := ordered
  obtain ⟨date, hour, minute, second, dated, clock, real, counted⟩ := anchor_eq_ok anchored
  obtain ⟨later, hour', minute', second', dated', clock', real', counted'⟩ := anchor_eq_ok anchored'
  obtain ⟨gap, known, forward⟩ := (Option.any_eq_true _ _).mp months
  rw [decide_eq_true_eq] at forward
  have byMonth := months_add_gap_le met met' dated dated' real real' known
  have byDay : date.dayNumber ≤ later.dayNumber :=
    real.dayNumber_le real' (by omega) (day_le met met' dated dated' real real' days)
  obtain ⟨inHours, inMinutes, inSeconds⟩ : reference.hour ∈ (⟨0, 23⟩ : Bounds) ∧
    reference.minute ∈ (⟨0, 59⟩ : Bounds) ∧ reference.second ∈ (⟨0, 59⟩ : Bounds) := reference.clock_bounds
  have byHour := add_gap_le met met' (by simp [fields]) inHours clock.hourRead clock'.hourRead
  have byMinute := add_gap_le met met' (by simp [fields]) inMinutes clock.minuteRead clock'.minuteRead
  have bySecond := add_gap_le met met' (by simp [fields]) inSeconds clock.secondRead clock'.secondRead
  unfold secondsPerDay at counted counted'
  omega

/-- Whether the days to the weekdays are in order. From one reference they differ as the weekdays do. -/
def weekdaysInOrder (start stop : DateSpec) : Bool :=
  (start.weekday ≠ .unset && stop.weekday ≠ .unset && 0 ≤ Field.gap (.only 0) start.weekday stop.weekday) ||
    (weekdayBounds start.weekday).amount.high ≤ (weekdayBounds stop.weekday).amount.low

def shiftsInOrder (start stop : DateSpec) : Bool :=
  weekdaysInOrder start stop && 0 ≤ Field.gap (.only 0) start.weekShift stop.weekShift &&
    0 ≤ Field.gap (.only 0) start.dayShift stop.dayShift &&
    0 ≤ Field.gap (.only 0) start.hourShift stop.hourShift &&
    0 ≤ Field.gap (.only 0) start.minuteShift stop.minuteShift &&
    0 ≤ Field.gap (.only 0) start.secondShift stop.secondShift

/-- Whether the first description is sure not to be later than the second. -/
def precedes (start stop : DateSpec) : Bool := anchorsInOrder start stop && shiftsInOrder start stop

theorem weekdayShift_eq_ok {spec : DateSpec} (given : spec.weekday ≠ .unset) {days : Int}
    (computed : spec.weekdayShift captures reference = .ok days) :
    ∃ weekday, valueOf captures 0 spec.weekday = .ok weekday ∧
      days = weekday - reference.date.daysSinceMonday := by
  rw [weekdayShift_of_given given] at computed
  obtain ⟨weekday, read, small⟩ := bind_eq_ok_iff.mp computed
  unfold word at small
  split at small
  · exact ⟨weekday, read, (Except.ok.inj small).symm⟩
  · cases small

theorem weekdayShift_le (met : start.IsMet captures) (met' : stop.IsMet captures)
    (ordered : weekdaysInOrder start stop = true) {days days' : Int}
    (computed : start.weekdayShift captures reference = .ok days)
    (computed' : stop.weekdayShift captures reference = .ok days') : days ≤ days' := by
  simp only [weekdaysInOrder, Bool.or_eq_true, Bool.and_eq_true, decide_eq_true_eq] at ordered
  rcases ordered with ⟨⟨given, given'⟩, gap⟩ | apart
  · obtain ⟨weekday, read, rfl⟩ := weekdayShift_eq_ok given computed
    obtain ⟨weekday', read', rfl⟩ := weekdayShift_eq_ok given' computed'
    have weekdays := add_gap_le met met' (by simp [fields]) (Bounds.mem_only 0) read read'
    omega
  · have bounds := weekdayShift_meets met reference
    have bounds' := weekdayShift_meets met' reference
    rw [computed] at bounds
    rw [computed'] at bounds'
    exact Int.le_trans bounds.2 (Int.le_trans apart bounds'.1)

def ReachesAsFar (first second : Int × Except BuildError Int) : Prop :=
  first.1 = second.1 ∧ 0 ≤ first.1 ∧ ∀ m n, first.2 = .ok m → second.2 = .ok n → m ≤ n

theorem foldlM_move_le {amounts amounts' : List (Int × Except BuildError Int)}
    (ordered : List.Forall₂ ReachesAsFar amounts amounts') {t t' last last' : Timestamp}
    (before : t.seconds ≤ t'.seconds)
    (moved : amounts.foldlM (fun t (shift : Int × Except BuildError Int) => shift.2 >>= move t shift.1) t =
      .ok last)
    (moved' : amounts'.foldlM (fun t (shift : Int × Except BuildError Int) => shift.2 >>= move t shift.1) t' =
      .ok last') : last.seconds ≤ last'.seconds := by
  induction ordered generalizing t t' with
  | nil =>
    obtain rfl := Except.ok.inj moved
    obtain rfl := Except.ok.inj moved'
    exact before
  | cons here _ ih =>
    obtain ⟨sameUnit, forward, larger⟩ := here
    simp only [List.foldlM_cons, bind_eq_ok_iff, move, found_eq_ok_iff] at moved moved'
    obtain ⟨next, ⟨m, amount, shifted⟩, later⟩ := moved
    obtain ⟨next', ⟨n, amount', shifted'⟩, later'⟩ := moved'
    have scaled := Int.mul_le_mul_of_nonneg_left (larger m n amount amount') forward
    refine ih ?_ later later'
    rw [Timestamp.seconds_of_shift? shifted, Timestamp.seconds_of_shift? shifted', ← sameUnit]
    exact Int.add_le_add before scaled

theorem build_le (met : start.IsMet captures) (met' : stop.IsMet captures)
    (ordered : start.precedes stop = true) {t t' : Timestamp}
    (built : start.build captures reference = .ok t)
    (built' : stop.build captures reference = .ok t') : t.seconds ≤ t'.seconds := by
  simp only [precedes, shiftsInOrder, Bool.and_eq_true, decide_eq_true_eq] at ordered
  obtain ⟨anchors, ⟨⟨⟨⟨weekdays, weeks⟩, days⟩, hours⟩, minutes⟩, seconds⟩ := ordered
  rw [build_eq, bind_eq_ok_iff] at built built'
  obtain ⟨anchor, anchored, moved⟩ := built
  obtain ⟨anchor', anchored', moved'⟩ := built'
  have reaches (unit : Int) (forward : 0 ≤ unit) {first second : Field}
      (sameKind : (first, second) ∈ start.fields.zip stop.fields)
      (gap : 0 ≤ Field.gap (.only 0) first second) :
      ReachesAsFar (unit, valueOf captures 0 first) (unit, valueOf captures 0 second) := by
    refine ⟨rfl, forward, fun m n read read' => ?_⟩
    have further := add_gap_le met met' sameKind (Bounds.mem_only 0) read read'
    omega
  have weekday : ReachesAsFar (secondsPerDay, start.weekdayShift captures reference)
      (secondsPerDay, stop.weekdayShift captures reference) :=
    ⟨rfl, by simp [secondsPerDay], fun m n => weekdayShift_le met met' weekdays⟩
  refine foldlM_move_le ?_ (anchor_le met met' anchors anchored anchored') moved moved'
  refine .cons (reaches _ (by decide) (by simp [fields]) weeks) ?_
  refine .cons (reaches _ (by decide) (by simp [fields]) days) ?_
  refine .cons weekday ?_
  refine .cons (reaches _ (by decide) (by simp [fields]) hours) ?_
  refine .cons (reaches _ (by decide) (by simp [fields]) minutes) ?_
  exact .cons (reaches _ (by decide) (by simp [fields]) seconds) .nil

end DateSpec

end TurkishDates
