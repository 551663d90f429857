import TurkishDates.Proofs.DateSpec.Causes

/-!
The causes that building a description can fail for. They are computed from its fields and the years that
the reference may lie in, with bounds on every number on the way.
-/

namespace TurkishDates

namespace DateSpec

def calendarMonths : Bounds := ⟨1, 12⟩

def representableYears : Bounds := ⟨earliestYear, latestYear⟩

def roundedYears (rounding : YearRounding) (years : Bounds) : Bounds :=
  match rounding with
  | .off => years
  | .ownMonth | .pivot _ => ⟨years.low - 1, years.high⟩

/-- Years after a shift of months, when all months are those of the calendar. -/
def carriedYears (years delta : Bounds) : Bounds :=
  ⟨years.low + delta.low / 12, years.high + delta.high / 12 + 1⟩

def shiftIsSure (years months delta : Bounds) : Bool :=
  months.isWithin calendarMonths && delta.isWithin ⟨-greatestWord, greatestWord⟩ &&
    (carriedYears years delta).isWithin .words

def shiftedMonths (shift : Field) (years months : Bounds) : Bounds × Bounds :=
  if shift = .unset then (years, months)
  else
    let delta := shift.bounds (.only 0)
    if shiftIsSure years months delta then (carriedYears years delta, calendarMonths)
    else (.words, .words)

def shiftCauses (shift : Field) (years months : Bounds) : List BuildError :=
  if shift = .unset then []
  else shift.causes ++ causeUnless (shiftIsSure years months (shift.bounds (.only 0))) .overflow

variable {captures : Captures} {years months : Bounds}

theorem roundYear_meets {rounding : YearRounding} {year : Int} (inside : year ∈ years)
    (month referenceMonth : Int) :
    Meets (causeUnless ((roundedYears rounding years).isWithin .words) .overflow)
      (· ∈ roundedYears rounding years) (roundYear rounding year month referenceMonth) := by
  have lowered (pivot : Int) :
      Meets (causeUnless ((⟨years.low - 1, years.high⟩ : Bounds).isWithin .words) .overflow)
        (· ∈ (⟨years.low - 1, years.high⟩ : Bounds))
        (if referenceMonth < pivot then word (year - 1) else .ok year) := by
    obtain ⟨low, high⟩ := inside
    split
    · apply meets_of_fitsWord
      exact ⟨Int.sub_le_sub_right low 1, show year - 1 ≤ years.high by omega⟩
    · exact ⟨show years.low - 1 ≤ year by omega, high⟩
  cases rounding with
  | off => exact inside
  | ownMonth => exact lowered month
  | pivot first => exact lowered first

theorem applyMonthShift_eq {shift : Field} (given : shift ≠ .unset) (year month : Int) :
    applyMonthShift captures shift year month = valueOf captures 0 shift >>= fun delta =>
      if (shiftSteps year month delta).all fitsWord then .ok (shiftMonths year month delta)
      else .error .overflow := by
  cases shift with
  | unset => exact absurd rfl given
  | literal | capture | lastDay => rfl

theorem all_fitsWord_of_shiftIsSure {year month delta : Int} {deltas : Bounds}
    (sure : shiftIsSure years months deltas = true) (inYears : year ∈ years) (inMonths : month ∈ months)
    (inDeltas : delta ∈ deltas) :
    (shiftSteps year month delta).all fitsWord = true ∧
      (shiftMonths year month delta).1 ∈ carriedYears years deltas ∧
      (shiftMonths year month delta).2 ∈ calendarMonths := by
  simp only [shiftIsSure, Bool.and_eq_true] at sure
  obtain ⟨⟨calendar, symmetric⟩, words⟩ := sure
  obtain ⟨first, last⟩ := Bounds.mem_of_isWithin calendar inMonths
  obtain ⟨notLess, notMore⟩ := Bounds.mem_of_isWithin symmetric inDeltas
  obtain ⟨start, stop, count⟩ := shiftMonths_spec year first last delta
  obtain ⟨whole, lowRest, highRest, lowYears, highYears⟩ := tdiv_twelve_bounds delta
  have near : (shiftMonths year month delta).1 ∈ carriedYears years deltas := by
    obtain ⟨lowYear, highYear⟩ := inYears
    obtain ⟨lowDelta, highDelta⟩ := inDeltas
    simp only [Bounds.mem_iff, carriedYears, calendarMonths] at *
    omega
  have carried : year + delta.tdiv 12 ∈ carriedYears years deltas := by
    obtain ⟨lowYear, highYear⟩ := inYears
    obtain ⟨lowDelta, highDelta⟩ := inDeltas
    simp only [Bounds.mem_iff, carriedYears] at *
    omega
  have small (n : Int) (low : -100 ≤ n) (high : n ≤ 100) : n ∈ Bounds.words := by
    simp only [Bounds.mem_iff, Bounds.words, leastWord, greatestWord]
    omega
  have size : (delta.natAbs : Int) ∈ Bounds.words := by
    simp only [Bounds.mem_iff, Bounds.words, leastWord, greatestWord] at *
    omega
  simp only [calendarMonths] at first last
  refine ⟨?_, near, start, stop⟩
  simp only [shiftSteps, List.all_cons, List.all_nil, Bool.and_true, Bool.and_eq_true,
    Bounds.fitsWord_iff]
  exact ⟨size, Bounds.mem_of_isWithin words carried, small _ (by omega) (by omega),
    Bounds.mem_of_isWithin words near, small _ (by omega) (by omega)⟩

theorem applyMonthShift_meets {shift : Field} (met : ∀ source ∈ shift.sources, source.use.IsMet captures)
    {year month : Int} (inYears : year ∈ years) (inMonths : month ∈ months) :
    Meets (shiftCauses shift years months)
      (fun shifted => shifted.1 ∈ (shiftedMonths shift years months).1 ∧
        shifted.2 ∈ (shiftedMonths shift years months).2)
      (applyMonthShift captures shift year month) := by
  by_cases given : shift = .unset
  · subst given
    exact ⟨inYears, inMonths⟩
  · simp only [shiftCauses, shiftedMonths, if_neg given, applyMonthShift_eq given]
    apply (valueOf_meets met (Bounds.mem_only 0)).bind
    intro delta inDeltas
    cases sure : shiftIsSure years months (shift.bounds (.only 0)) with
    | true =>
      obtain ⟨fits, near, calendar⟩ := all_fitsWord_of_shiftIsSure sure inYears inMonths inDeltas
      rw [if_pos fits]
      exact ⟨near, calendar⟩
    | false =>
      by_cases fits : (shiftSteps year month delta).all fitsWord = true
      · rw [if_pos fits]
        simp only [shiftSteps, List.all_cons, List.all_nil, Bool.and_true, Bool.and_eq_true,
          Bounds.fitsWord_iff] at fits
        exact fits.2.2.2
      · rw [if_neg fits]
        exact List.mem_singleton_self _

/-- Bounds of the year and the month that the day is looked for in. -/
def monthBounds (spec : DateSpec) (years : Bounds) : Bounds × Bounds :=
  shiftedMonths spec.monthShift
    (roundedYears spec.rounding (spec.year.bounds years) + spec.yearShift.bounds (.only 0))
    (spec.month.bounds calendarMonths)

def monthCauses (spec : DateSpec) (years : Bounds) : List BuildError :=
  let rounded := roundedYears spec.rounding (spec.year.bounds years)
  let moved := rounded + spec.yearShift.bounds (.only 0)
  spec.year.causes ++ (spec.month.causes ++ (causeUnless (rounded.isWithin .words) .overflow ++
    (spec.yearShift.causes ++ (causeUnless (moved.isWithin .words) .numberTooLarge ++
      shiftCauses spec.monthShift moved (spec.month.bounds calendarMonths)))))

def keepsMonth (spec : DateSpec) : Bool :=
  spec.year = .unset && spec.month = .unset && spec.rounding = .off && spec.yearShift = .unset &&
    spec.monthShift = .unset

/-- Whether each group that is read took part in the match with a text that can be read. -/
def IsMet (spec : DateSpec) (captures : Captures) : Prop :=
  ∀ source ∈ spec.sources, source.use.IsMet captures

theorem IsMet.field {spec : DateSpec} (met : spec.IsMet captures) {field : Field}
    (member : field ∈ spec.fields) : ∀ source ∈ field.sources, source.use.IsMet captures :=
  fun source inField => met source (mem_sources member inField)

theorem eq_of_keepsMonth {spec : DateSpec} (keeps : spec.keepsMonth = true) {today : Date} {date : Int × Int}
    (computed : yearAndMonth spec captures today = .ok date) : date = (today.year, today.month) := by
  simp only [keepsMonth, Bool.and_eq_true, decide_eq_true_eq] at keeps
  obtain ⟨⟨⟨⟨year, month⟩, rounding⟩, yearShift⟩, monthShift⟩ := keeps
  have checkedYear : (checked (today.year + 0) >>= fun year => .ok (year, today.month)) = .ok date := by
    rw [← computed, yearAndMonth, year, month, rounding, yearShift, monthShift]
    rfl
  rw [Int.add_zero, checked] at checkedYear
  split at checkedYear
  · exact (Except.ok.inj checkedYear).symm
  · cases checkedYear

theorem yearAndMonth_meets {spec : DateSpec} (met : spec.IsMet captures) {today : Date}
    (real : today.IsReal) (inYears : today.year ∈ years) :
    Meets (monthCauses spec years)
      (fun date => (date.1 ∈ (monthBounds spec years).1 ∧ date.2 ∈ (monthBounds spec years).2) ∧
        (spec.keepsMonth = true → date = (today.year, today.month)))
      (yearAndMonth spec captures today) := by
  apply Meets.and_of_ok
  · apply (valueOf_meets (met.field (by simp [fields])) inYears).bind
    intro year inYears
    have calendar : today.month ∈ calendarMonths := by
      obtain ⟨days, known, -⟩ := real
      exact month_of_daysInMonth? known
    apply (valueOf_meets (met.field (by simp [fields])) calendar).bind
    intro month inMonths
    apply (roundYear_meets inYears month today.month).bind
    intro year inYears
    apply (valueOf_meets (met.field (by simp [fields])) (Bounds.mem_only 0)).bind
    intro shift inShifts
    apply Meets.bind (meets_of_fitsWord (Bounds.add_mem inYears inShifts) .numberTooLarge)
    intro year inYears
    exact applyMonthShift_meets (met.field (by simp [fields])) inYears inMonths
  · intro date computed keeps
    exact eq_of_keepsMonth keeps computed

/-- The number of days that every one of the months has in every year. -/
def leastDays (months : Bounds) : Int :=
  if months.low = months.high then (daysInMonth? 1 months.low).getD 0 else 28

theorem leastDays_le {year month days : Int} (inside : month ∈ months)
    (known : daysInMonth? year month = some days) : leastDays months ≤ days := by
  obtain ⟨first, last⟩ := month_of_daysInMonth? known
  rw [daysInMonth?_eq first last, Option.some.injEq] at known
  obtain ⟨low, high⟩ := inside
  unfold leastDays
  split
  next single =>
    have same : months.low = month := by omega
    have common : isLeap 1 = false := by decide
    rw [same, daysInMonth?_eq first last, Option.getD_some, ← known]
    split
    · simp only [common, Bool.false_eq_true, if_false]
      split <;> decide
    · exact Int.le_refl _
  next several =>
    rw [← known]
    split
    · split <;> decide
    · unfold Date.monthStart
      omega

def dayIsSure (spec : DateSpec) (months : Bounds) : Bool :=
  match spec.day with
  | .lastDay => true
  | .unset => spec.keepsMonth
  | field => months.isWithin calendarMonths && (field.bounds (.only 0)).isWithin ⟨1, leastDays months⟩

def dayCauses (spec : DateSpec) (months : Bounds) : List BuildError :=
  match spec.day with
  | .lastDay => causeUnless (months.isWithin calendarMonths) .noSuchDate
  | field => field.causes

theorem exists_daysInMonth? (year : Int) {month : Int} (calendar : month ∈ calendarMonths) :
    ∃ days, daysInMonth? year month = some days ∧ 28 ≤ days := by
  have known : daysInMonth? year month = some _ := daysInMonth?_eq calendar.1 calendar.2
  exact ⟨_, known, leastDays_le calendar known⟩

theorem dayOf_meets {spec : DateSpec} (met : spec.IsMet captures) {today : Date} (real : today.IsReal)
    {year month : Int} (inMonths : month ∈ months)
    (keeps : spec.keepsMonth = true → (year, month) = (today.year, today.month)) :
    Meets (dayCauses spec months)
      (fun day => dayIsSure spec months = true → (⟨year, month, day⟩ : Date).IsReal)
      (dayOf spec captures today year month) := by
  have value : Meets spec.day.causes (· ∈ spec.day.bounds (.only today.day))
      (valueOf captures today.day spec.day) :=
    valueOf_meets (met.field (by simp [fields])) (Bounds.mem_only _)
  have within {bounds : Bounds} {day : Int} (inside : day ∈ bounds)
      (sure : (months.isWithin calendarMonths && bounds.isWithin ⟨1, leastDays months⟩) = true) :
      (⟨year, month, day⟩ : Date).IsReal := by
    rw [Bool.and_eq_true] at sure
    obtain ⟨first, last⟩ := Bounds.mem_of_isWithin sure.2 inside
    obtain ⟨days, known, -⟩ := exists_daysInMonth? year (Bounds.mem_of_isWithin sure.1 inMonths)
    exact ⟨days, known, first, Int.le_trans last (leastDays_le inMonths known)⟩
  unfold dayOf dayCauses dayIsSure
  cases given : spec.day with
  | lastDay =>
    apply found_meets
    · intro days known sure
      have calendar : month ∈ calendarMonths := month_of_daysInMonth? known
      obtain ⟨days', known', enough⟩ := exists_daysInMonth? year calendar
      obtain rfl := Option.some.inj (known.symm.trans known')
      exact ⟨days, known, show 1 ≤ days by omega, Int.le_refl days⟩
    · intro sure
      obtain ⟨days, known, -⟩ := exists_daysInMonth? year (Bounds.mem_of_isWithin sure inMonths)
      rw [known, Option.isSome_some]
  | unset =>
    intro sure
    obtain ⟨rfl, rfl⟩ := Prod.mk.inj (keeps sure)
    exact real
  | literal day =>
    rw [given] at value
    exact value.weaken (List.Subset.refl _) fun day inside sure => within inside sure
  | capture source =>
    rw [given] at value
    exact value.weaken (List.Subset.refl _) fun day inside sure => within inside sure

def dateIsSure (spec : DateSpec) (years : Bounds) : Bool :=
  (monthBounds spec years).1.isWithin representableYears && dayIsSure spec (monthBounds spec years).2

def clockIsSure (spec : DateSpec) : Bool :=
  (spec.hour.bounds ⟨0, 23⟩).isWithin ⟨0, 23⟩ && (spec.minute.bounds ⟨0, 59⟩).isWithin ⟨0, 59⟩ &&
    (spec.second.bounds ⟨0, 59⟩).isWithin ⟨0, 59⟩

def anchorCauses (spec : DateSpec) (years : Bounds) : List BuildError :=
  monthCauses spec years ++ (dayCauses spec (monthBounds spec years).2 ++ (spec.hour.causes ++
    (spec.minute.causes ++ (spec.second.causes ++ (causeUnless (dateIsSure spec years) .noSuchDate ++
      causeUnless (clockIsSure spec) .noSuchTime)))))

def secondsOf (years : Bounds) : Bounds :=
  ⟨secondsPerDay * Date.newYear years.low, secondsPerDay * Date.newYear (years.high + 1) - 1⟩

theorem date_meets {sure : Bool} {year month day : Int} (inYears : year ∈ years)
    (known : sure = true → (⟨year, month, day⟩ : Date).IsReal) :
    Meets (causeUnless (years.isWithin representableYears && sure) .noSuchDate)
      (fun date => date.year = year ∧ date.IsReal ∧ date.year ∈ representableYears)
      (found .noSuchDate (Date.ofParts? year month day)) := by
  apply found_meets
  · intro date found
    obtain ⟨rfl, after, before, real⟩ := Date.ofParts?_eq_some_iff.mp found
    exact ⟨rfl, real, after, before⟩
  · intro isSure
    rw [Bool.and_eq_true] at isSure
    obtain ⟨after, before⟩ := Bounds.mem_of_isWithin isSure.1 inYears
    rw [Date.ofParts?_eq_some_iff.mpr ⟨rfl, after, before, known isSure.2⟩, Option.isSome_some]

theorem time_meets {spec : DateSpec} {date : Date} (real : date.IsReal) (inYears : date.year ∈ years)
    (representable : date.year ∈ representableYears) {hour minute second : Int}
    (inHours : hour ∈ spec.hour.bounds ⟨0, 23⟩) (inMinutes : minute ∈ spec.minute.bounds ⟨0, 59⟩)
    (inSeconds : second ∈ spec.second.bounds ⟨0, 59⟩) :
    Meets (causeUnless (clockIsSure spec) .noSuchTime) (fun t => t.seconds ∈ secondsOf years)
      (found .noSuchTime (Timestamp.ofParts? date hour minute second)) := by
  apply found_meets
  · intro t found
    obtain ⟨notBefore, notAfter⟩ := Timestamp.second_bounds_of_ofParts? real found
    have low : Date.newYear years.low ≤ Date.newYear date.year := Date.newYear_mono inYears.1
    have high : Date.newYear (date.year + 1) ≤ Date.newYear (years.high + 1) :=
      Date.newYear_mono (Int.add_le_add_right inYears.2 1)
    simp only [Bounds.mem_iff, secondsOf]
    unfold secondsPerDay at *
    omega
  · intro sure
    simp only [clockIsSure, Bool.and_eq_true] at sure
    obtain ⟨⟨hours, minutes⟩, seconds⟩ := sure
    obtain ⟨lowHour, highHour⟩ := Bounds.mem_of_isWithin hours inHours
    obtain ⟨lowMinute, highMinute⟩ := Bounds.mem_of_isWithin minutes inMinutes
    obtain ⟨lowSecond, highSecond⟩ := Bounds.mem_of_isWithin seconds inSeconds
    obtain ⟨t, found, -⟩ := Timestamp.exists_ofParts? real representable.1 representable.2
      ⟨lowHour, Int.lt_add_one_of_le highHour, lowMinute, Int.lt_add_one_of_le highMinute, lowSecond,
        Int.lt_add_one_of_le highSecond⟩
    rw [found, Option.isSome_some]

theorem anchor_meets {spec : DateSpec} (met : spec.IsMet captures) {reference : Moment}
    (inYears : reference.date.year ∈ years) :
    Meets (anchorCauses spec years) (fun t => t.seconds ∈ secondsOf (monthBounds spec years).1)
      (anchor spec captures reference) := by
  have clock {field : Field} (member : field ∈ spec.fields) {unset : Int} {bounds : Bounds}
      (inside : unset ∈ bounds) :
      Meets field.causes (· ∈ field.bounds bounds) (valueOf captures unset field) :=
    valueOf_meets (met.field member) inside
  obtain ⟨hours, minutes, seconds⟩ : reference.hour ∈ (⟨0, 23⟩ : Bounds) ∧
    reference.minute ∈ (⟨0, 59⟩ : Bounds) ∧ reference.second ∈ (⟨0, 59⟩ : Bounds) := reference.clock_bounds
  apply (yearAndMonth_meets met reference.isReal_date inYears).bind
  intro months known
  obtain ⟨year, month⟩ := months
  obtain ⟨⟨inYears, inMonths⟩, keeps⟩ := known
  apply (dayOf_meets met reference.isReal_date inMonths keeps).bind
  intro day real
  apply (clock (by simp [fields]) hours).bind
  intro hour inHours
  apply (clock (by simp [fields]) minutes).bind
  intro minute inMinutes
  apply (clock (by simp [fields]) seconds).bind
  intro second inSeconds
  apply (date_meets inYears real).bind
  intro date known
  obtain ⟨sameYear, isReal, representable⟩ := known
  exact time_meets isReal (sameYear ▸ inYears) representable inHours inMinutes inSeconds

/-- An amount of a unit of so many seconds, with bounds on it and the causes that computing it can
fail for. -/
structure ShiftBounds where
  unit : Int
  amount : Bounds
  causes : List BuildError

def ShiftBounds.ofField (unit : Int) (shift : Field) : ShiftBounds :=
  ⟨unit, shift.bounds (.only 0), shift.causes⟩

def weekdayBounds (weekday : Field) : ShiftBounds :=
  match weekday with
  | .unset => ⟨secondsPerDay, .only 0, []⟩
  | field =>
      let days := field.bounds (.only 0) + ⟨-6, 0⟩
      ⟨secondsPerDay, days, field.causes ++ causeUnless (days.isWithin .words) .overflow⟩

def shifts (spec : DateSpec) (captures : Captures) (reference : Moment) :
    List (Int × Except BuildError Int) :=
  [(7 * secondsPerDay, valueOf captures 0 spec.weekShift),
    (secondsPerDay, valueOf captures 0 spec.dayShift),
    (secondsPerDay, weekdayShift spec captures reference),
    (3600, valueOf captures 0 spec.hourShift),
    (60, valueOf captures 0 spec.minuteShift),
    (60, valueOf captures 0 spec.secondShift)]

def shiftBounds (spec : DateSpec) : List ShiftBounds :=
  [.ofField (7 * secondsPerDay) spec.weekShift, .ofField secondsPerDay spec.dayShift,
    weekdayBounds spec.weekday, .ofField 3600 spec.hourShift, .ofField 60 spec.minuteShift,
    .ofField 60 spec.secondShift]

theorem build_eq (spec : DateSpec) (captures : Captures) (reference : Moment) :
    spec.build captures reference = anchor spec captures reference >>= fun t =>
      (shifts spec captures reference).foldlM
        (fun t (shift : Int × Except BuildError Int) => shift.2 >>= move t shift.1) t := by
  simp only [build, shifts, List.foldlM_cons, List.foldlM_nil, bind_assoc, bind_pure]

def representableSeconds : Bounds := ⟨earliestSecond, latestSecond⟩

def ShiftBounds.moved (shift : ShiftBounds) (seconds : Bounds) : Bounds :=
  seconds + ⟨shift.unit * shift.amount.low, shift.unit * shift.amount.high⟩

/-- The causes of a sequence of shifts, from bounds on the seconds that they begin at. -/
def movingCauses (seconds : Bounds) : List ShiftBounds → List BuildError
  | [] => []
  | shift :: later =>
      shift.causes ++ causeUnless ((shift.moved seconds).isWithin representableSeconds) .outOfRange ++
        movingCauses (shift.moved seconds) later

theorem causes_subset_movingCauses {shift : ShiftBounds} {known : List ShiftBounds} (member : shift ∈ known)
    (seconds : Bounds) : shift.causes ⊆ movingCauses seconds known := by
  induction known generalizing seconds with
  | nil => cases member
  | cons first known ih =>
    intro cause isCause
    rw [movingCauses]
    cases member with
    | head => exact List.mem_append_left _ (List.mem_append_left _ isCause)
    | tail _ later => exact List.mem_append_right _ (ih later _ isCause)

theorem move_meets {shift : ShiftBounds} (forward : 0 ≤ shift.unit) {amount : Int}
    (inAmount : amount ∈ shift.amount) {seconds : Bounds} {t : Timestamp} (inside : t.seconds ∈ seconds) :
    Meets (causeUnless ((shift.moved seconds).isWithin representableSeconds) .outOfRange)
      (fun moved => moved.seconds ∈ shift.moved seconds) (move t shift.unit amount) := by
  have inShift : shift.unit * amount ∈
      (⟨shift.unit * shift.amount.low, shift.unit * shift.amount.high⟩ : Bounds) :=
    ⟨Int.mul_le_mul_of_nonneg_left inAmount.1 forward, Int.mul_le_mul_of_nonneg_left inAmount.2 forward⟩
  have inMoved : t.seconds + shift.unit * amount ∈ shift.moved seconds := Bounds.add_mem inside inShift
  apply found_meets
  · intro moved found
    rw [Timestamp.seconds_of_shift? found]
    exact inMoved
  · intro sure
    obtain ⟨after, before⟩ := Bounds.mem_of_isWithin sure inMoved
    obtain ⟨moved, found⟩ := Timestamp.exists_shift? after before
    rw [found, Option.isSome_some]

theorem foldlM_move_meets {amounts : List (Int × Except BuildError Int)} {known : List ShiftBounds}
    (bounded : List.Forall₂ (fun shift bounds => shift.1 = bounds.unit ∧ 0 ≤ bounds.unit ∧
      Meets bounds.causes (· ∈ bounds.amount) shift.2) amounts known)
    {seconds : Bounds} {t : Timestamp} (inside : t.seconds ∈ seconds) :
    Meets (movingCauses seconds known) (fun _ => True)
      (amounts.foldlM (fun t (shift : Int × Except BuildError Int) => shift.2 >>= move t shift.1) t) := by
  induction bounded generalizing seconds t with
  | nil => trivial
  | @cons shift bounds amounts known first later ih =>
    obtain ⟨unit, computation⟩ := shift
    obtain ⟨rfl, forward, computed⟩ : unit = bounds.unit ∧ _ := first
    rw [List.foldlM_cons]
    have moved := computed.bind fun amount inAmount => move_meets forward inAmount inside
    exact moved.bind fun moved inside => ih inside

theorem weekdayShift_of_given {spec : DateSpec} (given : spec.weekday ≠ .unset) (reference : Moment) :
    spec.weekdayShift captures reference =
      (valueOf captures 0 spec.weekday >>= fun weekday => word (weekday - reference.date.daysSinceMonday)) := by
  unfold weekdayShift
  split
  next unset => exact absurd unset given
  next => rfl

theorem weekdayShift_meets {spec : DateSpec} (met : spec.IsMet captures) (reference : Moment) :
    Meets (weekdayBounds spec.weekday).causes (· ∈ (weekdayBounds spec.weekday).amount)
      (weekdayShift spec captures reference) := by
  have value : Meets spec.weekday.causes (· ∈ spec.weekday.bounds (.only 0))
      (valueOf captures 0 spec.weekday) :=
    valueOf_meets (met.field (by simp [fields])) (Bounds.mem_only 0)
  have difference : Meets (spec.weekday.causes ++ causeUnless
        ((spec.weekday.bounds (.only 0) + ⟨-6, 0⟩).isWithin .words) .overflow)
      (· ∈ spec.weekday.bounds (.only 0) + ⟨-6, 0⟩)
      (valueOf captures 0 spec.weekday >>= fun weekday => word (weekday - reference.date.daysSinceMonday)) := by
    apply value.bind
    intro weekday inside
    rw [Int.sub_eq_add_neg]
    apply meets_of_fitsWord
    apply Bounds.add_mem inside
    unfold Date.daysSinceMonday
    constructor
    · simp only
      omega
    · simp only
      omega
  unfold weekdayBounds weekdayShift
  cases given : spec.weekday with
  | unset => exact Bounds.mem_only 0
  | literal | capture | lastDay =>
    rw [given] at difference
    exact difference

/-- The causes that building a description can fail for, when the reference lies in one of the years. -/
def causes (spec : DateSpec) (years : Bounds) : List BuildError :=
  anchorCauses spec years ++ movingCauses (secondsOf (monthBounds spec years).1) (shiftBounds spec)

theorem monthCauses_subset_causes (spec : DateSpec) (years : Bounds) :
    monthCauses spec years ⊆ spec.causes years :=
  fun _ isCause => List.mem_append_left _ (List.mem_append_left _ isCause)

theorem weekdayCauses_subset_causes (spec : DateSpec) (years : Bounds) :
    (weekdayBounds spec.weekday).causes ⊆ spec.causes years :=
  fun _ isCause => List.mem_append_right _
    (causes_subset_movingCauses (show weekdayBounds spec.weekday ∈ shiftBounds spec by simp [shiftBounds])
      _ isCause)

theorem build_meets {spec : DateSpec} (met : spec.IsMet captures) {reference : Moment}
    (inYears : reference.date.year ∈ years) :
    Meets (spec.causes years) (fun _ => True) (spec.build captures reference) := by
  rw [build_eq]
  apply (anchor_meets met inYears).bind
  intro t inside
  apply foldlM_move_meets _ inside
  have field (unit : Int) (forward : 0 ≤ unit) (shift : Field) (member : shift ∈ spec.fields) :
      unit = (ShiftBounds.ofField unit shift).unit ∧ 0 ≤ (ShiftBounds.ofField unit shift).unit ∧
        Meets (ShiftBounds.ofField unit shift).causes (· ∈ (ShiftBounds.ofField unit shift).amount)
          (valueOf captures 0 shift) :=
    ⟨rfl, forward, valueOf_meets (met.field member) (Bounds.mem_only 0)⟩
  have weekday : secondsPerDay = (weekdayBounds spec.weekday).unit := by
    unfold weekdayBounds
    split <;> rfl
  have day : (0 : Int) ≤ secondsPerDay := by decide
  unfold shifts shiftBounds
  refine .cons (field (7 * secondsPerDay) (by decide) spec.weekShift (by simp [fields])) ?_
  refine .cons (field secondsPerDay day spec.dayShift (by simp [fields])) ?_
  refine .cons ⟨weekday, weekday ▸ day, weekdayShift_meets met reference⟩ ?_
  refine .cons (field 3600 (by decide) spec.hourShift (by simp [fields])) ?_
  refine .cons (field 60 (by decide) spec.minuteShift (by simp [fields])) ?_
  exact .cons (field 60 (by decide) spec.secondShift (by simp [fields])) .nil

end DateSpec

end TurkishDates
