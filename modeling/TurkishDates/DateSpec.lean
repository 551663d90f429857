import TurkishDates.Calendar.Names
import TurkishDates.Calendar.Timestamp
import TurkishDates.Text.Digits

/-!
Points in time described relative to a reference. Each part of the date and of the time of day is given,
read from a captured text, or taken from the reference; then weeks, days, hours and minutes are added.

All numbers are words of 64 bits. Where a sum is checked, one that does not fit makes the description
fail like a date that does not exist; everywhere else it is the separate failure `overflow`.
-/

namespace TurkishDates

/-- The matched text and its captured pieces, counted from 1; a piece may have taken no part. -/
structure Captures where
  whole : Text
  groups : List (Option Text)
deriving DecidableEq, Repr

def Captures.group? (captures : Captures) (index : Nat) : Option Text :=
  match index with
  | 0 => some captures.whole
  | i + 1 => (captures.groups[i]?).join

inductive BuildError where
  | missingGroup
  | malformedNumber
  | numberTooLarge
  | unknownName
  | misplacedLastDay
  | noSuchDate
  | noSuchTime
  | outOfRange
  | overflow
deriving DecidableEq, Repr

inductive NameTable where
  | weekdays
  | months
deriving DecidableEq, Repr

/-- A number read from a captured text: looked up or spelled, then negated, then moved by `offset`. -/
structure Capture where
  group : Nat
  names : Option NameTable
  negated : Bool
  offset : Int
deriving DecidableEq, Repr

inductive Field where
  | unset
  | literal (value : Int)
  | capture (source : Capture)
  | lastDay
deriving DecidableEq, Repr

inductive YearRounding where
  | off
  | ownMonth
  | pivot (month : Int)
deriving DecidableEq, Repr

/-- A description with nothing set describes the second of the reference. The shift of seconds counts
minutes, like the shift of minutes. -/
structure DateSpec where
  year : Field := .unset
  month : Field := .unset
  day : Field := .unset
  hour : Field := .unset
  minute : Field := .unset
  second : Field := .unset
  yearShift : Field := .unset
  monthShift : Field := .unset
  weekShift : Field := .unset
  dayShift : Field := .unset
  hourShift : Field := .unset
  minuteShift : Field := .unset
  secondShift : Field := .unset
  weekday : Field := .unset
  rounding : YearRounding := .off
deriving DecidableEq, Repr

instance (n : Nat) : OfNat Field n := ⟨.literal n⟩

def group (index : Nat) : Field := .capture ⟨index, none, false, 0⟩

def weekdayOf (index : Nat) : Field := .capture ⟨index, some .weekdays, false, 0⟩

def monthOf (index : Nat) : Field := .capture ⟨index, some .months, false, 0⟩

namespace Field

instance : Neg Field where
  neg
    | .literal value => .literal (-value)
    | .capture source => .capture { source with negated := !source.negated }
    | .unset => .unset
    | .lastDay => .lastDay

/-- The captured number moved further, after any negation. -/
def plus (field : Field) (offset : Int) : Field :=
  match field with
  | .literal value => .literal (value + offset)
  | .capture source => .capture { source with offset := source.offset + offset }
  | .unset => .unset
  | .lastDay => .lastDay

end Field

namespace DateSpec

def startOfDay (spec : DateSpec) : DateSpec := { spec with hour := 0, minute := 0, second := 0 }

def endOfDay (spec : DateSpec) : DateSpec := { spec with hour := 23, minute := 59, second := 59 }

/-- The result of arithmetic that is not checked. -/
def word (n : Int) : Except BuildError Int := if fitsWord n then .ok n else .error .overflow

/-- The result of arithmetic that is checked. -/
def checked (n : Int) : Except BuildError Int := if fitsWord n then .ok n else .error .numberTooLarge

def found {α : Type} (error : BuildError) : Option α → Except BuildError α
  | some a => .ok a
  | none => .error error

def readNumeral (text : Text) : Except BuildError Int :=
  match readNumber text with
  | .ok n => .ok n
  | .error .malformed => .error .malformedNumber
  | .error .tooLarge => .error .numberTooLarge

def readCapture (captures : Captures) (source : Capture) : Except BuildError Int := do
  let text ← found .missingGroup (captures.group? source.group)
  let value ← match source.names with
    | none => readNumeral text
    | some .weekdays => found .unknownName (weekdayOffset? text)
    | some .months => found .unknownName (monthNumber? text)
  let value ← if source.negated then word (-value) else .ok value
  checked (value + source.offset)

def valueOf (captures : Captures) (unset : Int) : Field → Except BuildError Int
  | .unset => .ok unset
  | .literal value => .ok value
  | .capture source => readCapture captures source
  | .lastDay => .error .misplacedLastDay

def pivotMonth (rounding : YearRounding) (month : Int) : Option Int :=
  match rounding with
  | .off => none
  | .ownMonth => some month
  | .pivot month => some month

/-- The year moves back when the deciding month lies after the reference month. -/
def roundYear (rounding : YearRounding) (year month referenceMonth : Int) : Except BuildError Int :=
  match pivotMonth rounding month with
  | none => .ok year
  | some pivot => if referenceMonth < pivot then word (year - 1) else .ok year

/-- Every number that shifting a month computes on the way. -/
def shiftSteps (year month delta : Int) : List Int :=
  [delta.natAbs, year + delta.tdiv 12, month + delta.tmod 12,
    (shiftMonths year month delta).1, (shiftMonths year month delta).2]

def applyMonthShift (captures : Captures) (shift : Field) (year month : Int) :
    Except BuildError (Int × Int) :=
  match shift with
  | .unset => .ok (year, month)
  | field => do
      let delta ← valueOf captures 0 field
      if (shiftSteps year month delta).all fitsWord then .ok (shiftMonths year month delta)
      else .error .overflow

def yearAndMonth (spec : DateSpec) (captures : Captures) (today : Date) :
    Except BuildError (Int × Int) := do
  let year ← valueOf captures today.year spec.year
  let month ← valueOf captures today.month spec.month
  let year ← roundYear spec.rounding year month today.month
  let year ← checked (year + (← valueOf captures 0 spec.yearShift))
  applyMonthShift captures spec.monthShift year month

def dayOf (spec : DateSpec) (captures : Captures) (today : Date) (year month : Int) :
    Except BuildError Int :=
  match spec.day with
  | .lastDay => found .noSuchDate (daysInMonth? year month)
  | field => valueOf captures today.day field

/-- The point in time before any weeks, days, hours or minutes are added. Of the reference it takes the hour,
the minute and the second, and no fraction. -/
def anchor (spec : DateSpec) (captures : Captures) (reference : Moment) :
    Except BuildError Timestamp := do
  let (year, month) ← yearAndMonth spec captures reference.date
  let day ← dayOf spec captures reference.date year month
  let hour ← valueOf captures reference.hour spec.hour
  let minute ← valueOf captures reference.minute spec.minute
  let second ← valueOf captures reference.second spec.second
  let date ← found .noSuchDate (Date.ofParts? year month day)
  found .noSuchTime (Timestamp.ofParts? date hour minute second)

def move (t : Timestamp) (unit amount : Int) : Except BuildError Timestamp :=
  found .outOfRange (t.shift? (unit * amount))

/-- The days from the reference's weekday to the weekday asked for, in the same week. -/
def weekdayShift (spec : DateSpec) (captures : Captures) (reference : Moment) :
    Except BuildError Int :=
  match spec.weekday with
  | .unset => .ok 0
  | field => do word ((← valueOf captures 0 field) - reference.date.daysSinceMonday)

def build (spec : DateSpec) (captures : Captures) (reference : Moment) :
    Except BuildError Timestamp := do
  let t ← anchor spec captures reference
  let t ← move t (7 * secondsPerDay) (← valueOf captures 0 spec.weekShift)
  let t ← move t secondsPerDay (← valueOf captures 0 spec.dayShift)
  let t ← move t secondsPerDay (← weekdayShift spec captures reference)
  let t ← move t 3600 (← valueOf captures 0 spec.hourShift)
  let t ← move t 60 (← valueOf captures 0 spec.minuteShift)
  move t 60 (← valueOf captures 0 spec.secondShift)

end DateSpec

end TurkishDates
