import TurkishDates.Calendar.Timestamp
import TurkishDates.Text.Blank
import TurkishDates.Text.Digits

/-!
Written dates and times. A year has at least four digits; years beyond 9999 carry a plus sign and years
before 0 a minus sign. A fraction of a second has three, six or nine digits, and a leap second is the
second 60 of its minute. Reading allows one or two digits in the other parts and blanks before a number,
and no fraction.
-/

namespace TurkishDates

def writtenYear (year : Int) : Text :=
  if year < 0 then '-' :: paddedDigits 4 year.natAbs
  else if year ≤ 9999 then paddedDigits 4 year.natAbs
  else '+' :: paddedDigits 4 year.natAbs

namespace Date

def text (date : Date) : Text :=
  writtenYear date.year ++ '-' :: paddedDigits 2 date.month.toNat ++
    '-' :: paddedDigits 2 date.day.toNat

end Date

namespace Moment

/-- As many digits as the fraction needs, but three at a time. -/
def fractionText (nanoseconds : Nat) : Text :=
  if nanoseconds = 0 then []
  else if nanoseconds % 1000000 = 0 then '.' :: paddedDigits 3 (nanoseconds / 1000000)
  else if nanoseconds % 1000 = 0 then '.' :: paddedDigits 6 (nanoseconds / 1000)
  else '.' :: paddedDigits 9 nanoseconds

def clockText (m : Moment) : Text :=
  let second := if m.isLeap then m.second.toNat + 1 else m.second.toNat
  paddedDigits 2 m.hour.toNat ++ ':' :: paddedDigits 2 m.minute.toNat ++
    ':' :: paddedDigits 2 second ++ fractionText m.fraction

def text (separator : Char) (m : Moment) : Text := m.date.text ++ separator :: m.clockText

/-- A number of at most `width` digits after any blanks, and what follows it. -/
def readNumber? (width : Nat) (t : Text) : Option (Int × Text) :=
  let t := t.trimLeft
  let digits := (t.takeWhile isDigit).take width
  if digits.isEmpty then none else some (digitsValue digits, t.drop digits.length)

/-- A year has at most four digits unless it carries a sign. -/
def readYear? (t : Text) : Option (Int × Text) :=
  match t.trimLeft with
  | '+' :: rest => readSigned 1 rest
  | '-' :: rest => readSigned (-1) rest
  | rest => readNumber? 4 rest
where
  readSigned (sign : Int) (t : Text) : Option (Int × Text) :=
    let digits := t.takeWhile isDigit
    if digits.isEmpty then none else some (sign * digitsValue digits, t.drop digits.length)

def readChar? (c : Char) : Text → Option Text
  | [] => none
  | d :: t => if d = c then some t else none

/-- Reads a year, month, day, hour, minute and second in this order, with a dash, `T` or colon between
them and nothing after them. -/
def read? (t : Text) : Option Moment := do
  let (year, t) ← readYear? t
  let t ← readChar? '-' t
  let (month, t) ← readNumber? 2 t
  let t ← readChar? '-' t
  let (day, t) ← readNumber? 2 t
  let t ← readChar? 'T' t
  let (hour, t) ← readNumber? 2 t
  let t ← readChar? ':' t
  let (minute, t) ← readNumber? 2 t
  let t ← readChar? ':' t
  let (second, t) ← readNumber? 2 t
  if !t.isEmpty then none
  else
    let date ← Date.ofParts? year month day
    if second = 60 then of? (← Timestamp.ofParts? date hour minute 59) nanosecondsPerSecond
    else of? (← Timestamp.ofParts? date hour minute second) 0

end Moment

example : ((Moment.read? "2021-06-15T12:00:00".toList).map (Moment.text ' ')) =
    some "2021-06-15 12:00:00".toList := by decide

example : ((Moment.read? "-4-2-29T8:00:60".toList).map (Moment.text 'T')) =
    some "-0004-02-29T08:00:60".toList := by decide

example : Moment.fractionText 500000000 = ".500".toList ∧ Moment.fractionText 1500 = ".000001500".toList := by
  decide

end TurkishDates
