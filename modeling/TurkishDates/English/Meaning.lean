import TurkishDates.Calendar.Timestamp
import TurkishDates.English.Phrase

/-!
The point in time that an English phrase means relative to a reference.
-/

namespace TurkishDates

namespace English

namespace Clock

def midnight : Clock := ⟨0, 0, 0, 0, 0⟩

def on (clock : Clock) (date : Date) : Option Moment := do
  let t ← Timestamp.ofParts? date clock.hour clock.minute clock.second
  Moment.of? (← t.shift? (-clock.ahead)) (1000 * clock.millionths)

end Clock

/-- The latest date of a month from `day` on downwards, but not before the 28th. -/
def backedOff? (year month : Int) (day : Int) : Option Date :=
  [day, day - 1, day - 2, day - 3].findSome? fun day' =>
    if day' = day ∨ 28 ≤ day' then Date.ofParts? year month day' else none

/-- Moves by months counted from 0. Below January the months are counted from December of an earlier
year, and a number of months that ends in January there has no date. -/
def monthAt (year months : Int) : Int × Int :=
  if 0 ≤ months then (year + months / 12, months % 12 + 1)
  else
    let back := 12 - months
    (year - back / 12, 12 - back % 12 + 1)

/-- How far a candidate moves on for `next` and back for `last`. The reference may lie a fraction after its
whole number, the candidate does not. -/
def correction (direction : Direction) (candidate reference : Int) (nanoseconds : Nat) : Int :=
  match direction with
  | .next => if candidate < reference ∨ candidate = reference ∧ 0 < nanoseconds then 1 else 0
  | .last => if reference < candidate then -1 else 0
  | .here => 0

namespace DatePhrase

def skipBy (reference : Moment) (clock : Option Clock) (count : Int) : TimeUnit → Option Moment
  | .seconds n => reference.shift? (n * count)
  | .days n => do
      let t ← reference.shift? (secondsPerDay * n * count)
      match clock with
      | none => return t
      | some clock => clock.on t.date
  | .months n => do
      let today := reference.date
      let target := monthAt today.year (today.month - 1 + signed (n * count))
      let date ← backedOff? target.1 target.2 today.day
      (clock.getD .midnight).on date

/-- A weekday without a direction is the next one. With `next` it lies one week further on where days are
written first. On the same weekday the time of day decides. -/
def weekdayAt (dialect : Dialect) (reference : Moment) (clock : Clock) (day : Nat)
    (direction : Direction) : Option Moment := do
  let today := (reference.date.daysSinceMonday + 1) % 7
  let towards := if direction = .here then .next else direction
  let extra : Int := if direction = .next ∧ dialect = .dayFirst then 1 else 0
  let ahead := (day : Int) - today
  let weeks :=
    if ahead = 0 then
      correction towards (3600 * clock.hour + 60 * clock.minute + clock.second) reference.secondOfDay
        reference.nanoseconds
    else correction towards ahead 0 0
  let t ← reference.shift? (secondsPerDay * (ahead + 7 * (weeks + extra)))
  clock.on t.date

/-- A day of the reference year, moved by a year where the direction asks for it. Whatever the time of day
that is wanted, the day counts as earlier or later by its first second. -/
def dayAt (reference : Moment) (clock : Clock) (day month : Nat) (direction : Direction) :
    Option Moment := do
  let year := reference.date.year
  let date ← Date.ofParts? year month day
  let years :=
    correction direction (secondsPerDay * date.dayNumber) reference.seconds reference.nanoseconds
  let date ← Date.ofParts? (year + years) month day
  clock.on date

def on (dialect : Dialect) (reference : Moment) (clock : Option Clock) :
    DatePhrase → Option Moment
  | .absolute y m d => do
      let date ← Date.ofParts? (signed y) m d
      (clock.getD .midnight).on date
  | .skip unit count => skipBy reference clock count unit
  | .weekday d direction => weekdayAt dialect reference (clock.getD .midnight) d direction
  | .month m direction => dayAt reference (clock.getD .midnight) 1 m direction
  | .dayMonth d m direction => dayAt reference (clock.getD .midnight) d m direction

end DatePhrase

def Phrase.time? (dialect : Dialect) (reference : Moment) (phrase : Phrase) : Option Moment :=
  match phrase.date, phrase.clock with
  | some date, clock => date.on dialect reference clock
  | none, some clock => clock.on reference.date
  | none, none => none

def parse (dialect : Dialect) (t : Text) (reference : Moment) : Option Moment :=
  if t.all fun c => c.toNat < 128 then do
    let phrase ← Phrase.read? dialect t
    phrase.time? dialect reference
  else none

end English

end TurkishDates
