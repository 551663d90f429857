import TurkishDates.English.Token

/-!
English phrases for dates and times of day: `next friday 8pm`, `3 days ago`, `april 1, 2018`,
`2021-06-15 08:20`. The date comes first and the time of day may follow; what follows the time is not
read.
-/

namespace TurkishDates

namespace English

/-- Whether a date in digits names the day first or the month. -/
inductive Dialect where
  | dayFirst
  | monthFirst
deriving DecidableEq, Repr

inductive Direction where
  | here
  | next
  | last
deriving DecidableEq, Repr

inductive TimeUnit where
  | seconds (count : Int)
  | days (count : Int)
  | months (count : Int)
deriving DecidableEq, Repr

/-- Weekdays count from Sunday as 0, months from January as 1. -/
inductive DatePhrase where
  | absolute (year month day : Nat)
  | skip (unit : TimeUnit) (count : Int)
  | weekday (day : Nat) (direction : Direction)
  | month (month : Nat) (direction : Direction)
  | dayMonth (day month : Nat) (direction : Direction)
deriving DecidableEq, Repr

/-- A time of day with millionths of a second, and the seconds by which its zone is ahead. -/
structure Clock where
  hour : Nat
  minute : Nat
  second : Nat
  millionths : Nat
  ahead : Int
deriving DecidableEq, Repr

structure Phrase where
  date : Option DatePhrase
  clock : Option Clock
deriving DecidableEq, Repr

inductive HourKind where
  | formal
  | informal
  | morning
  | afternoon
  | unknown
deriving DecidableEq, Repr

def weekdayWords : List Text :=
  ["sun", "mon", "tue", "wed", "thu", "fri", "sat"].map String.toList

def monthWords : List Text :=
  ["jan", "feb", "mar", "apr", "may", "jun", "jul", "aug", "sep", "oct", "nov", "dec"].map String.toList

/-- Only the first three letters of a name count. -/
def weekday? (word : Text) : Option Nat := weekdayWords.idxOf? (word.take 3)

def month? (word : Text) : Option Nat := (monthWords.idxOf? (word.take 3)).map (· + 1)

/-- Words of one or two letters stand for a unit by their first letter, longer ones by their first
three. -/
def unit? (word : Text) : Option TimeUnit :=
  match if word.length < 3 then word.take 1 else word.take 3 with
  | ['s'] | ['s', 'e', 'c'] => some (.seconds 1)
  | ['m'] | ['m', 'i', 'n'] => some (.seconds 60)
  | ['h'] | ['h', 'o', 'u'] => some (.seconds 3600)
  | ['d'] | ['d', 'a', 'y'] => some (.days 1)
  | ['w'] | ['w', 'e', 'e'] => some (.days 7)
  | ['m', 'o', 'n'] => some (.months 1)
  | ['y'] | ['y', 'e', 'a'] => some (.months 12)
  | _ => none

/-- A number of 32 bits taken with a sign, as years and counts are. -/
def signed (n : Int) : Int := Int.bmod n (Nat.pow 2 32)

/-- The afternoon adds twelve to any hour. An hour is a number of 32 bits. -/
def afternoon (hour : Nat) : Nat := (hour + 12) % Nat.pow 2 32

def offsetSeconds (hours minutes : Nat) : Nat := 60 * (minutes + 60 * hours) % Nat.pow 2 32

/-- A step of reading, which consumes text or finds it unreadable. -/
abbrev Reading := StateT Text Option

namespace Reading

def token : Reading Token := fun t => some (nextToken t)

def fail {α : Type} : Reading α := fun _ => none

def follows (c : Char) : Reading Bool := fun t =>
  match t with
  | d :: rest => if d = c then some (true, rest) else some (false, t)
  | [] => some (false, t)

def asInteger : Token → Reading Nat
  | .integer n => if n < Nat.pow 2 32 then pure n else fail
  | _ => fail

def integer : Reading Nat := do asInteger (← token)

def symbol (c : Char) : Reading Unit := do
  if (← token) = .symbol c then pure () else fail

/-- Years of two digits lie between 1941 and 2040. -/
def century (year : Nat) : Nat :=
  if year < 100 then if 40 < year then 1900 + year else 2000 + year else year

def isoDate (year : Nat) : Reading DatePhrase := do
  let month ← integer
  symbol '-'
  return .absolute year month (← integer)

def slashDate (dialect : Dialect) (direction : Direction) (first : Nat) : Reading DatePhrase := do
  let second ← integer
  let (day, month) := match dialect with
    | .dayFirst => (first, second)
    | .monthFirst => (second, first)
  if ← follows '/' then return .absolute (century (← integer)) month day
  else return .dayMonth day month direction

/-- The token after a month's name is its day, or it is passed over. -/
def afterMonth (month : Nat) (direction : Direction) : Reading DatePhrase := do
  match ← token with
  | .integer n => do
      let day ← asInteger (.integer n)
      if ← follows ',' then return .absolute (← integer) month day
      else return .dayMonth day month direction
  | _ => return .month month direction

/-- The token after a day and a month is the year, or it is passed over. -/
def afterDayMonth (day month : Nat) (direction : Direction) : Reading DatePhrase := do
  match ← token with
  | .integer n => return if n < Nat.pow 2 32 then .absolute n month day else .dayMonth day month direction
  | _ => return .dayMonth day month direction

/-- A counted unit goes back with a minus sign in front or `ago` behind; the hour of a time may follow. -/
def counted (negative : Bool) (n : Nat) (unit : TimeUnit) :
    Reading (DatePhrase × Option (Nat × HourKind)) := do
  if negative then return (.skip unit (signed (-n)), none)
  match ← token with
  | .word word => if word = "ago".toList then return (.skip unit (signed (-n)), none) else fail
  | .integer hour => return (.skip unit (signed n), some (hour % Nat.pow 2 32, .unknown))
  | _ => return (.skip unit (signed n), none)

def afterNumber (dialect : Dialect) (negative : Bool) (direction : Direction) (n : Nat) :
    Reading (Option DatePhrase × Option (Nat × HourKind)) := do
  match ← token with
  | .finished => return (some (.absolute n 1 1), none)
  | .symbol '-' => return (some (← isoDate n), none)
  | .symbol '/' => return (some (← slashDate dialect direction n), none)
  | .symbol ':' => return (none, some (n, .formal))
  | .symbol '.' => return (none, some (n, .informal))
  | .word word =>
      match month? word, unit? word with
      | some month, _ => return (some (← afterDayMonth n month direction), none)
      | none, some unit => do
          let (date, hour) ← counted negative n unit
          return (some date, hour)
      | none, none =>
          if word = "am".toList then return (none, some (n, .morning))
          else if word = "pm".toList then return (none, some (n, .afternoon))
          else fail
  | _ => fail

def namedDate (direction : Direction) (word : Text) : Reading DatePhrase :=
  match weekday? word, month? word with
  | some day, _ => return .weekday day direction
  | none, some month => afterMonth month direction
  | none, none => fail

def dated (dialect : Dialect) (negative : Bool) (direction : Direction) :
    Token → Reading (Option DatePhrase × Option (Nat × HourKind))
  | .word word => return (some (← namedDate direction word), none)
  | .integer n => do afterNumber dialect negative direction (← asInteger (.integer n))
  | _ => fail

def dayWord? (word : Text) : Option Int :=
  if word = "now".toList || word = "today".toList then some 0
  else if word = "yesterday".toList then some (-1)
  else if word = "tomorrow".toList then some 1
  else none

def direction? (word : Text) : Option Direction :=
  if word = "next".toList then some .next else if word = "last".toList then some .last else none

def date (dialect : Dialect) : Reading (Option DatePhrase × Option (Nat × HourKind)) := do
  let first ← token
  let negative := first = .symbol '-'
  let first ← if negative then token else pure first
  match first with
  | .word word =>
      match dayWord? word, direction? word with
      | some days, _ => return (some (.skip (.days 1) days), none)
      | none, some direction => do dated dialect negative direction (← token)
      | none, none => dated dialect negative .here (.word word)
  | other => dated dialect negative .here other

/-- The hour with `am` or `pm`; the morning leaves every hour as it is. -/
def halfDay (word : Text) (hour : Nat) : Reading Nat :=
  if word = "pm".toList then pure (afternoon hour) else if word = "am".toList then pure hour else fail

def zone (sign : Int) : Reading Int := do
  let n ← integer
  if ← follows ':' then return sign * offsetSeconds n (← integer)
  else return sign * offsetSeconds (n / 100) (n % 100)

/-- The whole millionths of a fraction of a second, once it is rounded to the nearest number in binary. -/
def fraction : Reading Nat := fun t =>
  let digits := t.takeWhile isDigit
  let value := Float.ofScientific (digitsValue digits) true digits.length
  if digits.isEmpty then none else some ((value * 1000000.0).toUInt32.toNat, t.dropWhile isDigit)

def afterSeconds (hour minute second millionths : Nat) : Token → Reading Clock
  | .symbol '+' => return ⟨hour, minute, second, millionths, ← zone 1⟩
  | .symbol '-' => return ⟨hour, minute, second, millionths, ← zone (-1)⟩
  | .symbol _ => fail
  | .word word =>
      if word = ['Z'] then return ⟨hour, minute, second, millionths, 0⟩
      else return ⟨← halfDay word hour, minute, second, millionths, 0⟩
  | _ => return ⟨hour, minute, second, millionths, 0⟩

def formalTime (hour : Nat) : Reading Clock := do
  let minute ← integer
  match ← token with
  | .symbol ':' => do
      let second ← integer
      match ← token with
      | .symbol '.' => do
          let millionths ← fraction
          afterSeconds hour minute second millionths (← token)
      | next => afterSeconds hour minute second 0 next
  | .symbol _ => fail
  | next => afterSeconds hour minute 0 0 next

def informalTime (hour : Nat) : Reading Clock := do
  let minute ← integer
  match ← token with
  | .finished => return ⟨hour, minute, 0, 0, 0⟩
  | .word word => return ⟨← halfDay word hour, minute, 0, 0, 0⟩
  | _ => fail

def afterHour (hour : Nat) : Token → Reading Clock
  | .symbol ':' => formalTime hour
  | .symbol '.' => informalTime hour
  | .word word => return ⟨← halfDay word hour, 0, 0, 0, 0⟩
  | _ => fail

def clock : Option (Nat × HourKind) → Reading (Option Clock)
  | some (hour, .formal) => some <$> formalTime hour
  | some (hour, .informal) => some <$> informalTime hour
  | some (hour, .morning) => return some ⟨hour, 0, 0, 0, 0⟩
  | some (hour, .afternoon) => return some ⟨afternoon hour, 0, 0, 0, 0⟩
  | some (hour, .unknown) => do
      match ← token with
      | .symbol ':' => some <$> formalTime hour
      | .symbol '.' => some <$> informalTime hour
      | _ => fail
  | none => do
      let first ← token
      let first ← if first = .word ['T'] then token else pure first
      match first with
      | .finished => return none
      | other => do
          let hour ← asInteger other
          some <$> afterHour hour (← token)

def phrase (dialect : Dialect) : Reading Phrase := do
  let (date, hour) ← date dialect
  return ⟨date, ← clock hour⟩

end Reading

def Phrase.read? (dialect : Dialect) (t : Text) : Option Phrase :=
  (Reading.phrase dialect t).map (·.1)

end English

end TurkishDates
