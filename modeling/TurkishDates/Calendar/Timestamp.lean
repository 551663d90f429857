import TurkishDates.Calendar.Date

/-!
Points in time without a time zone. They are counted in seconds, so shifting one is addition, and each
lies between the first second of the earliest year and the last of the latest.

What expressions are read relative to is a moment: a point in time with a fraction of a second. Rules of
the grammar drop the fraction, so what they describe is a point in time to the second.
-/

namespace TurkishDates

def secondsPerDay : Int := 86400

def earliestSecond : Int := secondsPerDay * Date.dayNumber ⟨earliestYear, 1, 1⟩

def latestSecond : Int := secondsPerDay * Date.dayNumber ⟨latestYear, 12, 31⟩ + (secondsPerDay - 1)

structure Timestamp where
  seconds : Int
  representable : earliestSecond ≤ seconds ∧ seconds ≤ latestSecond
deriving DecidableEq

namespace Timestamp

def ofSeconds? (seconds : Int) : Option Timestamp :=
  if h : earliestSecond ≤ seconds ∧ seconds ≤ latestSecond then some ⟨seconds, h⟩ else none

def ofParts? (date : Date) (hour minute second : Int) : Option Timestamp :=
  if 0 ≤ hour ∧ hour < 24 ∧ 0 ≤ minute ∧ minute < 60 ∧ 0 ≤ second ∧ second < 60 then
    ofSeconds? (secondsPerDay * date.dayNumber + 3600 * hour + 60 * minute + second)
  else none

def shift? (t : Timestamp) (amount : Int) : Option Timestamp := ofSeconds? (t.seconds + amount)

def date (t : Timestamp) : Date := Date.ofDayNumber (t.seconds / secondsPerDay)

def secondOfDay (t : Timestamp) : Int := t.seconds % secondsPerDay

def hour (t : Timestamp) : Int := t.secondOfDay / 3600

def minute (t : Timestamp) : Int := t.secondOfDay / 60 % 60

def second (t : Timestamp) : Int := t.secondOfDay % 60

theorem ofSeconds?_eq_some_iff {seconds : Int} {t : Timestamp} :
    ofSeconds? seconds = some t ↔ t.seconds = seconds := by
  simp only [ofSeconds?]
  constructor
  · intro h
    split at h
    · cases h
      rfl
    · cases h
  · intro h
    subst h
    rw [dif_pos t.representable]

theorem seconds_of_shift? {t later : Timestamp} {amount : Int} (h : t.shift? amount = some later) :
    later.seconds = t.seconds + amount :=
  ofSeconds?_eq_some_iff.mp h

end Timestamp

def nanosecondsPerSecond : Nat := 1000000000

/-- A point in time and the nanoseconds gone by in its second. A leap second has no number of its own: its
nanoseconds are counted on in the last second of its minute. -/
structure Moment extends Timestamp where
  nanoseconds : Nat
  inSecond : nanoseconds < nanosecondsPerSecond ∨
    seconds % 60 = 59 ∧ nanoseconds < 2 * nanosecondsPerSecond
deriving DecidableEq

def Timestamp.toMoment (t : Timestamp) : Moment := ⟨t, 0, .inl (by decide)⟩

instance : Coe Timestamp Moment := ⟨Timestamp.toMoment⟩

namespace Moment

/-- Later seconds are later, and in one second what has more nanoseconds. -/
instance : LE Moment :=
  ⟨fun m later => m.seconds < later.seconds ∨
    m.seconds = later.seconds ∧ m.nanoseconds ≤ later.nanoseconds⟩

instance (m later : Moment) : Decidable (m ≤ later) :=
  inferInstanceAs (Decidable (m.seconds < later.seconds ∨
    m.seconds = later.seconds ∧ m.nanoseconds ≤ later.nanoseconds))

def of? (t : Timestamp) (nanoseconds : Nat) : Option Moment :=
  if h : nanoseconds < nanosecondsPerSecond ∨ t.seconds % 60 = 59 ∧ nanoseconds < 2 * nanosecondsPerSecond then
    some ⟨t, nanoseconds, h⟩
  else none

def isLeap (m : Moment) : Bool := nanosecondsPerSecond ≤ m.nanoseconds

def fraction (m : Moment) : Fin nanosecondsPerSecond :=
  ⟨m.nanoseconds % nanosecondsPerSecond, Nat.mod_lt _ (by decide)⟩

/-- The moment that lies `amount` seconds later, when it is representable. On the way back a leap second
counts as the second after it. -/
def shift? (m : Moment) (amount : Int) : Option Moment :=
  if amount = 0 then some m
  else
    let second := if m.isLeap ∧ amount < 0 then m.seconds + 1 else m.seconds
    (Timestamp.ofSeconds? (second + amount)).bind (of? · m.fraction)

theorem toTimestamp_eq_iff {m : Moment} : (m.toTimestamp : Moment) = m ↔ m.nanoseconds = 0 := by
  obtain ⟨t, nanoseconds, inSecond⟩ := m
  constructor
  · intro whole
    exact (congrArg Moment.nanoseconds whole).symm
  · intro whole
    cases whole
    rfl

theorem shift?_of_whole {m : Moment} (whole : m.nanoseconds = 0) (amount : Int) :
    m.shift? amount = (m.toTimestamp.shift? amount).map Timestamp.toMoment := by
  obtain ⟨t, nanoseconds, inSecond⟩ := m
  cases whole
  by_cases still : amount = 0
  · have here : t.shift? 0 = some t := Timestamp.ofSeconds?_eq_some_iff.mpr (Int.add_zero t.seconds).symm
    rw [shift?, if_pos still, still, here]
    rfl
  · rw [shift?, if_neg still, Timestamp.shift?, Option.map_eq_bind]
    rfl

theorem toMoment_le {t : Timestamp} {m : Moment} : (t : Moment) ≤ m ↔ t.seconds ≤ m.seconds := by
  change t.seconds < m.seconds ∨ t.seconds = m.seconds ∧ 0 ≤ m.nanoseconds ↔ _
  omega

theorem le_toMoment {t : Timestamp} {m : Moment} :
    m ≤ (t : Moment) ↔ m.seconds < t.seconds ∨ m.seconds = t.seconds ∧ m.nanoseconds = 0 := by
  change m.seconds < t.seconds ∨ m.seconds = t.seconds ∧ m.nanoseconds ≤ 0 ↔ _
  omega

end Moment

end TurkishDates
