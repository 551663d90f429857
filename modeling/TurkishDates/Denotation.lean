import TurkishDates.Calendar.Timestamp
import TurkishDates.Text.Basic

/-!
What an expression of time denotes: an instant, a span of time with both ends included, or a recurrence
without an end.
-/

namespace TurkishDates

inductive RecurrenceUnit where
  | week
  | month
  | year
deriving DecidableEq, Repr

def RecurrenceUnit.label : RecurrenceUnit → String
  | .week => "week"
  | .month => "month"
  | .year => "year"

/-- The anchor is a weekday or month name or the number of a day. -/
inductive Denotation where
  | instant (time : Moment)
  | span (start stop : Timestamp)
  | recurrence (unit : RecurrenceUnit) (anchor : Text)
deriving DecidableEq

inductive DenotationKind where
  | instant
  | span
  | recurrence
deriving DecidableEq, Repr

def DenotationKind.label : DenotationKind → String
  | .instant => "datetime"
  | .span => "date-span"
  | .recurrence => "date-period"

inductive Endpoint where
  | time (moment : Moment)
  | recurrence (unit : RecurrenceUnit) (anchor : Text)
deriving DecidableEq

namespace Denotation

def kind : Denotation → DenotationKind
  | .instant _ => .instant
  | .span _ _ => .span
  | .recurrence _ _ => .recurrence

def first : Denotation → Endpoint
  | .instant time => .time time
  | .span start _ => .time start
  | .recurrence unit anchor => .recurrence unit anchor

def last : Denotation → Endpoint
  | .instant time => .time time
  | .span _ stop => .time stop
  | .recurrence unit anchor => .recurrence unit anchor

end Denotation

end TurkishDates
