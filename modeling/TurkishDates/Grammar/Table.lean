import TurkishDates.Grammar.Days
import TurkishDates.Grammar.Moments
import TurkishDates.Grammar.Months
import TurkishDates.Grammar.Recurrences
import TurkishDates.Grammar.Weeks
import TurkishDates.Grammar.WrittenDates
import TurkishDates.Grammar.Years

/-!
The grammar: all rules in the order in which they are tried.
-/

namespace TurkishDates

namespace Grammar

def instantRules : List Rule :=
  [now, minutesBefore, minutesAfter, clock, eveningHour, inTheEvening, morningHour, inTheMorning,
    dayAfterTomorrow, nextWeekday, previousWeekday, daysLater, daysBefore, dayMonth, monthEnd,
    monthStart, thisMonthStart, previousMonthStart, thisMonthEnd, dayOfThisMonth,
    dayOfPreviousMonth, weeksLaterAtWeekday, weeksBeforeAtWeekday]

def spanRules : List Rule :=
  [dayMonthYear, monthYear, today, yesterday, tomorrow, newYear, valentinesDay, republicDay,
    childrensDay, labourDay, thisWeek, lastWeek, lastWeeks, lastDays, weekdays, weekend, thisYear,
    lastYear, lastYearMonth, oneYearLater, yearsBefore, thisMonth, nextMonth, previousMonth,
    monthsBefore, lastMonths, inMonth, month, sinceMonth, sinceDayMonth, previousMonthUntilToday,
    betweenMonths, dayMonthToDayMonth, numericDateRange, numericDate, dayMonthYearToDayMonthYear,
    dayToDayMonthYear, dayToDayMonth, dayMonthYearToDayMonth, dayMonthToDayMonthYear,
    firstMonthsOfYear, lastMonthsOfYear, firstWeekOfMonth, wholeYear, lastYears, summer, winter,
    spring, autumn]

def recurrenceRules : List Rule :=
  [everyWeekday, everyWeek, everyMonth, everyDayOfMonth, everyMonthOfYear]

end Grammar

/-- Rules for instants come before rules for spans, and these before rules for recurrences. -/
def grammar : List Rule := Grammar.instantRules ++ Grammar.spanRules ++ Grammar.recurrenceRules

end TurkishDates
