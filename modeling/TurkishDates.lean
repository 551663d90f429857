import TurkishDates.Main
import TurkishDates.Proofs.Grammar.CaptureFree
import TurkishDates.Proofs.Grammar.SpanOrder
import TurkishDates.Proofs.Numeral.Spelling
import TurkishDates.Proofs.Resolution.Stability
import TurkishDates.Proofs.Tagging.Comparison
import TurkishDates.Proofs.Tagging.DoubledSpace
import TurkishDates.Proofs.Tagging.LetterCase
import TurkishDates.Proofs.Tagging.Partition
import TurkishDates.Proofs.Tagging.Policies
import TurkishDates.Proofs.Written.Dates
import TurkishDates.Proofs.Tagging.WholeExpression
import TurkishDates.Proofs.Resolution.Recurrences
import TurkishDates.Proofs.Calendar.WholeMonths
import TurkishDates.Proofs.DateSpec.WholeMonths
import TurkishDates.Proofs.Grammar.Seasons
import TurkishDates.Proofs.DateSpec.Shifts
import TurkishDates.Proofs.Resolution.Phrases
import TurkishDates.Proofs.Resolution.CountedTime
import TurkishDates.Proofs.Resolution.MonthSpans
import TurkishDates.Proofs.Resolution.Weeks
import TurkishDates.Proofs.DateSpec.CapturedDays
import TurkishDates.Proofs.Grammar.ReversedSpans
import TurkishDates.Proofs.Resolution.LastSpans
import TurkishDates.Proofs.Resolution.RecurrenceAnchors
import TurkishDates.Proofs.Grammar.TimesOfDay
import TurkishDates.Proofs.Grammar.MonthsOfYear
import TurkishDates.Proofs.Numeral.Sequences
import TurkishDates.Proofs.Numeral.Zeros
import TurkishDates.Proofs.Numeral.Decimals
import TurkishDates.Proofs.Numeral.WordNumerals
import TurkishDates.Proofs.DateSpec.LastDay
import TurkishDates.Proofs.Numeral.Neighbours
import TurkishDates.Proofs.Numeral.CapitalLetters
import TurkishDates.Proofs.Numeral.Pieces
