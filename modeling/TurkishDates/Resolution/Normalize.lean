import TurkishDates.Calendar.Names
import TurkishDates.Number.Binary
import TurkishDates.Numeral.Search

/-!
The form of an expression that the grammar reads: small letters, numerals written as the digits of their
whole part, and a text that is only a month's name written in full.
-/

namespace TurkishDates

namespace Numeral

def punctuation : List Char := ['_', ',', ' ', '-', '.', '\\', '/', '+', '=']

def isPlainDigits (t : Text) : Bool :=
  let stripped := t.filter fun c => !punctuation.contains c
  !stripped.isEmpty && stripped.all isDigit

def wholeValue (n : Numeral) : Int := (Binary.ofFloat (numeralValue n.text)).wholeWord

def splice (n : Numeral) (written t : Text) : Text := t.take n.start ++ written ++ t.drop n.stop

def writeOut (n : Numeral) (t : Text) : Text :=
  if isPlainDigits n.text then t else n.splice (decimalText n.wholeValue) t

end Numeral

/-- Small letters with all numerals written out, the last one first, so that the places of those before it
stay valid. -/
def withDigits (t : Text) : Text :=
  (Numeral.findAll t.lower).foldr Numeral.writeOut t.lower

def normalize (t : Text) : Text := (canonicalMonth? (withDigits t)).getD (withDigits t)

end TurkishDates
