import TurkishDates.Numeral.PlaceValue
import TurkishDates.Numeral.Vocabulary
import TurkishDates.Text.Alphabetic
import TurkishDates.Text.Blank
import TurkishDates.Text.TurkishCase

/-!
Reading the value of a numeral. A point groups digits and is ignored; a comma begins the fraction. Runs
of digits and number words become the parts of the value, wherever they touch, and all else is ignored.
-/

namespace TurkishDates

namespace Numeral

/-- The number of a run of digits; a lone minus sign and a run that is too long have none. -/
def digitPart (digits : Text) : List Int :=
  match readNumber digits with
  | .ok n => [n]
  | .error _ => []

/-- The parts of a lower-case text, after a run of digits or the beginning of a word. A minus sign begins
a run of digits. A word is complete as soon as it is a number word; any character that is no letter
breaks it off. -/
def partsAfter (digits word : Text) : Text → List Int
  | [] => digitPart digits
  | c :: t =>
      if isDigit c || (c == '-' && digits.isEmpty) then partsAfter (digits ++ [c]) [] t
      else digitPart digits ++
        if isAlphabetic c then
          match numberWord? (word ++ [c]) with
          | some n => n :: partsAfter [] [] t
          | none => partsAfter [] (word ++ [c]) t
        else partsAfter [] [] t

def parts (t : Text) : List Int := partsAfter [] [] t

def cutAtComma? : Text → Option (Text × Text)
  | [] => none
  | c :: t =>
      if c = ',' then some ([], t) else (cutAtComma? t).map fun (whole, fraction) => (c :: whole, fraction)

variable {α : Type} [Arithmetic α]

open Arithmetic

/-- The value of a numeral. The fraction is read like a whole number and divided by a power of ten; it has
the sign that the text begins with. -/
def value (t : Text) : α :=
  let t := Text.lower (t.filter (· != '.'))
  match cutAtComma? t with
  | none => placeValue (parts t)
  | some (whole, fraction) =>
      let fraction := fraction.filter (· != ',')
      let size : α := div (placeValue (parts fraction)) (placesPower α fraction.length)
      match Text.trimLeft whole with
      | '-' :: _ => sub (placeValue (parts whole)) size
      | _ => add (placeValue (parts whole)) size

end Numeral

def numeralValue (t : Text) : Float := Numeral.value t

example : Numeral.parts "yüz yirmi3 bin -4".toList = [100, 20, 3, 1000, -4] := by decide

end TurkishDates
