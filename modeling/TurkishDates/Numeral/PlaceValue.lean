import TurkishDates.Number.Arithmetic
import TurkishDates.Text.Digits

/-!
The value of numbers written side by side. A numeral lists its parts without saying what is multiplied:
`[2, 100, 1000]` stands for two hundred thousand. The parts are taken from the last to the first.

A multiple of a thousand opens a new scale and is multiplied by the sum of the parts right before it
that are no multiples of a hundred. A multiple of a hundred counts at the scale opened last, and so does
the part before it, which takes its place. Any other part is added as it is.
-/

namespace TurkishDates

namespace PlaceValue

open Arithmetic

def isThousands (part : Int) : Bool := part.tmod 1000 == 0

def isHundreds (part : Int) : Bool := part.tmod 100 == 0

/-- The exponent of the power of ten that a number reaches; 0 for 0. -/
def tens (part : Int) : Nat := (digitsOf part.natAbs).length - 1

variable {α : Type} [Arithmetic α]

def sum (parts : List Int) : α := parts.foldl (fun total part => add total (ofInt part)) (ofInt 0)

/-- Adds to `total` the parts that are left, the last one first, with the scale opened last. -/
def addParts (total : α) (scale : Nat) : List Int → α
  | [] => total
  | part :: before =>
      if isThousands part then
        let factor : α := sum (before.takeWhile fun p => !isHundreds p)
        if !isZero factor then
          addParts (add total (mul factor (ofInt part))) (tens part)
            (before.dropWhile fun p => !isHundreds p)
        else
          let alone := match before with
            | [] => true
            | previous :: _ => !isHundreds previous
          addParts (if alone then add total (ofInt part) else total) (tens part) before
      else if isHundreds part then
        match before with
        | [] => addParts (add total (mul (ofInt part) (tenPower α scale))) scale []
        | previous :: earlier =>
            if isHundreds previous then
              addParts (add total (mul (ofInt part) (tenPower α scale))) scale (previous :: earlier)
            else
              addParts (add total (mul (mul (ofInt previous) (ofInt 100)) (tenPower α scale))) scale
                earlier
      else addParts (add total (ofInt part)) scale before
termination_by parts => parts.length
decreasing_by
  all_goals first
    | exact Nat.lt_succ_of_le (List.dropWhile_sublist _).length_le
    | simp only [List.length_cons]; omega

end PlaceValue

def placeValue {α : Type} [Arithmetic α] (parts : List Int) : α :=
  PlaceValue.addParts (Arithmetic.ofInt 0) 0 parts.reverse

end TurkishDates
