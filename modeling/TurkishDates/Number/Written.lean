import TurkishDates.Number.Shortest

/-!
Floating-point numbers written in decimal, with the fewest digits that read back.
-/

namespace TurkishDates

/-- How numbers are written: which of two equally near decimals is taken, where the decimal point may stand
for positional notation, counted from the first digit, and whether a whole number ends in `.0`. -/
structure NumberStyle where
  tie : Tie
  isPositional : Int → Bool
  keepsPoint : Bool

namespace NumberStyle

def positional (style : NumberStyle) (digits : Text) (exponent : Int) : Text :=
  let point := digits.length + exponent
  if 0 ≤ exponent then
    digits ++ List.replicate exponent.toNat '0' ++ if style.keepsPoint then ['.', '0'] else []
  else if point ≤ 0 then '0' :: '.' :: List.replicate (-point).toNat '0' ++ digits
  else digits.take point.toNat ++ '.' :: digits.drop point.toNat

/-- One digit before the point, and an exponent that always has a sign. -/
def scientific (digits : Text) (exponent : Int) : Text :=
  let power := digits.length + exponent - 1
  let sign := if power < 0 then '-' else '+'
  let fraction := digits.drop 1
  digits.take 1 ++ (if fraction.isEmpty then [] else '.' :: fraction) ++
    'e' :: sign :: digitsOf power.natAbs

def magnitude (style : NumberStyle) (significand : Nat) (exponent : Int) : Text :=
  if significand = 0 then style.positional ['0'] 0
  else
    let decimal := Decimal.shortest style.tie significand exponent
    let digits := digitsOf decimal.digits
    if style.isPositional (digits.length + decimal.exponent) then
      style.positional digits decimal.exponent
    else scientific digits decimal.exponent

def write? (style : NumberStyle) : Binary → Option Text
  | .finite negative significand exponent =>
      let size := style.magnitude significand exponent
      some (if negative then '-' :: size else size)
  | _ => none

end NumberStyle

end TurkishDates
