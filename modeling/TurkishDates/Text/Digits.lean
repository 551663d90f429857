import TurkishDates.Text.Basic

/-!
Decimal digits, and the whole numbers that they spell. Captured numbers are words of 64 bits with a sign:
a longer number cannot be read.
-/

namespace TurkishDates

def isDigit (c : Char) : Bool := '0' ≤ c && c ≤ '9'

def digitsOf (n : Nat) : Text := Nat.toDigits 10 n

def paddedDigits (width n : Nat) : Text :=
  let digits := digitsOf n
  List.replicate (width - digits.length) '0' ++ digits

def decimalText (n : Int) : Text :=
  if n < 0 then '-' :: digitsOf n.natAbs else digitsOf n.natAbs

def digitsValue (digits : Text) : Nat := digits.foldl (fun n c => 10 * n + (c.toNat - '0'.toNat)) 0

def leastWord : Int := -9223372036854775808

def greatestWord : Int := 9223372036854775807

def fitsWord (n : Int) : Bool := leastWord ≤ n && n ≤ greatestWord

def clampToWord (n : Int) : Int :=
  if n < leastWord then leastWord else if greatestWord < n then greatestWord else n

inductive NumberError where
  | malformed
  | tooLarge
deriving DecidableEq, Repr

def readNumber (t : Text) : Except NumberError Int :=
  match t with
  | '-' :: digits => ofDigits (-1) digits
  | '+' :: digits => ofDigits 1 digits
  | digits => ofDigits 1 digits
where
  ofDigits (sign : Int) (digits : Text) : Except NumberError Int :=
    if digits.isEmpty || !digits.all isDigit then .error .malformed
    else
      let n := sign * digitsValue digits
      if fitsWord n then .ok n else .error .tooLarge

example : readNumber "-042".toList = .ok (-42) ∧ readNumber "4 2".toList = .error .malformed :=
  ⟨rfl, rfl⟩

example : readNumber "9223372036854775808".toList = .error .tooLarge := rfl

end TurkishDates
