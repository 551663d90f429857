import TurkishDates.Text.Digits

/-!
Floating-point numbers of 64 bits taken apart. A finite number is a whole number of steps, each step a
power of two; the whole part of a number is found on these parts, in exact arithmetic.
-/

namespace TurkishDates

inductive Binary where
  | finite (negative : Bool) (significand : Nat) (exponent : Int)
  | infinite (negative : Bool)
  | undefined
deriving DecidableEq, Repr

namespace Binary

def leastExponent : Int := -1074

def hiddenBit : Nat := Nat.pow 2 52

/-- Takes the 64 bits apart: sign, eleven bits of exponent, 52 bits of significand. -/
def ofBits (bits : Nat) : Binary :=
  let negative := bits / Nat.pow 2 63 % 2 == 1
  let exponent := bits / Nat.pow 2 52 % Nat.pow 2 11
  let fraction := bits % Nat.pow 2 52
  if exponent = 2047 then if fraction = 0 then .infinite negative else .undefined
  else if exponent = 0 then .finite negative fraction leastExponent
  else .finite negative (hiddenBit + fraction) (leastExponent + (exponent - 1 : Nat))

def ofFloat (x : Float) : Binary := ofBits x.toBits.toNat

def wholeWord : Binary → Int
  | .undefined => 0
  | .infinite negative => if negative then leastWord else greatestWord
  | .finite negative significand exponent =>
      let size :=
        if 0 ≤ exponent then significand * Nat.pow 2 exponent.toNat
        else significand / Nat.pow 2 (-exponent).toNat
      clampToWord (if negative then -size else size)

end Binary

example : (Binary.ofBits 0x405ec00000000000).wholeWord = 123 := by decide

example : (Binary.ofBits 0xbfefffffffffffff).wholeWord = 0 := by decide

end TurkishDates
