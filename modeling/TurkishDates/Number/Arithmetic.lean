/-!
The arithmetic that numerals are evaluated in. Evaluation is written once for any type of numbers that
offers these operations; the program runs it on floating-point numbers.
-/

namespace TurkishDates

class Arithmetic (α : Type) where
  ofInt : Int → α
  add : α → α → α
  sub : α → α → α
  mul : α → α → α
  div : α → α → α
  isZero : α → Bool

instance : Arithmetic Float where
  ofInt := Float.ofInt
  add := (· + ·)
  sub := (· - ·)
  mul := (· * ·)
  div := (· / ·)
  isZero x := x == 0.0

namespace Arithmetic

/-- The factor `base ^ n` times `done`, by repeated squaring from the lowest bit of `n`. -/
def squarings {α : Type} [Arithmetic α] (done base : α) (n : Nat) : α :=
  let done := if n % 2 = 1 then mul done base else done
  if h : n / 2 = 0 then done else squarings done (mul base base) (n / 2)
termination_by n
decreasing_by omega

def tenPower (α : Type) [Arithmetic α] (n : Nat) : α := squarings (ofInt 1) (ofInt 10) n

/-- The exponent that counts so many places. It is a number of 32 bits with a sign, and greater counts wrap
around. -/
def placesExponent (places : Nat) : Int := Int.bmod places 4294967296

def placesPower (α : Type) [Arithmetic α] (places : Nat) : α :=
  let size := tenPower α (placesExponent places).natAbs
  if placesExponent places < 0 then div (ofInt 1) size else size

theorem placesPower_eq {α : Type} [Arithmetic α] {places : Nat} (few : places < 2147483648) :
    placesPower α places = tenPower α places := by
  have exponent : placesExponent places = places := Int.bmod_eq_of_le (by omega) (by omega)
  rw [placesPower, exponent, if_neg (Int.not_lt.mpr (Int.natCast_nonneg places)), Int.natAbs_natCast]

end Arithmetic

end TurkishDates
