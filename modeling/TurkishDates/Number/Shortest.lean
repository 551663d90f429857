import TurkishDates.Number.Binary

/-!
The fewest decimal digits that read back as the same floating-point number, and of these the nearest.

All comparisons are made in quarters of the least step, in which a number, the half-way points to its
neighbours and every decimal grid are natural numbers.
-/

namespace TurkishDates

inductive Tie where
  | even
  | up
deriving DecidableEq, Repr

structure Decimal where
  digits : Nat
  exponent : Int
deriving DecidableEq, Repr

namespace Decimal

/-- The number of quarters of the least step in one. -/
def unity : Nat := Nat.pow 2 1076

/-- The numbers that round to one floating-point number, in quarters of the least step; the ends belong
to them when the significand is even. -/
structure Neighbourhood where
  low : Nat
  value : Nat
  high : Nat
  closed : Bool

def neighbourhood (significand : Nat) (exponent : Int) : Neighbourhood :=
  let step := Nat.pow 2 (exponent - Binary.leastExponent).toNat
  let narrow := significand = Binary.hiddenBit ∧ Binary.leastExponent < exponent
  let value := 4 * significand * step
  { low := value - (if narrow then step else 2 * step), value := value, high := value + 2 * step,
    closed := significand % 2 = 0 }

/-- How many grid points of `10 ^ exponent` a number of quarters reaches, as a quotient's two sides. -/
def onGrid (quarters : Nat) (exponent : Int) : Nat × Nat :=
  if 0 ≤ exponent then (quarters, unity * Nat.pow 10 exponent.toNat)
  else (quarters * Nat.pow 10 (-exponent).toNat, unity)

def holds (near : Neighbourhood) (exponent : Int) (point : Nat) : Bool :=
  let (low, unit) := onGrid near.low exponent
  let (high, _) := onGrid near.high exponent
  let place := point * unit
  if near.closed then low ≤ place && place ≤ high else low < place && place < high

def nearest? (tie : Tie) (near : Neighbourhood) (exponent : Int) : Option Nat :=
  let (value, unit) := onGrid near.value exponent
  let below := value / unit
  let above := below + 1
  match holds near exponent below && below != 0, holds near exponent above with
  | false, false => none
  | true, false => some below
  | false, true => some above
  | true, true =>
      let gap := 2 * (value - below * unit)
      if gap < unit then some below
      else if unit < gap then some above
      else match tie with
        | .up => some above
        | .even => some (if below % 2 = 0 then below else above)

def leadingExponent (quarters : Nat) : Int :=
  (digitsOf (quarters * Nat.pow 10 330 / unity)).length - 331

/-- Tries the grids from one digit up to seventeen, which always suffice. Only on the first grid can the
nearest point lie one place further up. -/
def shortest (tie : Tie) (significand : Nat) (exponent : Int) : Decimal :=
  let near := neighbourhood significand exponent
  let leading := leadingExponent near.value
  let attempt (more : Nat) : Option Decimal :=
    let exponent := leading - more
    (nearest? tie near exponent).map fun digits =>
      if digits = 10 then ⟨1, exponent + 1⟩ else ⟨digits, exponent⟩
  ((List.range 17).findSome? attempt).getD ⟨0, 0⟩

end Decimal

end TurkishDates
