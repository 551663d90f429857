import Mathlib.Algebra.Field.Rat
import Mathlib.Tactic.NormNum
import TurkishDates.Proofs.Numeral.Integers

/-!
Numbers with a fraction behind a comma, in exact arithmetic. The fraction is read as a whole number and divided by the
power of ten with as many zeros as it has digits, and it has the sign of the number. A fraction whose digits are no
number of 64 bits is not counted.
-/

namespace TurkishDates

open Arithmetic

instance : Arithmetic ℚ where
  ofInt n := n
  add := (· + ·)
  sub := (· - ·)
  mul := (· * ·)
  div := (· / ·)
  isZero x := x == 0

theorem Arithmetic.isNeutral_rat : IsNeutral ℚ where
  zero_add n := zero_add (n : ℚ)
  mul_one n := mul_one (n : ℚ)
  isZero := rfl

theorem Arithmetic.squarings_rat (done base : ℚ) (n : Nat) : squarings done base n = done * base ^ n := by
  induction n using Nat.strongRecOn generalizing done base with
  | ind n ih =>
    have lowest : (if n % 2 = 1 then mul done base else done) = done * base ^ (n % 2) := by
      rcases Nat.mod_two_eq_zero_or_one n with even | odd
      · rw [even, if_neg (by decide), pow_zero, mul_one]
      · rw [odd, if_pos rfl, pow_one]
        rfl
    have power := mul_pow_halves done base n
    rw [squarings, lowest]
    by_cases last : n / 2 = 0
    · rw [last, pow_zero, mul_one] at power
      rw [dif_pos last, power]
    · rw [dif_neg last, ih (n / 2) (by omega)]
      exact power

theorem Arithmetic.tenPower_rat (n : Nat) : tenPower ℚ n = 10 ^ n := by
  rw [tenPower, squarings_rat]
  exact one_mul _

namespace Numeral

open PlaceValue

variable {whole fraction : Text}

theorem cutAtComma?_append (noComma : ∀ c ∈ whole, c ≠ ',') (fraction : Text) :
    cutAtComma? (whole ++ ',' :: fraction) = some (whole, fraction) := by
  induction whole with
  | nil => rfl
  | cons c whole ih =>
    obtain ⟨here, later⟩ := List.forall_mem_cons.mp noComma
    rw [List.cons_append, cutAtComma?, if_neg here, ih later]
    rfl

theorem trimLeft_signed (isWhole : IsDigits whole) (negative : Bool) :
    ∃ c rest, Text.trimLeft (signed negative whole) = c :: rest ∧ (c = '-' ↔ negative = true) := by
  obtain ⟨c, rest, rfl⟩ := List.exists_cons_of_ne_nil isWhole.1
  have digits : "0123456789".toList.all (fun c => !isBlank c && c != '-') = true := by decide
  have here := List.all_eq_true.mp digits c (mem_digits_iff.mpr (isWhole.2 c List.mem_cons_self))
  rw [Bool.and_eq_true, Bool.not_eq_true', bne_iff_ne] at here
  cases negative with
  | true => exact ⟨'-', c :: rest, rfl, iff_of_true rfl rfl⟩
  | false =>
    exact ⟨c, rest, List.dropWhile_cons_of_neg (by simp [here.1]), iff_of_false here.2 Bool.false_ne_true⟩

theorem value_decimal {α : Type} [Arithmetic α] (isWhole : IsDigits whole) (isFraction : IsDigits fraction)
    (negative : Bool) :
    (value (signed negative whole ++ ',' :: fraction) : α) =
      (if negative then sub else add) (placeValue (digitPart (signed negative whole)))
        (div (placeValue (digitPart fraction)) (placesPower α fraction.length)) := by
  have front {c : Char} (member : c ∈ signed negative whole) := plain_signed isWhole member
  have back {c : Char} (member : c ∈ fraction) : (c ≠ '.' ∧ c ≠ ',') ∧ isPlain c = true :=
    plain_signed isFraction (show c ∈ signed false fraction from member)
  have plain : ∀ c ∈ signed negative whole ++ ',' :: fraction, c ≠ '.' ∧ isPlain c = true := by
    intro c member
    rcases List.mem_append.mp member with inFront | behind
    · exact ⟨(front inFront).1.1, (front inFront).2⟩
    · rcases List.mem_cons.mp behind with rfl | inBack
      · decide
      · exact ⟨(back inBack).1.1, (back inBack).2⟩
  have noPoint : (signed negative whole ++ ',' :: fraction).filter (· != '.') = signed negative whole ++ ',' :: fraction :=
    List.filter_eq_self.mpr fun c member => bne_iff_ne.mpr (plain c member).1
  have small : Text.IsSmall (signed negative whole ++ ',' :: fraction) := fun c member =>
    lowerChar_of_isPlain (plain c member).2
  have noComma : fraction.filter (· != ',') = fraction :=
    List.filter_eq_self.mpr fun c member => bne_iff_ne.mpr (back member).1.2
  have read : parts fraction = digitPart fraction := parts_signed isFraction false
  obtain ⟨c, rest, trimmed, sign⟩ := trimLeft_signed isWhole negative
  rw [value]
  simp only [noPoint, small.lower_eq, cutAtComma?_append fun c member => (front member).1.2, noComma, read,
    parts_signed isWhole, trimmed]
  split
  next minus => rw [if_pos (sign.mp (List.cons.inj minus).1)]
  next other =>
    have positive : ¬negative = true := fun minus => other rest (by rw [sign.mpr minus])
    rw [if_neg positive]

theorem placeValue_digitPart {digits : Text} (isDigits : IsDigits digits) (negative : Bool) :
    (placeValue (digitPart (signed negative digits)) : ℚ) =
      if fitsWord (signedNumber negative (digitsValue digits)) then ((signedNumber negative (digitsValue digits) : Int) : ℚ)
      else 0 := by
  rw [digitPart_signed isDigits]
  split
  next => exact placeValue_single isNeutral_rat _
  next => exact placeValue_nil.trans Int.cast_zero

/-- What a fraction behind a comma adds: nothing if its digits are no number of 64 bits. -/
def fractionValue (fraction : Text) : ℚ :=
  if fitsWord (digitsValue fraction) then (digitsValue fraction : ℚ) / 10 ^ fraction.length else 0

theorem div_fraction (isFraction : IsDigits fraction) (short : fraction.length < 2147483648) :
    div (placeValue (digitPart fraction)) (placesPower ℚ fraction.length) = fractionValue fraction := by
  have number := placeValue_digitPart isFraction false
  rw [placesPower_eq short, tenPower_rat, fractionValue]
  show (placeValue (digitPart (signed false fraction)) : ℚ) / 10 ^ fraction.length = _
  rw [number]
  show (if fitsWord (digitsValue fraction) then ((digitsValue fraction : Int) : ℚ) else 0) / 10 ^ fraction.length = _
  split
  next => rw [Int.cast_natCast]
  next => exact zero_div _

theorem value_signed_decimal (isWhole : IsDigits whole) (isFraction : IsDigits fraction)
    (short : fraction.length < 2147483648) (negative : Bool)
    (fits : fitsWord (signedNumber negative (digitsValue whole)) = true) :
    (value (signed negative whole ++ ',' :: fraction) : ℚ) =
      if negative then -(digitsValue whole + fractionValue fraction) else digitsValue whole + fractionValue fraction := by
  rw [value_decimal isWhole isFraction, placeValue_digitPart isWhole, if_pos fits,
    div_fraction isFraction short]
  cases negative with
  | false =>
    show ((digitsValue whole : Int) : ℚ) + fractionValue fraction = digitsValue whole + fractionValue fraction
    rw [Int.cast_natCast]
  | true =>
    show ((-digitsValue whole : Int) : ℚ) - fractionValue fraction = -(digitsValue whole + fractionValue fraction)
    rw [Int.cast_neg, Int.cast_natCast, neg_add']

/-- A decimal has the value of its digits, with the sign in front of it, but for a fraction whose digits are no number of
64 bits: that one is not counted. The digits of the fraction are counted with 32 bits. -/
theorem decimals_read_back (isWhole : IsDigits whole) (isFraction : IsDigits fraction)
    (short : fraction.length < 2147483648) (fits : fitsWord (digitsValue whole) = true) :
    (value (whole ++ ',' :: fraction) : ℚ) = digitsValue whole + fractionValue fraction ∧
      (value ('-' :: whole ++ ',' :: fraction) : ℚ) = -(digitsValue whole + fractionValue fraction) := by
  have fitsNegated : fitsWord (signedNumber true (digitsValue whole)) = true := by
    simp only [fitsWord, Bool.and_eq_true, decide_eq_true_eq] at fits ⊢
    simp only [signedNumber, leastWord, greatestWord, if_true] at fits ⊢
    omega
  exact ⟨value_signed_decimal isWhole isFraction short false fits,
    value_signed_decimal isWhole isFraction short true fitsNegated⟩

theorem decimals_read_back_below_one :
    (value "0,0500".toList : ℚ) = 1 / 20 ∧ (value "-0,0500".toList : ℚ) = -(1 / 20) := by
  have isWhole : IsDigits "0".toList := by decide
  have isFraction : IsDigits "0500".toList := by decide
  have read := decimals_read_back isWhole isFraction (by decide) (by decide)
  have digits : digitsValue "0".toList = 0 ∧ digitsValue "0500".toList = 500 := by decide
  have twentieth : (digitsValue "0".toList : ℚ) + fractionValue "0500".toList = 1 / 20 := by
    have fits : fitsWord (500 : Nat) = true := by decide
    have length : "0500".toList.length = 4 := rfl
    rw [fractionValue, digits.1, digits.2, if_pos fits, length]
    norm_num
  rw [twentieth] at read
  exact read

/-- The fraction of one half is lost when nineteen zeros follow its digit. -/
theorem decimals_lose_long_fractions :
    IsDigits "0".toList ∧ fitsWord (digitsValue "0".toList) = true ∧ IsDigits "50000000000000000000".toList ∧
      "50000000000000000000".toList.length ≤ 300 ∧
      (value ("0".toList ++ ',' :: "50000000000000000000".toList) : ℚ) ≠
        digitsValue "0".toList + digitsValue "50000000000000000000".toList / 10 ^ "50000000000000000000".toList.length := by
  have isWhole : IsDigits "0".toList := by decide
  have isFraction : IsDigits "50000000000000000000".toList := by decide
  have digits : digitsValue "0".toList = 0 ∧ digitsValue "50000000000000000000".toList = 50000000000000000000 := by decide
  have length : "50000000000000000000".toList.length = 20 := rfl
  have long : ¬fitsWord (50000000000000000000 : Nat) = true := by decide
  have lost := value_signed_decimal isWhole isFraction (by decide) false (by decide)
  rw [fractionValue, digits.2, if_neg long, digits.1] at lost
  refine ⟨isWhole, by decide, isFraction, by decide, ?_⟩
  show value (signed false "0".toList ++ ',' :: "50000000000000000000".toList) ≠ _
  rw [lost, digits.1, digits.2, length]
  norm_num

end Numeral

end TurkishDates
