import Mathlib.Data.Rat.Floor
import TurkishDates.Number.Binary

/-!
The whole part of a floating-point number, in exact arithmetic. It is the rational number rounded toward zero, and
where that is no word of 64 bits, the nearest one that is.
-/

namespace TurkishDates

def towardZero (x : ℚ) : Int := if 0 ≤ x then ⌊x⌋ else ⌈x⌉

theorem towardZero_neg (x : ℚ) : towardZero (-x) = -towardZero x := by
  unfold towardZero
  rcases lt_trichotomy x 0 with negative | rfl | positive
  · rw [if_pos (neg_nonneg.mpr negative.le), if_neg negative.not_ge, Int.floor_neg]
  · simp
  · rw [if_neg (not_le.mpr (neg_neg_iff_pos.mpr positive)), if_pos positive.le, Int.ceil_neg]

theorem clampToWord_eq (n : Int) : clampToWord n = max leastWord (min greatestWord n) := by
  unfold clampToWord leastWord greatestWord
  split
  · omega
  · split <;> omega

theorem fitsWord_clampToWord (n : Int) : fitsWord (clampToWord n) = true := by
  simp only [fitsWord, clampToWord_eq, leastWord, greatestWord, Bool.and_eq_true, decide_eq_true_eq]
  omega

namespace Binary

def rational (negative : Bool) (significand : Nat) (exponent : Int) : ℚ :=
  (if negative then -1 else 1) * (significand * 2 ^ exponent)

/-- Whether `word` is the nearest word of 64 bits to the whole part of a number, toward zero. What is undefined counts
as zero. -/
def IsWholeWord (word : Int) : Binary → Prop
  | .undefined => word = 0
  | .infinite negative => word = if negative then leastWord else greatestWord
  | .finite negative significand exponent =>
      word = max leastWord (min greatestWord (towardZero (rational negative significand exponent)))

theorem floor_size (significand : Nat) (exponent : Int) :
    ⌊(significand * 2 ^ exponent : ℚ)⌋ =
      (if 0 ≤ exponent then significand * Nat.pow 2 exponent.toNat
        else significand / Nat.pow 2 (-exponent).toNat : Nat) := by
  split
  next whole =>
    obtain ⟨n, rfl⟩ := Int.eq_ofNat_of_zero_le whole
    have cast : (significand * 2 ^ (n : Int) : ℚ) = ((significand * Nat.pow 2 n : Nat) : ℚ) := by
      rw [zpow_natCast, Nat.cast_mul, Nat.pow_eq, Nat.cast_pow, Nat.cast_ofNat]
    rw [Int.toNat_natCast, cast, Int.floor_natCast]
  next fraction =>
    obtain ⟨n, same⟩ := Int.eq_ofNat_of_zero_le (neg_nonneg.mpr (not_le.mp fraction).le)
    have quotient : (significand * 2 ^ exponent : ℚ) = significand / ((Nat.pow 2 n : Nat) : ℚ) := by
      rw [← neg_neg exponent, same, zpow_neg, zpow_natCast, Nat.pow_eq, Nat.cast_pow, Nat.cast_ofNat, div_eq_mul_inv]
    rw [quotient, same, Int.toNat_natCast, Rat.floor_natCast_div_natCast, Int.natCast_ediv]

theorem isWholeWord_wholeWord (x : Binary) : x.IsWholeWord x.wholeWord := by
  cases x with
  | undefined => exact rfl
  | infinite negative => exact rfl
  | finite negative significand exponent =>
    have notNegative : (0 : ℚ) ≤ significand * 2 ^ exponent :=
      mul_nonneg (Nat.cast_nonneg significand) (zpow_nonneg zero_le_two exponent)
    have size : towardZero (significand * 2 ^ exponent : ℚ) = ⌊(significand * 2 ^ exponent : ℚ)⌋ :=
      if_pos notNegative
    show clampToWord _ = _
    rw [clampToWord_eq, ← floor_size, ← size]
    cases negative with
    | false => rw [rational, if_neg Bool.false_ne_true, if_neg Bool.false_ne_true, one_mul]
    | true => rw [rational, if_pos rfl, if_pos rfl, neg_one_mul, towardZero_neg]

theorem fitsWord_wholeWord (x : Binary) : fitsWord x.wholeWord = true := by
  cases x with
  | undefined => decide
  | infinite negative => cases negative <;> decide
  | finite negative significand exponent => exact fitsWord_clampToWord _

end Binary

end TurkishDates
