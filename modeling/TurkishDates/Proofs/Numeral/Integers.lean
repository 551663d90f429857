import TurkishDates.Proofs.Numeral.Scanner
import TurkishDates.Proofs.Numeral.Sequences

/-!
Whole numbers in digits. They may have zeros in front, a minus sign before all, and points between their thousands: such a
text is found as one numeral, and its value is the number.
-/

namespace TurkishDates

open Arithmetic

/-- Whether zero and one change nothing, and zero is told apart. Floating-point numbers are so for whole numbers of any
size. -/
structure Arithmetic.IsNeutral (α : Type) [Arithmetic α] : Prop where
  zero_add : ∀ n : Int, add (ofInt 0) (ofInt n : α) = ofInt n
  mul_one : ∀ n : Int, mul (ofInt n) (ofInt 1 : α) = ofInt n
  isZero : isZero (ofInt 0 : α) = true

theorem Arithmetic.isNeutral_int : IsNeutral Int where
  zero_add := Int.zero_add
  mul_one := Int.mul_one
  isZero := rfl

variable {α : Type} [Arithmetic α]

namespace PlaceValue

theorem placeValue_nil : (placeValue [] : α) = ofInt 0 := addParts_nil

theorem placeValue_single (neutral : IsNeutral α) (n : Int) : (placeValue [n] : α) = ofInt n := by
  have one : tenPower α 0 = ofInt 1 := by rw [tenPower, squarings]; rfl
  rw [placeValue, List.reverse_singleton]
  cases thousands : isThousands n with
  | true => rw [addParts_scale_alone thousands neutral.isZero, addParts_nil, neutral.zero_add]
  | false =>
    cases hundreds : isHundreds n with
    | true =>
      rw [addParts_hundreds_alone thousands hundreds (by simp), addParts_nil, one,
        neutral.mul_one, neutral.zero_add]
    | false => rw [addParts_other thousands hundreds, addParts_nil, neutral.zero_add]

end PlaceValue

namespace Numeral

open PlaceValue

def signed (negative : Bool) (digits : Text) : Text := if negative then '-' :: digits else digits

def signedNumber (negative : Bool) (n : Nat) : Int := if negative then -n else n

/-- Digits with a point behind each of them that a multiple of three others follows. -/
def withPoints : Text → Text
  | [] => []
  | c :: t => if t ≠ [] ∧ t.length % 3 = 0 then c :: '.' :: withPoints t else c :: withPoints t

def integerText (negative pointed : Bool) (width n : Nat) : Text :=
  signed negative (if pointed then withPoints (paddedDigits width n) else paddedDigits width n)

example : integerText true true 9 1234567 = "-001.234.567".toList := by decide

section Signs

variable {digits : Text} {negative : Bool}

theorem signed_append (digits rest : Text) : signed negative (digits ++ rest) = signed negative digits ++ rest := by
  cases negative <;> rfl

theorem isInteger_signed (isDigits : IsDigits digits) (negative : Bool) : IsInteger (signed negative digits) := by
  cases negative with
  | true => exact .inr ⟨digits, rfl, isDigits⟩
  | false => exact .inl isDigits

theorem digitPart_signed (isDigits : IsDigits digits) (negative : Bool) :
    digitPart (signed negative digits) =
      if fitsWord (signedNumber negative (digitsValue digits)) then [signedNumber negative (digitsValue digits)]
      else [] := by
  have read : readNumber (signed negative digits) =
      if fitsWord (signedNumber negative (digitsValue digits)) then .ok (signedNumber negative (digitsValue digits))
      else .error .tooLarge := by
    cases negative with
    | false => exact readNumber_of_isDigits isDigits
    | true => exact readNumber_minus isDigits
  rw [digitPart, read]
  cases fitsWord (signedNumber negative (digitsValue digits)) <;> rfl

theorem parts_signed (isDigits : IsDigits digits) (negative : Bool) :
    parts (signed negative digits) = digitPart (signed negative digits) := by
  have nothing : digitPart [] = [] := rfl
  have unsigned (front : Text) : partsAfter front [] digits = digitPart (front ++ digits) := by
    have read := partsAfter_digits isDigits.2 front []
    rw [List.append_nil] at read
    rw [read, partsAfter]
  cases negative with
  | false => exact unsigned []
  | true =>
    show partsAfter [] [] ('-' :: digits) = _
    rw [partsAfter]
    exact unsigned ['-']

theorem mem_signed {c : Char} (member : c ∈ signed negative digits) : c = '-' ∨ c ∈ digits := by
  cases negative with
  | false => exact .inr member
  | true => exact List.mem_cons.mp member

theorem plain_signed (isDigits : IsDigits digits) {c : Char} (member : c ∈ signed negative digits) :
    (c ≠ '.' ∧ c ≠ ',') ∧ isPlain c = true := by
  have listed : ('-' :: "0123456789".toList).all (fun c => (c != '.' && c != ',') && isPlain c) = true := by decide
  have known : c ∈ '-' :: "0123456789".toList :=
    List.mem_cons.mpr ((mem_signed member).imp_right fun inside => mem_digits_iff.mpr (isDigits.2 c inside))
  simpa using List.all_eq_true.mp listed c known

end Signs

section Points

variable {digits : Text}

theorem filter_withPoints (noPoint : ∀ c ∈ digits, c ≠ '.') : (withPoints digits).filter (· != '.') = digits := by
  induction digits with
  | nil => rfl
  | cons c digits ih =>
    obtain ⟨here, later⟩ := List.forall_mem_cons.mp noPoint
    unfold withPoints
    split
    · rw [List.filter_cons_of_pos (by simpa using here), List.filter_cons_of_neg (by simp), ih later]
    · rw [List.filter_cons_of_pos (by simpa using here), ih later]

theorem filter_integerText (negative pointed : Bool) (width n : Nat) :
    (integerText negative pointed width n).filter (· != '.') = signed negative (paddedDigits width n) := by
  have noPoint : ∀ c ∈ paddedDigits width n, c ≠ '.' := by
    rintro c member rfl
    cases (isDigits_paddedDigits width n).2 '.' member
  have unsigned : (if pointed then withPoints (paddedDigits width n) else paddedDigits width n).filter (· != '.') =
      paddedDigits width n := by
    cases pointed with
    | true => exact filter_withPoints noPoint
    | false => exact List.filter_eq_self.mpr fun c member => bne_iff_ne.mpr (noPoint c member)
  unfold integerText
  cases negative with
  | true => exact (List.filter_cons_of_pos (by decide)).trans (congrArg ('-' :: ·) unsigned)
  | false => exact unsigned

/-- Points leave one to three digits in front and three in every group behind them. -/
theorem exists_groups (isDigits : IsDigits digits) :
    ∃ (first : Text) (groups : List Text), withPoints digits = first ++ groups.flatten ∧ IsDigits first ∧ first.length ≤ 3 ∧
      (∀ group ∈ groups, IsGroup group) ∧ digits.length = first.length + 3 * groups.length := by
  induction digits with
  | nil => exact absurd rfl isDigits.1
  | cons c digits ih =>
    obtain ⟨isDigit, later⟩ := List.forall_mem_cons.mp isDigits.2
    by_cases last : digits = []
    · subst last
      exact ⟨[c], [], rfl, isDigits, by simp, by simp, rfl⟩
    · obtain ⟨first, groups, split, isFirst, short, isGroups, size⟩ := ih ⟨last, later⟩
      have nonempty := List.length_pos_of_ne_nil isFirst.1
      unfold withPoints
      split
      next full =>
        have three : first.length = 3 := by omega
        refine ⟨[c], ('.' :: first) :: groups, by simp [split], ⟨List.cons_ne_nil c [], by simpa using isDigit⟩,
          by simp, ?_, ?_⟩
        · exact List.forall_mem_cons.mpr ⟨⟨first, rfl, three, isFirst.2⟩, isGroups⟩
        · simp only [List.length_cons, List.length_nil]
          omega
      next partly =>
        have few : first.length ≠ 3 := fun three => partly ⟨last, by omega⟩
        refine ⟨c :: first, groups, by rw [split, List.cons_append],
          ⟨List.cons_ne_nil c first, List.forall_mem_cons.mpr ⟨isDigit, isFirst.2⟩⟩, ?_, isGroups, ?_⟩
        · rw [List.length_cons]
          omega
        · rw [List.length_cons, List.length_cons, size]
          omega

theorem IsGroup.isPart {t : Text} (isGroup : IsGroup t) : IsPart t := by
  obtain ⟨digits, rfl, three, isDigits⟩ := isGroup
  have nonempty : digits ≠ [] := List.ne_nil_of_length_pos (by omega)
  exact .inr (.inl (.inl ⟨[], '.', digits, rfl, .inr rfl, by simp, isDigits, .inr nonempty⟩))

theorem isNumeric_integerText (negative pointed : Bool) (width n : Nat) :
    IsNumeric (integerText negative pointed width n) := by
  have isDigits := isDigits_paddedDigits width n
  unfold integerText
  cases pointed with
  | false => exact ⟨[_], List.cons_ne_nil _ _, by simpa using .inl (isInteger_signed isDigits negative), by simp⟩
  | true =>
    obtain ⟨first, groups, split, isFirst, -, isGroups, -⟩ := exists_groups isDigits
    rw [if_pos rfl, split, signed_append]
    exact ⟨signed negative first :: groups, List.cons_ne_nil _ _, List.forall_mem_cons.mpr
      ⟨.inl (isInteger_signed isFirst negative), fun group member => (isGroups group member).isPart⟩, rfl⟩

end Points

theorem findAll_of_isNumeric {t : Text} (numeric : IsNumeric t) : findAll t = [⟨0, t⟩] := by
  have ends : EndsRun [] := ⟨rfl, by rw [afterJoined]⟩
  obtain ⟨numericChunk, left⟩ := isRun_of_isNumeric numeric [] ends
  have whole := (isRun_of_isNumeric numeric).run_append ends
  rw [List.append_nil] at numericChunk left whole
  cases t with
  | nil => exact absurd numeric not_isNumeric_nil
  | cons c t =>
    have other := numeric.isWhole c List.mem_cons_self
    rw [findAll_eq, scan_numeric other numericChunk, whole, left, Nat.sub_self]
    show _ :: scan _ false [] = _
    rw [scan_nil]

theorem value_filter_points (t : Text) : (value (t.filter (· != '.')) : α) = value t := by
  unfold value
  rw [List.filter_filter]
  simp only [Bool.and_self]

theorem value_signed {digits : Text} (isDigits : IsDigits digits) (negative : Bool) :
    (value (signed negative digits) : α) = placeValue (digitPart (signed negative digits)) := by
  have small : Text.IsSmall (signed negative digits) := fun c member =>
    lowerChar_of_isPlain (plain_signed isDigits member).2
  rw [value_of_unmarked small.lower_eq fun c member => (plain_signed isDigits member).1, parts_signed isDigits]

/-- A whole number of 64 bits is found and read as itself, whatever zeros and points are in its digits. -/
theorem integers_read_back (neutral : IsNeutral α) (negative pointed : Bool) (width n : Nat)
    (fits : fitsWord (signedNumber negative n) = true) :
    (value (integerText negative pointed width n) : α) = ofInt (signedNumber negative n) ∧
      (findAll (integerText negative pointed width n)).map (fun found =>
          (found.start, found.stop, found.text, (value found.text : α))) =
        [(0, (integerText negative pointed width n).length, integerText negative pointed width n,
          ofInt (signedNumber negative n))] := by
  have isDigits := isDigits_paddedDigits width n
  have read : (value (integerText negative pointed width n) : α) = ofInt (signedNumber negative n) := by
    rw [← value_filter_points, filter_integerText, value_signed isDigits, digitPart_signed isDigits,
      digitsValue_paddedDigits, if_pos fits, placeValue_single neutral]
  refine ⟨read, ?_⟩
  rw [findAll_of_isNumeric (isNumeric_integerText negative pointed width n), List.map_singleton, read]
  simp [stop]

theorem integers_read_back_grouped :
    (value "-0.012.300".toList : Int) = -12300 ∧
      (findAll "-0.012.300".toList).map (fun found => (found.start, found.stop, found.text, (value found.text : Int))) =
        [(0, 10, "-0.012.300".toList, -12300)] := by
  have text : integerText true true 7 12300 = "-0.012.300".toList := by decide
  have read := integers_read_back isNeutral_int true true 7 12300 (by decide)
  rw [text] at read
  exact read

end Numeral

end TurkishDates
