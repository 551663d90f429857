import TurkishDates.Numeral.Search
import TurkishDates.Proofs.Pattern.Preference
import TurkishDates.Proofs.Text.Lowering

/-!
Numeric texts, said without patterns: integers, decimals, quotients, numbers with grouped digits and
number words, one after the other without a gap. They are what the parts of a numeral read, whatever
follows them.
-/

namespace TurkishDates

def Text.IsMadeOf (holds : Text → Prop) (t : Text) : Prop :=
  ∃ pieces : List Text, pieces ≠ [] ∧ (∀ piece ∈ pieces, holds piece) ∧ t = pieces.flatten

/-- The small letter that stands for a letter where capitals and small letters are not told apart: the
general pairs of letters, in which `I` goes with `i`, and the long form of `s`. -/
def foldLetter (c : Char) : Char :=
  if c = '\u017f' then 's' else Char.ofNat (shiftCode smallRuns c.toNat)

namespace Numeral

def IsDigits (t : Text) : Prop := t ≠ [] ∧ ∀ c ∈ t, isDigit c = true

instance (t : Text) : Decidable (IsDigits t) :=
  decidable_of_iff (t ≠ [] ∧ t.all isDigit = true) (by rw [IsDigits, List.all_eq_true])

def Signed (holds : Text → Prop) (t : Text) : Prop := holds t ∨ ∃ rest, t = '-' :: rest ∧ holds rest

def IsInteger : Text → Prop := Signed IsDigits

def IsDecimal : Text → Prop :=
  Signed fun t => ∃ whole mark fraction, t = whole ++ mark :: fraction ∧ (mark = ',' ∨ mark = '.') ∧
    (∀ c ∈ whole, isDigit c = true) ∧ (∀ c ∈ fraction, isDigit c = true) ∧
    (whole ≠ [] ∨ fraction ≠ [])

def IsQuotient : Text → Prop :=
  Signed fun t => ∃ upper lower, t = upper ++ '/' :: lower ∧ IsDigits upper ∧ IsDigits lower ∧
    lower.head? ≠ some '0'

def IsGroup (t : Text) : Prop :=
  ∃ digits, t = '.' :: digits ∧ digits.length = 3 ∧ ∀ c ∈ digits, isDigit c = true

/-- One or two digits, none of them zero, and groups of three digits after a point each. -/
def IsGrouped (t : Text) : Prop :=
  ∃ (first : Text) (groups : List Text), t = first ++ groups.flatten ∧
    (first.length = 1 ∨ first.length = 2) ∧ (∀ c ∈ first, isDigit c = true ∧ c ≠ '0') ∧
    ∀ group ∈ groups, IsGroup group

def IsWord (t : Text) : Prop := t.map foldLetter ∈ numberWords.map Prod.fst

instance (t : Text) : Decidable (IsWord t) := inferInstanceAs (Decidable (_ ∈ _))

def IsPart (t : Text) : Prop := IsInteger t ∨ IsDecimal t ∨ IsQuotient t ∨ IsGrouped t ∨ IsWord t

def IsNumeric (t : Text) : Prop := t.IsMadeOf IsPart

theorem isDigits_digitsOf (n : Nat) : IsDigits (digitsOf n) :=
  ⟨Nat.toDigits_ne_nil, fun _ member => Nat.isDigit_of_mem_toDigits (by decide) (by decide) member⟩

theorem IsDigits.exists_digit {t : Text} (digits : IsDigits t) : ∃ c ∈ t, isDigit c = true := by
  obtain ⟨nonempty, all⟩ := digits
  obtain ⟨c, t, rfl⟩ := List.exists_cons_of_ne_nil nonempty
  exact ⟨c, List.mem_cons_self, all c List.mem_cons_self⟩

theorem Signed.exists_digit {holds : Text → Prop} (inside : ∀ t, holds t → ∃ c ∈ t, isDigit c = true) {t : Text}
    (signed : Signed holds t) : ∃ c ∈ t, isDigit c = true := by
  rcases signed with unsigned | ⟨rest, rfl, unsigned⟩
  · exact inside t unsigned
  · obtain ⟨c, member, digit⟩ := inside rest unsigned
    exact ⟨c, List.mem_cons_of_mem '-' member, digit⟩

theorem IsPart.exists_digit {t : Text} (part : IsPart t) (noWord : ¬IsWord t) : ∃ c ∈ t, isDigit c = true := by
  rcases part with integer | decimal | quotient | grouped | word
  · exact integer.exists_digit fun _ digits => digits.exists_digit
  · refine decimal.exists_digit ?_
    rintro _ ⟨whole, mark, fraction, rfl, -, left, right, nonempty | nonempty⟩
    · obtain ⟨c, member, digit⟩ := IsDigits.exists_digit ⟨nonempty, left⟩
      exact ⟨c, List.mem_append_left _ member, digit⟩
    · obtain ⟨c, member, digit⟩ := IsDigits.exists_digit ⟨nonempty, right⟩
      exact ⟨c, List.mem_append_right whole (List.mem_cons_of_mem mark member), digit⟩
  · refine quotient.exists_digit ?_
    rintro _ ⟨upper, lower, rfl, digits, -, -⟩
    obtain ⟨c, member, digit⟩ := digits.exists_digit
    exact ⟨c, List.mem_append_left _ member, digit⟩
  · obtain ⟨first, groups, rfl, short, digits, -⟩ := grouped
    have nonempty : first ≠ [] := List.ne_nil_of_length_pos (by omega)
    obtain ⟨c, member, digit⟩ := IsDigits.exists_digit ⟨nonempty, fun c member => (digits c member).1⟩
    exact ⟨c, List.mem_append_left _ member, digit⟩
  · exact absurd word noWord

end Numeral

theorem isDigits_paddedDigits (width n : Nat) : Numeral.IsDigits (paddedDigits width n) := by
  obtain ⟨nonempty, digits⟩ := Numeral.isDigits_digitsOf n
  refine ⟨List.append_ne_nil_of_right_ne_nil _ nonempty, List.forall_mem_append.mpr ⟨fun c zero => ?_, digits⟩⟩
  rw [(List.mem_replicate.mp zero).2]
  rfl

theorem digitsValue_paddedDigits (width n : Nat) : digitsValue (paddedDigits width n) = n := by
  change Nat.ofDigitChars 10 (List.replicate _ '0' ++ Nat.toDigits 10 n) 0 = n
  rw [Nat.ofDigitChars_append, Nat.ofDigitChars_replicate_zero, Nat.mul_zero, Nat.ofDigitChars_ten_toDigits]

theorem digitsValue_digitsOf (n : Nat) : digitsValue (digitsOf n) = n := Nat.ofDigitChars_ten_toDigits

namespace Shape

variable {x rest : Text}

theorem reads_append {first second : Shape} :
    (first ++ second).Reads x rest ↔
      ∃ y z, x = y ++ z ∧ first.Reads y (z ++ rest) ∧ second.Reads z rest := Iff.rfl

theorem reads_opt {shape : Shape} : (opt shape).Reads x rest ↔ shape.Reads x rest ∨ x = [] := Iff.rfl

theorem reads_append_assoc {first second third : Shape} :
    (first ++ second ++ third).Reads x rest ↔ (first ++ (second ++ third)).Reads x rest := by
  constructor
  · rintro ⟨_, z, rfl, ⟨x, y, rfl, one, two⟩, three⟩
    rw [← List.append_assoc] at one
    exact ⟨x, y ++ z, List.append_assoc .., one, y, z, rfl, two, three⟩
  · rintro ⟨x, _, rfl, one, y, z, rfl, two, three⟩
    rw [List.append_assoc] at one
    exact ⟨x ++ y, z, (List.append_assoc ..).symm, ⟨x, y, rfl, one, two⟩, three⟩

theorem reads_anyOf {shapes : List Shape} :
    (anyOf shapes).Reads x rest ↔ ∃ shape ∈ shapes, shape.Reads x rest := by
  induction shapes with
  | nil => simp [anyOf, Reads]
  | cons shape shapes ih =>
    cases shapes with
    | nil => simp [anyOf]
    | cons next shapes =>
      rw [anyOf, Reads, ih, List.exists_mem_cons_iff (l := next :: shapes)]

/-- Rounds whose readings do not depend on what follows read pieces put together. -/
theorem rounds_iff {reads : Text → Text → Prop} {holds : Text → Prop}
    (free : ∀ y later, reads y later ↔ holds y) : Rounds reads x rest ↔ x.IsMadeOf holds := by
  constructor
  · intro rounds
    induction rounds with
    | last round =>
      exact ⟨[_], List.cons_ne_nil _ _, by simpa using (free _ _).mp round, by simp⟩
    | @next y z rest round later ih =>
      obtain ⟨pieces, -, all, rfl⟩ := ih
      exact ⟨y :: pieces, List.cons_ne_nil _ _,
        List.forall_mem_cons.mpr ⟨(free _ _).mp round, all⟩, rfl⟩
  · rintro ⟨pieces, nonempty, all, rfl⟩
    induction pieces with
    | nil => exact absurd rfl nonempty
    | cons piece pieces ih =>
      obtain ⟨first, others⟩ := List.forall_mem_cons.mp all
      cases pieces with
      | nil =>
        rw [List.flatten_singleton]
        exact .last ((free _ _).mpr first)
      | cons next pieces =>
        exact .next ((free _ _).mpr first) (ih (List.cons_ne_nil next pieces) others)

theorem reads_plus_oneOf {letters : List Char} :
    (plus (.oneOf letters)).Reads x rest ↔ x ≠ [] ∧ ∀ c ∈ x, c ∈ letters := by
  have single (y later : Text) : (Shape.oneOf letters).Reads y later ↔ ∃ c ∈ letters, y = [c] := Iff.rfl
  refine (rounds_iff single).trans ?_
  constructor
  · rintro ⟨pieces, nonempty, all, rfl⟩
    obtain ⟨piece, pieces, rfl⟩ := List.exists_cons_of_ne_nil nonempty
    refine ⟨?_, fun c member => ?_⟩
    · obtain ⟨c, -, rfl⟩ := all piece List.mem_cons_self
      exact List.cons_ne_nil c _
    · obtain ⟨single, inside, here⟩ := List.mem_flatten.mp member
      obtain ⟨d, known, rfl⟩ := all single inside
      rwa [List.mem_singleton.mp here]
  · rintro ⟨nonempty, all⟩
    refine ⟨x.map fun c => [c], by simpa using nonempty, fun piece member => ?_,
      by rw [← List.flatMap_def, List.flatMap_singleton']⟩
    obtain ⟨c, inside, rfl⟩ := List.mem_map.mp member
    exact ⟨c, all c inside, rfl⟩

end Shape

namespace Numeral

open Shape

theorem ofDigits_of_isDigits {text : Text} (digits : IsDigits text) (sign : Int) :
    readNumber.ofDigits sign text =
      if fitsWord (sign * digitsValue text) then .ok (sign * digitsValue text) else .error .tooLarge := by
  obtain ⟨nonempty, all⟩ := digits
  have plain : (text.isEmpty || !text.all isDigit) = false := by
    simp only [List.isEmpty_eq_false_iff.mpr nonempty, List.all_eq_true.mpr all, Bool.not_true,
      Bool.or_false]
  simp only [readNumber.ofDigits, plain]
  rfl

theorem readNumber_of_isDigits {text : Text} (digits : IsDigits text) :
    readNumber text = if fitsWord (digitsValue text) then .ok (digitsValue text) else .error .tooLarge := by
  have spelled := ofDigits_of_isDigits digits 1
  rw [Int.one_mul] at spelled
  obtain ⟨-, all⟩ := digits
  unfold readNumber
  split
  · exact absurd (all '-' List.mem_cons_self) (by decide)
  · exact absurd (all '+' List.mem_cons_self) (by decide)
  · exact spelled

theorem readNumber_minus {digits : Text} (isDigits : IsDigits digits) :
    readNumber ('-' :: digits) =
      if fitsWord (-digitsValue digits) then .ok (-digitsValue digits) else .error .tooLarge := by
  have spelled := ofDigits_of_isDigits isDigits (-1)
  rwa [Int.neg_one_mul] at spelled

theorem readNumber_decimalText {n : Int} (fits : fitsWord n = true) : readNumber (decimalText n) = .ok n := by
  unfold decimalText
  split
  next negative =>
    have size : -(n.natAbs : Int) = n := by omega
    rw [readNumber_minus (isDigits_digitsOf _), digitsValue_digitsOf, size, if_pos fits]
  next natural =>
    have size : (n.natAbs : Int) = n := by omega
    rw [readNumber_of_isDigits (isDigits_digitsOf _), digitsValue_digitsOf, size, if_pos fits]

theorem mem_digits_iff {c : Char} : c ∈ "0123456789".toList ↔ isDigit c = true := by
  constructor
  · have listed : "0123456789".toList.all isDigit = true := by decide
    exact List.all_eq_true.mp listed c
  · intro digit
    have range : 48 ≤ c.toNat ∧ c.toNat ≤ 57 := by
      simpa [isDigit, Char.le_def, UInt32.le_iff_toNat_le] using digit
    have listed : ∀ code ≤ 57, 48 ≤ code → Char.ofNat code ∈ "0123456789".toList := by decide
    rw [← Char.ofNat_toNat c]
    exact listed c.toNat range.2 range.1

theorem mem_nonzero_iff {c : Char} : c ∈ "123456789".toList ↔ isDigit c = true ∧ c ≠ '0' := by
  have split : c ∈ "0123456789".toList ↔ c = '0' ∨ c ∈ "123456789".toList := List.mem_cons
  have zero : '0' ∉ "123456789".toList := by decide
  rw [← mem_digits_iff, split]
  constructor
  · exact fun member => ⟨.inr member, fun same => zero (same ▸ member)⟩
  · exact fun ⟨member, other⟩ => member.resolve_left other

variable {x rest : Text}

/-- What the parts of a numeral that are no words are written with. -/
def figures : List Char := "0123456789-,./".toList

theorem mem_figures_of_digits (digits : ∀ c ∈ x, isDigit c = true) : ∀ c ∈ x, c ∈ figures := fun c member =>
  List.mem_append_left "-,./".toList (mem_digits_iff.mpr (digits c member))

theorem Signed.mem_figures {holds : Text → Prop} (inside : ∀ t, holds t → ∀ c ∈ t, c ∈ figures)
    (signed : Signed holds x) : ∀ c ∈ x, c ∈ figures := by
  rcases signed with unsigned | ⟨rest, rfl, unsigned⟩
  · exact inside x unsigned
  · exact List.forall_mem_cons.mpr ⟨by decide, inside rest unsigned⟩

theorem IsPart.isWord_or_figures (part : IsPart x) : IsWord x ∨ ∀ c ∈ x, c ∈ figures := by
  rcases part with integer | decimal | quotient | grouped | word
  · exact .inr (integer.mem_figures fun t digits => mem_figures_of_digits digits.2)
  · refine .inr (decimal.mem_figures ?_)
    rintro _ ⟨whole, mark, fraction, rfl, known, left, right, -⟩
    have isMark : mark ∈ figures := by rcases known with rfl | rfl <;> decide
    exact List.forall_mem_append.mpr
      ⟨mem_figures_of_digits left, List.forall_mem_cons.mpr ⟨isMark, mem_figures_of_digits right⟩⟩
  · refine .inr (quotient.mem_figures ?_)
    rintro _ ⟨upper, lower, rfl, left, right, -⟩
    exact List.forall_mem_append.mpr
      ⟨mem_figures_of_digits left.2, List.forall_mem_cons.mpr ⟨by decide, mem_figures_of_digits right.2⟩⟩
  · obtain ⟨first, groups, rfl, -, digits, points⟩ := grouped
    refine .inr (List.forall_mem_append.mpr ⟨mem_figures_of_digits fun c member => (digits c member).1, ?_⟩)
    intro c member
    obtain ⟨group, inside, here⟩ := List.mem_flatten.mp member
    obtain ⟨thousands, rfl, -, all⟩ := points group inside
    exact List.forall_mem_cons.mpr ⟨by decide, mem_figures_of_digits all⟩ c here
  · exact .inl word

theorem IsPart.isWord_of_mem (part : IsPart x) {c : Char} (member : c ∈ x) (letter : c ∉ figures) : IsWord x :=
  part.isWord_or_figures.resolve_right fun all => letter (all c member)

theorem reads_digits : (plus digit).Reads x rest ↔ IsDigits x := by
  simp only [digit, anyChar, reads_plus_oneOf, mem_digits_iff, IsDigits]

theorem reads_star_digit : (star digit).Reads x rest ↔ ∀ c ∈ x, isDigit c = true := by
  rw [Shape.star, reads_opt, reads_digits, IsDigits]
  by_cases empty : x = [] <;> simp [empty]

theorem reads_nonzero : nonzero.Reads x rest ↔ ∃ c, x = [c] ∧ isDigit c = true ∧ c ≠ '0' := by
  simp only [nonzero, anyChar, Reads, mem_nonzero_iff]
  exact ⟨fun ⟨c, known, same⟩ => ⟨c, same, known⟩, fun ⟨c, same, known⟩ => ⟨c, known, same⟩⟩

theorem reads_signed {shape : Shape} {holds : Text → Prop}
    (free : ∀ {y later : Text}, shape.Reads y later ↔ holds y) :
    (minus ++ shape).Reads x rest ↔ Signed holds x := by
  rw [reads_append]
  constructor
  · rintro ⟨y, z, rfl, sign, unsigned⟩
    rcases reads_opt.mp sign with rfl | rfl
    · exact .inr ⟨z, rfl, free.mp unsigned⟩
    · exact .inl (free.mp unsigned)
  · rintro (unsigned | ⟨z, rfl, unsigned⟩)
    · exact ⟨[], x, rfl, reads_opt.mpr (.inr rfl), free.mpr unsigned⟩
    · exact ⟨['-'], z, rfl, reads_opt.mpr (.inl rfl), free.mpr unsigned⟩

theorem reads_integer : integer.Reads x rest ↔ IsInteger x := reads_signed reads_digits

theorem reads_around {before mark after : Shape} {front back : Text → Prop} {isMark : Char → Prop}
    (reads_before : ∀ {y later}, before.Reads y later ↔ front y)
    (reads_mark : ∀ {y later}, mark.Reads y later ↔ ∃ c, y = [c] ∧ isMark c)
    (reads_after : ∀ {y later}, after.Reads y later ↔ back y) :
    (before ++ mark ++ after).Reads x rest ↔
      ∃ y c z, x = y ++ c :: z ∧ isMark c ∧ front y ∧ back z := by
  constructor
  · rintro ⟨_, z, rfl, ⟨y, m, rfl, first, middle⟩, last⟩
    obtain ⟨c, rfl, known⟩ := reads_mark.mp middle
    exact ⟨y, c, z, List.append_cons y c z ▸ rfl, known, reads_before.mp first, reads_after.mp last⟩
  · rintro ⟨y, c, z, rfl, known, first, last⟩
    exact ⟨y ++ [c], z, List.append_cons y c z, ⟨y, [c], rfl, reads_before.mpr first,
      reads_mark.mpr ⟨c, rfl, known⟩⟩, reads_after.mpr last⟩

theorem reads_decimal : decimal.Reads x rest ↔ IsDecimal x := by
  refine reads_signed fun {y later} => ?_
  have marks {z back : Text} : (anyChar ",.").Reads z back ↔ ∃ c, z = [c] ∧ (c = ',' ∨ c = '.') := by
    simp [anyChar, Reads, and_comm]
  simp only [reads_anyOf, List.mem_cons, List.not_mem_nil, or_false, exists_eq_or_imp, exists_eq_left,
    reads_around reads_star_digit marks reads_digits, reads_around reads_digits marks reads_star_digit]
  constructor
  · rintro (⟨whole, mark, fraction, rfl, known, left, nonempty, right⟩ |
      ⟨whole, mark, fraction, rfl, known, ⟨nonempty, left⟩, right⟩)
    · exact ⟨whole, mark, fraction, rfl, known, left, right, .inr nonempty⟩
    · exact ⟨whole, mark, fraction, rfl, known, left, right, .inl nonempty⟩
  · rintro ⟨whole, mark, fraction, rfl, known, left, right, nonempty | nonempty⟩
    · exact .inr ⟨whole, mark, fraction, rfl, known, ⟨nonempty, left⟩, right⟩
    · exact .inl ⟨whole, mark, fraction, rfl, known, left, nonempty, right⟩

theorem reads_divisor : (nonzero ++ star digit).Reads x rest ↔ IsDigits x ∧ x.head? ≠ some '0' := by
  constructor
  · rintro ⟨_, z, rfl, first, others⟩
    obtain ⟨c, rfl, isDigit, nonzero⟩ := reads_nonzero.mp first
    refine ⟨⟨List.cons_ne_nil c z, List.forall_mem_cons.mpr ⟨isDigit, reads_star_digit.mp others⟩⟩, ?_⟩
    simpa using nonzero
  · rintro ⟨⟨nonempty, digits⟩, nonzero⟩
    obtain ⟨c, z, rfl⟩ := List.exists_cons_of_ne_nil nonempty
    obtain ⟨first, others⟩ := List.forall_mem_cons.mp digits
    exact ⟨[c], z, rfl, reads_nonzero.mpr ⟨c, rfl, first, by simpa using nonzero⟩,
      reads_star_digit.mpr others⟩

theorem reads_quotient : quotient.Reads x rest ↔ IsQuotient x := by
  have slash {z back : Text} : (Shape.word "/".toList).Reads z back ↔ ∃ c, z = [c] ∧ c = '/' := by
    simp [Reads]
  have unsigned {y later : Text} :
      (plus digit ++ ("/" ++ (nonzero ++ star digit))).Reads y later ↔
        ∃ upper lower, y = upper ++ '/' :: lower ∧ IsDigits upper ∧ IsDigits lower ∧
          lower.head? ≠ some '0' := by
    rw [← reads_append_assoc, reads_around reads_digits slash reads_divisor]
    constructor
    · rintro ⟨upper, _, lower, rfl, rfl, facts⟩
      exact ⟨upper, lower, rfl, facts⟩
    · rintro ⟨upper, lower, rfl, facts⟩
      exact ⟨upper, '/', lower, rfl, rfl, facts⟩
  rw [quotient, reads_append_assoc, reads_append_assoc, reads_append_assoc]
  exact reads_signed unsigned

theorem reads_group : ("." ++ digit ++ digit ++ digit : Shape).Reads x rest ↔ IsGroup x := by
  have single {y later : Text} : digit.Reads y later ↔ ∃ c, y = [c] ∧ isDigit c = true := by
    simp only [digit, anyChar, Reads, mem_digits_iff, and_comm]
  constructor
  · rintro ⟨_, _, rfl, ⟨_, _, rfl, ⟨_, _, rfl, rfl, first⟩, second⟩, third⟩
    obtain ⟨c, rfl, isC⟩ := single.mp first
    obtain ⟨d, rfl, isD⟩ := single.mp second
    obtain ⟨e, rfl, isE⟩ := single.mp third
    exact ⟨[c, d, e], rfl, rfl, by simp [isC, isD, isE]⟩
  · rintro ⟨digits, rfl, three, all⟩
    obtain ⟨c, d, e, rfl⟩ := List.length_eq_three.mp three
    simp only [List.forall_mem_cons] at all
    obtain ⟨isC, isD, isE, -⟩ := all
    exact ⟨['.', c, d], [e], rfl, ⟨['.', c], [d], rfl, ⟨['.'], [c], rfl, rfl, single.mpr ⟨c, rfl, isC⟩⟩,
      single.mpr ⟨d, rfl, isD⟩⟩, single.mpr ⟨e, rfl, isE⟩⟩

theorem reads_groups : (star ("." ++ digit ++ digit ++ digit)).Reads x rest ↔
    ∃ groups : List Text, x = groups.flatten ∧ ∀ group ∈ groups, IsGroup group := by
  have some_groups : (plus ("." ++ digit ++ digit ++ digit)).Reads x rest ↔ x.IsMadeOf IsGroup :=
    rounds_iff fun _ _ => reads_group
  rw [Shape.star, reads_opt, some_groups]
  constructor
  · rintro (⟨groups, -, all, same⟩ | rfl)
    · exact ⟨groups, same, all⟩
    · exact ⟨[], rfl, fun _ member => nomatch member⟩
  · rintro ⟨groups, same, all⟩
    cases groups with
    | nil => exact .inr same
    | cons group groups => exact .inl ⟨group :: groups, List.cons_ne_nil group groups, all, same⟩

theorem reads_leading : (nonzero ++ opt nonzero).Reads x rest ↔
    (x.length = 1 ∨ x.length = 2) ∧ ∀ c ∈ x, isDigit c = true ∧ c ≠ '0' := by
  constructor
  · rintro ⟨_, z, rfl, first, second⟩
    obtain ⟨c, rfl, isC⟩ := reads_nonzero.mp first
    rcases reads_opt.mp second with second | rfl
    · obtain ⟨d, rfl, isD⟩ := reads_nonzero.mp second
      exact ⟨.inr rfl, by simpa using ⟨isC, isD⟩⟩
    · exact ⟨.inl rfl, by simpa using isC⟩
  · rintro ⟨one | two, all⟩
    · obtain ⟨c, rfl⟩ := List.length_eq_one_iff.mp one
      exact ⟨[c], [], rfl, reads_nonzero.mpr ⟨c, rfl, all c List.mem_cons_self⟩, reads_opt.mpr (.inr rfl)⟩
    · obtain ⟨c, d, rfl⟩ := List.length_eq_two.mp two
      obtain ⟨isC, isD⟩ := List.forall_mem_cons.mp all
      exact ⟨[c], [d], rfl, reads_nonzero.mpr ⟨c, rfl, isC⟩,
        reads_opt.mpr (.inl (reads_nonzero.mpr ⟨d, rfl, isD d List.mem_cons_self⟩))⟩

theorem reads_grouped : grouped.Reads x rest ↔ IsGrouped x := by
  constructor
  · rintro ⟨first, _, rfl, leading, later⟩
    obtain ⟨groups, rfl, all⟩ := reads_groups.mp later
    exact ⟨first, groups, rfl, (reads_leading.mp leading).1, (reads_leading.mp leading).2, all⟩
  · rintro ⟨first, groups, rfl, short, nonzero, all⟩
    exact ⟨first, groups.flatten, rfl, reads_leading.mpr ⟨short, nonzero⟩, reads_groups.mpr ⟨groups, rfl, all⟩⟩

def wordLetters : List Char := "birküçdötşealıysznoufm".toList

/-- The letters of the number words against the tables of capitals: their variants fold to them and have
them among themselves, and no run moves another letter to them. -/
theorem wordLetters_checked :
    ((numberWords.all fun entry => entry.1.all wordLetters.contains) &&
      (wordLetters.all fun letter => letter.toNat != 0 && (caseVariants letter).contains letter &&
        (caseVariants letter).all fun c => foldLetter c == letter) &&
      smallRuns.all fun run => wordLetters.all fun letter =>
        !run.covers (letter.toNat - run.shift).toNat ||
          (caseVariants letter).contains (Char.ofNat (letter.toNat - run.shift).toNat)) = true := by
  decide

theorem mem_wordLetters : ∀ entry ∈ numberWords, ∀ letter ∈ entry.1, letter ∈ wordLetters := by
  have listed := (Bool.and_eq_true_iff.mp (Bool.and_eq_true_iff.mp wordLetters_checked).1).1
  intro entry member letter inside
  simpa using List.all_eq_true.mp (List.all_eq_true.mp listed entry member) letter inside

variable {letter c : Char}

theorem IsWord.foldLetter_mem (isWord : IsWord x) (member : c ∈ x) : foldLetter c ∈ wordLetters := by
  obtain ⟨entry, known, same⟩ := List.mem_map.mp isWord
  exact mem_wordLetters entry known _ (same ▸ List.mem_map_of_mem member)

theorem mem_caseVariants_self (known : letter ∈ wordLetters) :
    letter.toNat ≠ 0 ∧ letter ∈ caseVariants letter := by
  have variants := (Bool.and_eq_true_iff.mp (Bool.and_eq_true_iff.mp wordLetters_checked).1).2
  have here := (Bool.and_eq_true_iff.mp (List.all_eq_true.mp variants letter known)).1
  simpa using here

theorem foldLetter_of_mem_caseVariants (known : letter ∈ wordLetters) (variant : c ∈ caseVariants letter) :
    foldLetter c = letter := by
  have variants := (Bool.and_eq_true_iff.mp (Bool.and_eq_true_iff.mp wordLetters_checked).1).2
  have here := (Bool.and_eq_true_iff.mp (List.all_eq_true.mp variants letter known)).2
  exact eq_of_beq (List.all_eq_true.mp here c variant)

theorem capital_mem_caseVariants {run : CaseRun} (member : run ∈ smallRuns) (known : letter ∈ wordLetters)
    (covered : run.covers (letter.toNat - run.shift).toNat = true) :
    Char.ofNat (letter.toNat - run.shift).toNat ∈ caseVariants letter := by
  have runs := (Bool.and_eq_true_iff.mp wordLetters_checked).2
  have here := List.all_eq_true.mp (List.all_eq_true.mp runs run member) letter known
  rw [covered] at here
  simpa using here

theorem long_s_mem_caseVariants : '\u017f' ∈ caseVariants 's' := by
  decide

theorem mem_caseVariants_iff (known : letter ∈ wordLetters) :
    c ∈ caseVariants letter ↔ foldLetter c = letter := by
  refine ⟨foldLetter_of_mem_caseVariants known, fun folded => ?_⟩
  unfold foldLetter at folded
  split at folded
  next long => rw [long, ← folded]; exact long_s_mem_caseVariants
  next =>
    unfold shiftCode at folded
    split at folded
    next run found =>
      have moved : run.move c.toNat = letter.toNat := by
        have nonzero := (mem_caseVariants_self known).1
        rw [← folded] at nonzero ⊢
        exact (toNat_ofNat_of_ne_zero nonzero).symm
      have source : c.toNat = (letter.toNat - run.shift).toNat := by
        have nonzero := (mem_caseVariants_self known).1
        unfold CaseRun.move at moved
        omega
      have covered := List.find?_some found
      rw [source] at covered
      rw [← Char.ofNat_toNat c, source]
      exact capital_mem_caseVariants (List.mem_of_find?_eq_some found) known covered
    next =>
      rw [Char.ofNat_toNat] at folded
      rw [folded]
      exact (mem_caseVariants_self known).2

theorem reads_spelled {word : Text} (known : ∀ letter ∈ word, letter ∈ wordLetters) :
    (spelled word).Reads x rest ↔ x.map foldLetter = word := by
  induction word generalizing x with
  | nil => exact List.map_eq_nil_iff.symm
  | cons letter word ih =>
    obtain ⟨here, later⟩ := List.forall_mem_cons.mp known
    constructor
    · rintro ⟨_, y, rfl, ⟨c, variant, rfl⟩, others⟩
      exact congrArg₂ _ ((mem_caseVariants_iff here).mp variant) ((ih later).mp others)
    · intro folded
      obtain ⟨c, y, rfl, variant, others⟩ := List.map_eq_cons_iff.mp folded
      exact ⟨[c], y, rfl, ⟨c, (mem_caseVariants_iff here).mpr variant, rfl⟩, (ih later).mpr others⟩

theorem reads_word : (anyOf (numberWords.map fun entry => spelled entry.1)).Reads x rest ↔ IsWord x := by
  have each (entry : Text × Int) (member : entry ∈ numberWords) :
      (spelled entry.1).Reads x rest ↔ x.map foldLetter = entry.1 :=
    reads_spelled (mem_wordLetters entry member)
  rw [reads_anyOf, IsWord, List.mem_map]
  simp only [List.mem_map, exists_exists_and_eq_and]
  constructor
  · rintro ⟨entry, member, reads⟩
    exact ⟨entry, member, ((each entry member).mp reads).symm⟩
  · rintro ⟨entry, member, same⟩
    exact ⟨entry, member, (each entry member).mpr same.symm⟩

theorem reads_part : part.Reads x rest ↔ IsPart x := by
  rw [part, reads_anyOf]
  simp only [List.mem_cons, List.not_mem_nil, or_false, exists_eq_or_imp, exists_eq_left,
    reads_integer, reads_decimal, reads_quotient, reads_grouped, reads_word, IsPart]

theorem reads_parts : (plus part).Reads x rest ↔ IsNumeric x := rounds_iff fun _ _ => reads_part

theorem isSteady_parts : (plus part).isSteady = true := by
  rfl

instance (t : Text) : Decidable (IsNumeric t) :=
  decidable_of_iff ((plus part).spells t = true) ((spells_iff isSteady_parts).trans reads_parts)

end Numeral

end TurkishDates
