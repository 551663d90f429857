import TurkishDates.Proofs.Numeral.Spelling
import TurkishDates.Proofs.Text.Casing

/-!
Number words and runs of digits side by side. They may touch, or have gaps of blanks, semicolons and colons
between them, and the words may have capital letters; only two runs of digits have to be kept apart. They are
read one after the other: no number word begins another one, and a gap only breaks off what is read.
-/

namespace TurkishDates

def CodeRanges.codes (ranges : CodeRanges) : List Nat :=
  ranges.flatMap fun (first, last) => List.range' first (last + 1 - first)

theorem CodeRanges.mem_codes {ranges : CodeRanges} {code : Nat} (inside : ranges.contains code = true) :
    code ∈ ranges.codes := by
  induction ranges with
  | nil => cases inside
  | cons range ranges ih =>
    obtain ⟨first, last⟩ := range
    rw [codes, List.flatMap_cons, ← codes, List.mem_append]
    rw [contains] at inside
    split at inside
    next => cases inside
    next low =>
      split at inside
      next high => exact .inl (List.mem_range'_1.mpr ⟨by omega, by omega⟩)
      next => exact .inr (ih inside)

namespace Numeral

open Arithmetic

def isGap (c : Char) : Bool := isBlank c || c == ';' || c == ':'

/-- A character that the reader of a numeral passes over, and that no step before it changes. -/
structure IsPassed (c : Char) : Prop where
  digit : isDigit c = false
  minus : c ≠ '-'
  letter : isAlphabetic c = false
  unmarked : c ≠ '.' ∧ c ≠ ','
  small : lowerChar c = [c]

instance (c : Char) : Decidable (IsPassed c) :=
  decidable_of_iff (isDigit c = false ∧ c ≠ '-' ∧ isAlphabetic c = false ∧ (c ≠ '.' ∧ c ≠ ',') ∧ lowerChar c = [c])
    ⟨fun ⟨digit, minus, letter, unmarked, small⟩ => ⟨digit, minus, letter, unmarked, small⟩,
      fun passed => ⟨passed.digit, passed.minus, passed.letter, passed.unmarked, passed.small⟩⟩

theorem isPassed_of_isGap {c : Char} (gap : isGap c = true) : IsPassed c := by
  have blanks : (blankRanges.codes.all fun code => IsPassed (Char.ofNat code)) = true := by decide +kernel
  have marks : IsPassed ';' ∧ IsPassed ':' := by decide +kernel
  simp only [isGap, Bool.or_eq_true, beq_iff_eq] at gap
  rcases gap with (blank | rfl) | rfl
  · rw [← Char.ofNat_toNat c]
    exact of_decide_eq_true (List.all_eq_true.mp blanks c.toNat (CodeRanges.mem_codes blank))
  · exact marks.1
  · exact marks.2

/-- A number word with capitals at the chosen places, or a run of digits for a number of 64 bits. -/
inductive Item where
  | word (letters : Text) (value : Int) (capital : Nat → Bool) (known : numberWord? letters = some value)
  | digits (run : Text) (isDigits : IsDigits run) (fits : fitsWord (digitsValue run) = true)

namespace Item

def text : Item → Text
  | word letters _ capital _ => Text.withCapitals capital letters
  | digits run _ _ => run

def small : Item → Text
  | word letters _ _ _ => letters
  | digits run _ _ => run

def value : Item → Int
  | word _ value _ _ => value
  | digits run _ _ => digitsValue run

def isRun : Item → Bool
  | word .. => false
  | digits .. => true

end Item

structure Placed where
  item : Item
  gap : Text
  isGap : gap.all isGap = true

namespace Placed

def text (placed : Placed) : Text := placed.item.text ++ placed.gap

def small (placed : Placed) : Text := placed.item.small ++ placed.gap

/-- Two runs of digits do not touch. -/
def Apart (placed next : Placed) : Prop :=
  placed.item.isRun = true → next.item.isRun = true → placed.gap ≠ []

instance (placed next : Placed) : Decidable (placed.Apart next) :=
  inferInstanceAs (Decidable (_ → _ → _))

end Placed

theorem isPassed_of_mem_gap {placed : Placed} {c : Char} (member : c ∈ placed.gap) : IsPassed c :=
  isPassed_of_isGap (List.all_eq_true.mp placed.isGap c member)

section Reading

variable {run rest : Text}

theorem parts_gap {gap : Text} (passed : ∀ c ∈ gap, IsPassed c) (rest : Text) :
    parts (gap ++ rest) = parts rest := by
  induction gap with
  | nil => rfl
  | cons c gap ih =>
    obtain ⟨here, later⟩ := List.forall_mem_cons.mp passed
    rw [List.cons_append, parts_other here.digit here.minus here.letter, ih later]

/-- Whether a text does not continue a run of digits, and begins none with a minus sign. -/
def Breaks (t : Text) : Prop := ∀ c ∈ t.head?, isDigit c = false ∧ c ≠ '-'

theorem partsAfter_of_breaks (breaks : Breaks rest) (run : Text) :
    partsAfter run [] rest = digitPart run ++ parts rest := by
  have nothing : digitPart [] = [] := rfl
  cases rest with
  | nil => exact (List.append_nil _).symm
  | cons c rest =>
    obtain ⟨digit, minus⟩ := breaks c rfl
    have ends (run : Text) : (isDigit c || (c == '-' && run.isEmpty)) = false := by simp [digit, minus]
    rw [parts, partsAfter, partsAfter, ends, ends, nothing]
    rfl

theorem partsAfter_digits (digits : ∀ c ∈ run, isDigit c = true) (front rest : Text) :
    partsAfter front [] (run ++ rest) = partsAfter (front ++ run) [] rest := by
  induction run generalizing front with
  | nil => rw [List.nil_append, List.append_nil]
  | cons c run ih =>
    obtain ⟨here, later⟩ := List.forall_mem_cons.mp digits
    rw [List.cons_append, partsAfter, here, Bool.true_or, if_pos rfl, ih later, List.append_assoc,
      List.singleton_append]

theorem parts_digits (isDigits : IsDigits run) (fits : fitsWord (digitsValue run) = true) (breaks : Breaks rest) :
    parts (run ++ rest) = (digitsValue run : Int) :: parts rest := by
  rw [parts, partsAfter_digits isDigits.2, List.nil_append, partsAfter_of_breaks breaks, digitPart,
    readNumber_of_isDigits isDigits, if_pos fits]
  rfl

end Reading

theorem breaks_word {letters : Text} {value : Int} (known : numberWord? letters = some value) (rest : Text) :
    Breaks (letters ++ rest) := by
  have named : ∀ entry ∈ numberWords, entry.1 ≠ [] := by decide
  have clear : (wordLetters.all fun c => !isDigit c && c != '-') = true := by decide
  obtain ⟨first, later, same⟩ := List.exists_cons_of_ne_nil (named _ (mem_numberWords known))
  have spelled : letters = first :: later := same
  intro c member
  rw [spelled, List.cons_append, List.head?_cons, Option.mem_some_iff] at member
  have inside : first ∈ letters := spelled ▸ List.mem_cons_self
  have here := List.all_eq_true.mp clear c (mem_wordLetters_of_known known (member ▸ inside))
  simpa using here

theorem breaks_after_run {placed : Placed} {items : List Placed} (apart : (placed :: items).IsChain Placed.Apart)
    (run : placed.item.isRun = true) : Breaks (placed.gap ++ items.flatMap Placed.small) := by
  cases gap : placed.gap with
  | cons c gap' =>
    intro d member
    have passed := isPassed_of_mem_gap (gap ▸ List.mem_cons_self : c ∈ placed.gap)
    rw [← Option.some.inj member]
    exact ⟨passed.digit, passed.minus⟩
  | nil =>
    cases items with
    | nil => exact fun c absent => nomatch absent
    | cons next items =>
      have notRun := (List.isChain_cons_cons.mp apart).1 run
      obtain ⟨item, _, _⟩ := next
      cases item with
      | digits => exact absurd gap (notRun rfl)
      | word letters value capital known =>
        rw [List.nil_append, List.flatMap_cons, Placed.small, List.append_assoc]
        exact breaks_word known _

theorem parts_items {items : List Placed} (apart : items.IsChain Placed.Apart) :
    parts (items.flatMap Placed.small) = items.map fun placed => placed.item.value := by
  induction items with
  | nil => rfl
  | cons placed items ih =>
    have later := ih apart.of_cons
    have breaks := breaks_after_run apart
    have gap := parts_gap (fun c (member : c ∈ placed.gap) => isPassed_of_mem_gap member) (items.flatMap Placed.small)
    rw [List.flatMap_cons, Placed.small, List.append_assoc, List.map_cons]
    -- a word ends with its last letter whatever follows; only a run of digits needs to be broken off
    obtain ⟨item, _, _⟩ := placed
    cases item with
    | word letters value capital known => rw [Item.small, parts_word known, gap, later, Item.value]
    | digits run isDigits fits => rw [Item.small, parts_digits isDigits fits (breaks rfl), gap, later, Item.value]

namespace Item

theorem lower_text (item : Item) : Text.lower item.text = item.small := by
  cases item with
  | word letters value capital known =>
    have listed : wordLetters.all Text.smallCharacters.contains = true := by decide
    have letter (c : Char) (member : c ∈ letters) : c ∈ Text.smallCharacters :=
      List.contains_iff_mem.mp (List.all_eq_true.mp listed c (mem_wordLetters_of_known known member))
    have small : Text.IsSmall letters := fun c member =>
      (plain_letters (List.mem_cons_of_mem ' ' (mem_wordLetters_of_known known member))).2
    rw [text, Text.lower_withCapitals letter]
    exact small.lower_eq
  | digits run isDigits fits =>
    have listed : "0123456789".toList.all isPlain = true := by decide
    have plain : run.all isPlain = true := List.all_eq_true.mpr fun c member =>
      List.all_eq_true.mp listed c (mem_digits_iff.mpr (isDigits.2 c member))
    exact (Text.isSmall_of_all_isPlain plain).lower_eq

theorem unmarked_small {item : Item} {c : Char} (member : c ∈ item.small) : c ≠ '.' ∧ c ≠ ',' := by
  cases item with
  | word letters value capital known =>
    exact (plain_letters (List.mem_cons_of_mem ' ' (mem_wordLetters_of_known known member))).1
  | digits run isDigits fits =>
    have digit := isDigits.2 c member
    constructor <;> (rintro rfl; cases digit)

end Item

theorem lower_items (items : List Placed) :
    Text.lower (items.flatMap Placed.text) = items.flatMap Placed.small := by
  induction items with
  | nil => rfl
  | cons placed items ih =>
    have gap : Text.IsSmall placed.gap := fun c member => (isPassed_of_mem_gap member).small
    rw [List.flatMap_cons, List.flatMap_cons, Text.lower_append, ih, Placed.text, Text.lower_append,
      Item.lower_text, gap.lower_eq, Placed.small]

theorem unmarked_items {items : List Placed} {c : Char} (member : c ∈ items.flatMap Placed.small) :
    c ≠ '.' ∧ c ≠ ',' := by
  obtain ⟨placed, -, here⟩ := List.mem_flatMap.mp member
  rcases List.mem_append.mp here with inItem | inGap
  · exact Item.unmarked_small inItem
  · exact (isPassed_of_mem_gap inGap).unmarked

/-- The value of items written side by side is the place value of their values in order, whether they touch
or not and whichever letters are capitals. -/
theorem value_items {α : Type} [Arithmetic α] {items : List Placed} (apart : items.IsChain Placed.Apart) :
    (value (items.flatMap Placed.text) : α) = placeValue (items.map fun placed => placed.item.value) := by
  rw [value_of_unmarked (lower_items items) fun c member => unmarked_items member, parts_items apart]

theorem value_items_touching_and_apart :
    (value "YÜZ yirmiÜÇ".toList : Int) = placeValue [100, 20, 3] ∧
      (value "3BİNyüz:05 7".toList : Int) = placeValue [3, 1000, 100, 5, 7] := by
  let capitals : Nat → Bool := fun _ => true
  let small : Nat → Bool := fun _ => false
  constructor
  · let items : List Placed :=
      [⟨.word "yüz".toList 100 capitals (by decide), " ".toList, by decide⟩,
        ⟨.word "yirmi".toList 20 small (by decide), [], rfl⟩, ⟨.word "üç".toList 3 capitals (by decide), [], rfl⟩]
    have text : items.flatMap Placed.text = "YÜZ yirmiÜÇ".toList := by decide +kernel
    have apart : items.IsChain Placed.Apart := by decide
    exact text ▸ value_items apart
  · let items : List Placed :=
      [⟨.digits "3".toList (by decide) (by decide), [], rfl⟩,
        ⟨.word "bin".toList 1000 capitals (by decide), [], rfl⟩,
        ⟨.word "yüz".toList 100 small (by decide), ":".toList, by decide⟩,
        ⟨.digits "05".toList (by decide) (by decide), " ".toList, by decide⟩,
        ⟨.digits "7".toList (by decide) (by decide), [], rfl⟩]
    have text : items.flatMap Placed.text = "3BİNyüz:05 7".toList := by decide +kernel
    have apart : items.IsChain Placed.Apart := by decide
    exact text ▸ value_items apart

end Numeral

end TurkishDates
