import TurkishDates.Numeral.Reading
import TurkishDates.Proofs.Numeral.Numeric
import TurkishDates.Proofs.Numeral.Scales

/-!
Reading spelled numbers. A number is spelled in groups of three digits, each before the word of its scale,
with a bare `bin` for a single thousand. The value of the spelling is the number, but for that bare `bin`:
behind a larger scale it is not counted.
-/

namespace TurkishDates

namespace Numeral

open Arithmetic PlaceValue

def unitWords : Nat → List Text
  | 1 => ["bir".toList]
  | 2 => ["iki".toList]
  | 3 => ["üç".toList]
  | 4 => ["dört".toList]
  | 5 => ["beş".toList]
  | 6 => ["altı".toList]
  | 7 => ["yedi".toList]
  | 8 => ["sekiz".toList]
  | 9 => ["dokuz".toList]
  | _ => []

def tenWords : Nat → List Text
  | 1 => ["on".toList]
  | 2 => ["yirmi".toList]
  | 3 => ["otuz".toList]
  | 4 => ["kırk".toList]
  | 5 => ["elli".toList]
  | 6 => ["altmış".toList]
  | 7 => ["yetmiş".toList]
  | 8 => ["seksen".toList]
  | 9 => ["doksan".toList]
  | _ => []

/-- The words of a digit that counts hundreds; a single hundred has no digit in front. -/
def hundredWords (digit : Nat) : List Text :=
  if digit = 0 then [] else if digit = 1 then ["yüz".toList] else unitWords digit ++ ["yüz".toList]

def groupWords (group : Nat) : List Text :=
  hundredWords (group / 100) ++ (tenWords (group / 10 % 10) ++ unitWords (group % 10))

def scaleWords (word : Text) (group : Nat) : List Text :=
  if group = 0 then [] else groupWords group ++ [word]

/-- The words of the thousands; a single thousand is a bare `bin`. -/
def thousandWords (group : Nat) : List Text :=
  if group = 1 then ["bin".toList] else scaleWords "bin".toList group

def upperScales : List (Text × Nat) :=
  [("katrilyon".toList, 15), ("trilyon".toList, 12), ("milyar".toList, 9), ("milyon".toList, 6)]

def spellingWords (n : Nat) : List Text :=
  if n = 0 then ["sıfır".toList]
  else upperScales.flatMap (fun (word, scale) => scaleWords word (n / 10 ^ scale % 1000)) ++
    (thousandWords (n / 1000 % 1000) ++ groupWords (n % 1000))

/-- The standard spelling of a number, with single spaces between its words. -/
def spelling (n : Nat) : Text := Text.unwords (spellingWords n)

example : spelling 3210107 = "üç milyon iki yüz on bin yüz yedi".toList := by decide

/-- Whether a word is complete with the last of its letters and has the value, after its beginning. -/
def completes (value : Int) (beginning : Text) : Text → Bool
  | [] => false
  | c :: letters =>
      !isDigit c && c != '-' && isAlphabetic c &&
        match numberWord? (beginning ++ [c]) with
        | some n => letters.isEmpty && n == value
        | none => completes value (beginning ++ [c]) letters

section Letters

variable {c : Char} {beginning : Text}

theorem partsAfter_other (clear : isAlphabetic c = false ∧ isDigit c = false ∧ c ≠ '-') (beginning t : Text) :
    partsAfter [] beginning (c :: t) = parts t := by
  obtain ⟨letter, digit, minus⟩ := clear
  have noDigits : (isDigit c || (c == '-' && List.isEmpty ([] : Text))) = false := by simp [digit, minus]
  rw [partsAfter, noDigits, letter]
  rfl

theorem partsAfter_some (clear : isAlphabetic c = true ∧ isDigit c = false ∧ c ≠ '-') {n : Int}
    (known : numberWord? (beginning ++ [c]) = some n) (t : Text) :
    partsAfter [] beginning (c :: t) = n :: parts t := by
  obtain ⟨letter, digit, minus⟩ := clear
  have noDigits : (isDigit c || (c == '-' && List.isEmpty ([] : Text))) = false := by simp [digit, minus]
  rw [partsAfter, noDigits, if_neg Bool.false_ne_true, if_pos letter, known]
  rfl

theorem partsAfter_none (clear : isAlphabetic c = true ∧ isDigit c = false ∧ c ≠ '-')
    (unknown : numberWord? (beginning ++ [c]) = none) (t : Text) :
    partsAfter [] beginning (c :: t) = partsAfter [] (beginning ++ [c]) t := by
  obtain ⟨letter, digit, minus⟩ := clear
  have noDigits : (isDigit c || (c == '-' && List.isEmpty ([] : Text))) = false := by simp [digit, minus]
  rw [partsAfter, noDigits, if_neg Bool.false_ne_true, if_pos letter, unknown]
  rfl

end Letters

theorem partsAfter_completes {value : Int} {beginning letters : Text}
    (complete : completes value beginning letters = true) (rest : Text) :
    partsAfter [] beginning (letters ++ rest) = value :: parts rest := by
  induction letters generalizing beginning with
  | nil => cases complete
  | cons c letters ih =>
    simp only [completes, Bool.and_eq_true, Bool.not_eq_true', bne_iff_ne, ne_eq] at complete
    obtain ⟨⟨⟨digit, minus⟩, letter⟩, spelled⟩ := complete
    rw [List.cons_append]
    cases known : numberWord? (beginning ++ [c]) with
    | none =>
      rw [known] at spelled
      rw [partsAfter_none ⟨letter, digit, minus⟩ known, ih spelled]
    | some n =>
      rw [known] at spelled
      simp only [Bool.and_eq_true, List.isEmpty_iff, beq_iff_eq] at spelled
      rw [partsAfter_some ⟨letter, digit, minus⟩ known, spelled.1, spelled.2, List.nil_append]

/-- No number word begins another one. -/
theorem completes_numberWords : ∀ entry ∈ numberWords, completes entry.2 [] entry.1 = true := by
  decide

theorem mem_numberWords {word : Text} {value : Int} (known : numberWord? word = some value) :
    (word, value) ∈ numberWords := by
  obtain ⟨front, back, same, -⟩ := List.lookup_eq_some_iff.mp known
  rw [same]
  exact List.mem_append_right _ List.mem_cons_self

theorem mem_wordLetters_of_known {word : Text} {value : Int} (known : numberWord? word = some value) {c : Char}
    (member : c ∈ word) : c ∈ wordLetters :=
  mem_wordLetters _ (mem_numberWords known) c member

theorem parts_word {word : Text} {value : Int} (known : numberWord? word = some value) (rest : Text) :
    parts (word ++ rest) = value :: parts rest :=
  partsAfter_completes (completes_numberWords _ (mem_numberWords known)) rest

theorem parts_other {c : Char} (digit : isDigit c = false) (minus : c ≠ '-') (letter : isAlphabetic c = false)
    (t : Text) : parts (c :: t) = parts t := partsAfter_other ⟨letter, digit, minus⟩ [] t

theorem parts_space (t : Text) : parts (' ' :: t) = parts t :=
  parts_other (by decide) (by decide) (by decide) t

theorem parts_unwords {words : List Text} {values : List Int}
    (known : words.map numberWord? = values.map some) : parts (Text.unwords words) = values := by
  induction words generalizing values with
  | nil =>
    rw [List.map_eq_nil_iff.mp known.symm]
    rfl
  | cons word words ih =>
    obtain ⟨value, values, rfl, here, later⟩ := List.map_eq_cons_iff.mp known.symm
    have last := parts_word here.symm
    cases words with
    | nil =>
      have nothing : parts [] = [] := rfl
      have alone := last []
      rwa [nothing, List.append_nil, ← List.map_eq_nil_iff.mp later] at alone
    | cons next words =>
      rw [Text.unwords_cons word (List.cons_ne_nil next words), last, parts_space, ih later.symm]

theorem plain_letters {c : Char} (member : c ∈ ' ' :: wordLetters) :
    (c ≠ '.' ∧ c ≠ ',') ∧ lowerChar c = [c] := by
  have checked : ((' ' :: wordLetters).all fun c => (c != '.' && c != ',') && isPlain c) = true := by decide
  have here := List.all_eq_true.mp checked c member
  rw [Bool.and_eq_true, Bool.and_eq_true, bne_iff_ne, bne_iff_ne] at here
  exact ⟨here.1, lowerChar_of_isPlain here.2⟩

theorem mem_unwords {words : List Text} {c : Char} (member : c ∈ Text.unwords words) :
    c = ' ' ∨ ∃ word ∈ words, c ∈ word := by
  induction words with
  | nil => cases member
  | cons word words ih =>
    cases words with
    | nil => exact .inr ⟨word, List.mem_cons_self, member⟩
    | cons next words =>
      rw [Text.unwords_cons word (List.cons_ne_nil next words)] at member
      rcases List.mem_append.mp member with here | later
      · exact .inr ⟨word, List.mem_cons_self, here⟩
      · rcases List.mem_cons.mp later with space | later
        · exact .inl space
        · rcases ih later with space | ⟨other, inside, here⟩
          · exact .inl space
          · exact .inr ⟨other, List.mem_cons_of_mem word inside, here⟩

theorem cutAtComma?_eq_none {t : Text} (absent : ∀ c ∈ t, c ≠ ',') : cutAtComma? t = none := by
  induction t with
  | nil => rfl
  | cons c t ih =>
    obtain ⟨here, later⟩ := List.forall_mem_cons.mp absent
    rw [cutAtComma?, if_neg here, ih later]
    rfl

theorem value_of_unmarked {α : Type} [Arithmetic α] {t small : Text} (lower : Text.lower t = small)
    (unmarked : ∀ c ∈ small, c ≠ '.' ∧ c ≠ ',') : (value t : α) = placeValue (parts small) := by
  have noPoint : ∀ c ∈ t, c ≠ '.' := by
    rintro c member rfl
    have kept : lowerChar '.' = ['.'] := by decide
    have inside : '.' ∈ Text.lower t := List.mem_flatMap.mpr ⟨'.', member, kept ▸ List.mem_cons_self⟩
    exact (unmarked '.' (lower ▸ inside)).1 rfl
  have kept : t.filter (· != '.') = t :=
    List.filter_eq_self.mpr fun c member => bne_iff_ne.mpr (noPoint c member)
  have whole : cutAtComma? small = none := cutAtComma?_eq_none fun c member => (unmarked c member).2
  simp only [value, kept, lower, whole]

theorem value_unwords {α : Type} [Arithmetic α] {words : List Text} {values : List Int}
    (known : words.map numberWord? = values.map some) :
    (value (Text.unwords words) : α) = placeValue values := by
  have letters : ∀ c ∈ Text.unwords words, c ∈ ' ' :: wordLetters := by
    intro c member
    rcases mem_unwords member with space | ⟨word, inside, here⟩
    · exact List.mem_cons.mpr (.inl space)
    · have isWord := List.mem_map_of_mem (f := numberWord?) inside
      rw [known] at isWord
      obtain ⟨value, -, same⟩ := List.mem_map.mp isWord
      exact List.mem_cons_of_mem ' ' (mem_wordLetters_of_known same.symm here)
  have small : (Text.unwords words).IsSmall := fun c member => (plain_letters (letters c member)).2
  rw [value_of_unmarked small.lower_eq fun c member => (plain_letters (letters c member)).1, parts_unwords known]

theorem digitWords_parts : ∀ digit < 10,
    (unitWords digit).map numberWord? = (digitParts 1 digit).map some ∧
      (tenWords digit).map numberWord? = (digitParts 10 digit).map some ∧
        (hundredWords digit).map numberWord? = (hundredParts digit).map some := by
  decide

theorem groupWords_parts {group : Nat} (short : group < 1000) :
    (groupWords group).map numberWord? = (groupParts group).map some := by
  have hundreds := (digitWords_parts (group / 100) (by omega)).2.2
  have ten := (digitWords_parts (group / 10 % 10) (by omega)).2.1
  have unit := (digitWords_parts (group % 10) (by omega)).1
  rw [groupWords, groupParts, lowParts, List.map_append, List.map_append, List.map_append,
    List.map_append, hundreds, ten, unit]

theorem scaleWords_parts {word : Text} {scale group : Nat} (short : group < 1000)
    (known : numberWord? word = some ((10 ^ scale : Nat) : Int)) :
    (scaleWords word group).map numberWord? = (scaleParts scale group).map some := by
  unfold scaleWords scaleParts
  split
  · rfl
  · rw [List.map_append, List.map_append, groupWords_parts short, List.map_singleton, List.map_singleton, known]

def thousandParts (group : Nat) : List Int := if group = 1 then [1000] else scaleParts 3 group

def upperParts (n : Nat) : List Int := upperScales.flatMap fun entry => scaleParts entry.2 (n / 10 ^ entry.2 % 1000)

theorem upperScales_spec : ∀ entry ∈ upperScales, numberWord? entry.1 = some ((10 ^ entry.2 : Nat) : Int) ∧
    isThousands (10 ^ entry.2 : Nat) = true ∧ tens (10 ^ entry.2 : Nat) = entry.2 := by
  decide

theorem spellingWords_parts {n : Nat} (positive : n ≠ 0) :
    (spellingWords n).map numberWord? =
      (upperParts n ++ (thousandParts (n / 1000 % 1000) ++ groupParts (n % 1000))).map some := by
  have upper : (upperScales.flatMap fun entry => scaleWords entry.1 (n / 10 ^ entry.2 % 1000)).map numberWord? =
      (upperParts n).map some := by
    rw [upperParts, List.map_flatMap, List.map_flatMap]
    exact List.flatMap_congr fun entry member =>
      scaleWords_parts (Nat.mod_lt _ (by decide)) (upperScales_spec entry member).1
  have thousands : (thousandWords (n / 1000 % 1000)).map numberWord? =
      (thousandParts (n / 1000 % 1000)).map some := by
    have known : numberWord? "bin".toList = some 1000 := by decide
    unfold thousandWords thousandParts
    split
    · rw [List.map_singleton, List.map_singleton, known]
    · exact scaleWords_parts (Nat.mod_lt _ (by decide)) known
  rw [spellingWords, if_neg positive, List.map_append, List.map_append, List.map_append, List.map_append,
    groupWords_parts (Nat.mod_lt _ (by decide)), thousands]
  exact congrArg (· ++ _) upper

variable {α : Type} [Arithmetic α] {bound : Nat}

theorem sum_upperScales {n : Nat} (short : n < 1000000000000000000) :
    (upperScales.map fun entry => n / 10 ^ entry.2 % 1000 * 10 ^ entry.2).sum = n / 1000000 * 1000000 := by
  rw [upperScales, List.map_cons, List.sum_cons, List.map_cons, List.sum_cons, List.map_cons, List.sum_cons,
    List.map_cons, List.sum_cons, List.map_nil, List.sum_nil]
  show n / 10 ^ 15 % 1000 * 10 ^ 15 + (n / 10 ^ 12 % 1000 * 10 ^ 12 +
    (n / 10 ^ 9 % 1000 * 10 ^ 9 + (n / 10 ^ 6 % 1000 * 10 ^ 6 + 0))) = _
  omega

theorem scaleParts_eq_nil {scale group : Nat} : scaleParts scale group = [] ↔ group = 0 := by
  unfold scaleParts
  split
  next zero => exact iff_of_true rfl zero
  next nonzero => exact iff_of_false (List.append_ne_nil_of_right_ne_nil _ (List.cons_ne_nil _ [])) nonzero

theorem million_le : ∀ entry ∈ upperScales, 1000000 ≤ 10 ^ entry.2 := by
  decide

theorem upperParts_eq_nil {n : Nat} (short : n < 1000000000000000000) : upperParts n = [] ↔ n < 1000000 := by
  rw [upperParts, List.flatMap_eq_nil_iff]
  simp only [scaleParts_eq_nil]
  constructor
  · intro empty
    have none : (upperScales.map fun entry => n / 10 ^ entry.2 % 1000 * 10 ^ entry.2) =
        upperScales.map fun _ => 0 :=
      List.map_congr_left fun entry inside => by rw [empty entry inside, Nat.zero_mul]
    have total := sum_upperScales short
    rw [none, show (upperScales.map fun _ => 0).sum = 0 from rfl] at total
    omega
  · intro small entry member
    rw [Nat.div_eq_of_lt (Nat.lt_of_lt_of_le small (million_le entry member))]

theorem counts_upperParts (exact : IsExact α bound) {n : Nat} (short : n < 1000000000000000000) :
    Counts α bound (upperParts n) (n / 1000000 * 1000000) := by
  rw [← sum_upperScales short]
  exact .flatMap fun entry member =>
    counts_scaleParts exact (Nat.mod_lt _ (by decide)) (upperScales_spec entry member).2

/-- What is missing from the value of a spelling: a single thousand behind a larger scale. -/
def lostThousand (n : Nat) : Nat := if n / 1000 % 1000 = 1 ∧ 1000000 ≤ n then 1000 else 0

theorem addParts_thousandParts (exact : IsExact α bound) {total n : Nat}
    (short : n < 1000000000000000000) (small : total + n / 1000 % 1000 * 1000 ≤ bound) :
    addParts (ofInt total) 0 ((thousandParts (n / 1000 % 1000)).reverse ++ (upperParts n).reverse) =
      addParts (ofInt (total + n / 1000 % 1000 * 1000 - lostThousand n : Nat) : α) 0
        (upperParts n).reverse := by
  have closed : IsClosed (upperParts n).reverse := (counts_upperParts exact short).isClosed_reverse
  have isScale : isThousands (10 ^ 3 : Nat) = true ∧ tens (10 ^ 3 : Nat) = 3 := by decide
  unfold thousandParts
  split
  next single =>
    rw [single] at small ⊢
    have bare := addParts_bare_scale exact 3 closed isScale.1 small
    have nothing : (upperParts n).reverse = [] ↔ n < 1000000 :=
      List.reverse_eq_nil_iff.trans (upperParts_eq_nil short)
    have value : (if (upperParts n).reverse = [] then total + 10 ^ 3 else total) =
        total + 1 * 1000 - lostThousand n := by
      simp only [nothing, lostThousand, single, true_and]
      split <;> split <;> omega
    rw [value] at bare
    exact bare
  next several =>
    have kept : lostThousand n = 0 := if_neg fun both => several both.1
    rw [kept]
    exact (counts_scaleParts exact (Nat.mod_lt _ (by decide)) isScale).adds closed small

theorem placeValue_spelled (exact : IsExact α bound) {n : Nat} (short : n < 1000000000000000000)
    (positive : 0 < bound) (small : n ≤ bound) :
    placeValue (upperParts n ++ (thousandParts (n / 1000 % 1000) ++ groupParts (n % 1000))) =
      (ofInt (n - lostThousand n : Nat) : α) := by
  have upper := counts_upperParts exact short
  have closed : IsClosed ((thousandParts (n / 1000 % 1000)).reverse ++ (upperParts n).reverse) := by
    unfold thousandParts
    split
    · intro part member
      rw [← Option.some.inj member]
      rfl
    · exact (counts_scaleParts exact (Nat.mod_lt _ (by decide)) (by decide)).closed upper.isClosed_reverse
  have lost : lostThousand n ≤ n / 1000 % 1000 * 1000 := by
    unfold lostThousand
    split <;> omega
  rw [placeValue, List.reverse_append, List.reverse_append, List.append_assoc]
  rw [show (0 : Int) = (0 : Nat) from rfl,
    addParts_groupParts exact closed (Nat.mod_lt _ (by decide)) (by omega) positive,
    addParts_thousandParts exact short (by omega), upper.addParts_reverse (by omega)]
  congr 2
  omega

/-- A spelled number is read as the number, without the bare thousand that stands behind a larger scale. -/
theorem value_spelling (exact : IsExact α (2 ^ 53)) {n : Nat} (small : n ≤ 2 ^ 53) :
    (value (spelling n) : α) = ofInt (n - lostThousand n : Nat) := by
  by_cases zero : n = 0
  · have known : ["sıfır".toList].map numberWord? = [(0 : Int)].map some := by decide
    have nothing : isZero (sum [] : α) = true := exact.isZero 0 (Nat.zero_le _)
    have twice : add (ofInt 0) (ofInt 0 : α) = ofInt 0 := exact.add 0 0 (Nat.zero_le _)
    rw [zero, spelling, spellingWords, if_pos rfl, value_unwords known, placeValue, List.reverse_singleton,
      addParts_scale_alone rfl nothing, addParts_nil, twice]
    rfl
  · rw [spelling, value_unwords (spellingWords_parts zero)]
    exact placeValue_spelled exact (by omega) (by decide) small

theorem value_spelling_bare_thousand :
    spelling 2001000 = "iki milyon bin".toList ∧ (value (spelling 2001000) : Int) = 2000000 :=
  ⟨by decide, value_spelling (isExact_int _) (by decide)⟩

end Numeral

end TurkishDates
