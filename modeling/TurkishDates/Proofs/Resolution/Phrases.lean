import TurkishDates.Proofs.Pattern.Completeness
import TurkishDates.Proofs.Resolution.OnlyRule
import TurkishDates.Proofs.Resolution.WrittenOut

/-!
Phrases that count or name days, weeks and months. Each of them is left to a single rule, which keeps the number in
front and the name of the weekday behind of it. A number may have any digits, so a text of a phrase is told from
what the other rules match by its first digits and its words.
-/

namespace TurkishDates

open Numeral

namespace Shape

/-- Digits of any number. So many of the first ones are read apart, as patterns for years and days do. -/
def digitsFrom : Nat → Shape
  | 0 => Wording.number
  | n + 1 => Wording.digit ++ opt (digitsFrom n)

theorem reads_digitsFrom (n : Nat) {digits : Text} (isDigits : IsDigits digits) (later : Text) :
    (digitsFrom n).Reads digits later := by
  induction n generalizing digits with
  | zero => exact reads_digits.mpr isDigits
  | succ n ih =>
    obtain ⟨nonempty, all⟩ := isDigits
    obtain ⟨c, others, rfl⟩ := List.exists_cons_of_ne_nil nonempty
    obtain ⟨first, all⟩ := List.forall_mem_cons.mp all
    refine ⟨[c], others, rfl, ⟨c, mem_digits_iff.mpr first, rfl⟩, ?_⟩
    rw [reads_opt]
    by_cases last : others = []
    · exact .inr last
    · exact .inl (ih ⟨last, all⟩)

end Shape

open Shape Grammar

def countedPhrases : List (Text × Rule) :=
  [("gün sonra".toList, daysLater), ("gün önce".toList, daysBefore), ("dakika sonra".toList, minutesAfter),
    ("dakika önce".toList, minutesBefore), ("ay önce".toList, monthsBefore)]

def countedWeekdayPhrases : List (Text × Rule) :=
  [("hafta sonra".toList, weeksLaterAtWeekday), ("hafta önce".toList, weeksBeforeAtWeekday)]

def weekdayPhrases : List (Text × Rule) := [("önümüzdeki".toList, nextWeekday), ("geçen".toList, previousWeekday)]

def plainPhrases : List (Text × Rule) :=
  [("geçen ay".toList, previousMonth), ("bu ay".toList, thisMonth), ("gelecek ay".toList, nextMonth),
    ("geçen hafta".toList, lastWeek), ("bu hafta".toList, thisWeek), ("hafta içi".toList, weekdays),
    ("hafta sonu".toList, weekend)]

def phraseShapes : List (Shape × Rule) :=
  countedPhrases.map (fun phrase => (digitsFrom 4 ++ " " ++ .word phrase.1, phrase.2)) ++
    countedWeekdayPhrases.map
      (fun phrase => (digitsFrom 4 ++ " " ++ .word phrase.1 ++ " " ++ Wording.weekdayName, phrase.2)) ++
    weekdayPhrases.map (fun phrase => (.word phrase.1 ++ " " ++ Wording.weekdayName, phrase.2)) ++
    plainPhrases.map fun phrase => (.word phrase.1, phrase.2)

theorem phraseShapes_apart : ∀ phrase ∈ phraseShapes,
    phrase.1.isApartFrom (otherShapes grammar phrase.2.name) = true := by
  decide +kernel

theorem mem_grammar_of_mem_phraseShapes : ∀ phrase ∈ phraseShapes, phrase.2 ∈ grammar := by
  simp [phraseShapes, countedPhrases, countedWeekdayPhrases, weekdayPhrases, plainPhrases, grammar, instantRules,
    spanRules]

/-- No other rule matches a text that reads like a phrase. -/
theorem isOnlyMatch_of_mem_phraseShapes {phrase : Shape × Rule} (listed : phrase ∈ phraseShapes) {t : Text}
    (reads : phrase.1.Reads t []) (normal : normalize t = t) {kept : List Text}
    (matched : phrase.2.match? t = some ⟨t, kept.map some⟩) : phrase.2.IsOnlyMatch t kept where
  member := mem_grammar_of_mem_phraseShapes phrase listed
  normal := normal
  left := isLeftTo_of_isApartFrom (phraseShapes_apart phrase listed) reads
  matched := matched

section Words

def phraseWords : List Text :=
  ["gün", "dakika", "ay", "hafta", "önce", "önümüzdeki", "geçen", "bu", "gelecek", "içi"].map String.toList

def sonWords : List Text := ["sonra".toList, "sonu".toList]

theorem isNormal_phraseWords : ∀ word ∈ sonWords ++ (phraseWords ++ weekdayNames), IsNormal word := by
  have apart : ∀ word ∈ sonWords, word.all isPlain = true ∧ ∀ later ∈ word.tails, ¬IsNumeric (chunk later) := by
    decide
  have plain : ∀ word ∈ phraseWords ++ weekdayNames, word.all isPlain = true ∧
      word.all (fun c => !isDigit c) = true ∧ ∀ entry ∈ numberWords, Text.occurs entry.1 word = false := by
    decide
  intro word member
  rcases List.mem_append.mp member with begins | known
  · obtain ⟨small, noNumeral⟩ := apart word begins
    exact .of_not_isNumeric small noNumeral
  · obtain ⟨small, noDigit, noWord⟩ := plain word known
    exact .of_wordless small noDigit noWord

theorem isNormal_weekday {weekday : Text} (name : weekday ∈ weekdayNames) : IsNormal weekday :=
  isNormal_phraseWords weekday (List.mem_append_right _ (List.mem_append_right _ name))

def phrases : List (Text × Rule) := countedPhrases ++ countedWeekdayPhrases ++ weekdayPhrases ++ plainPhrases

theorem isNormal_of_mem_phrases {phrase : Text × Rule} (listed : phrase ∈ phrases) : IsNormal phrase.1 := by
  have known : ∀ words ∈ phrases.map Prod.fst, ∀ word ∈ words.tokens,
      word ∈ sonWords ++ (phraseWords ++ weekdayNames) := by
    decide
  exact .of_tokens fun word inside =>
    isNormal_phraseWords word (known phrase.1 (List.mem_map_of_mem listed) word inside)

end Words

section Counted

variable {digits : Text} {phrase : Text × Rule}

theorem isNormal_digits (isDigits : IsDigits digits) : IsNormal digits :=
  .of_numberLetters (List.all_eq_true.mpr fun c member => by rw [isNumberLetter, isDigits.2 c member]; rfl)

theorem isOnlyMatch_counted (listed : phrase ∈ countedPhrases) (isDigits : IsDigits digits)
    (reads : ∀ shape ∈ phrase.2.pattern.keptShapes, shape.Reads digits (' ' :: phrase.1)) :
    phrase.2.IsOnlyMatch (digits ++ ' ' :: phrase.1) [digits] := by
  have sure : ∀ phrase ∈ countedPhrases, (phrase.2.pattern.isSteady && phrase.2.pattern.isClear) = true ∧
      phrase.2.pattern.keepsBefore (' ' :: phrase.1) = true := by
    decide
  obtain ⟨clear, keeps⟩ := sure phrase listed
  have shaped : (digitsFrom 4 ++ " " ++ .word phrase.1, phrase.2) ∈ phraseShapes := by
    simp only [phraseShapes, List.mem_append]
    exact .inl (.inl (.inl (List.mem_map_of_mem listed)))
  have words : IsNormal phrase.1 := isNormal_of_mem_phrases (by simp [phrases, listed])
  have matched := (Pattern.match?_eq_some_iff clear).mpr (Pattern.reads_of_keepsBefore keeps reads)
  have spelled : (digitsFrom 4 ++ " " ++ .word phrase.1).Reads (digits ++ ' ' :: phrase.1) [] :=
    ⟨digits ++ [' '], phrase.1, by simp, ⟨digits, [' '], rfl, reads_digitsFrom 4 isDigits _, rfl⟩, rfl⟩
  have normal := (isNormal_digits isDigits).append_space words
  exact isOnlyMatch_of_mem_phraseShapes shaped spelled
    (normal.normalize_eq_of_isDigits isDigits (List.prefix_append _ _))
    (Option.map_eq_some_iff.mpr ⟨[digits], matched, rfl⟩)

end Counted

section Weekdays

variable {digits weekday : Text} {phrase : Text × Rule}

theorem reads_weekdayName {name later : Text} : Wording.weekdayName.Reads name later ↔ name ∈ weekdayNames := by
  constructor
  · exact fun reads => mem_texts?_of_reads (by rfl) reads
  · intro member
    have spelled : ∀ name ∈ weekdayNames, Wording.weekdayName.spells name = true := by decide
    exact reads_of_spells (by rfl) (spelled name member) later

theorem eq_of_weekday_suffixes {name t : Text} (known : weekday ∈ weekdayNames) (known' : name ∈ weekdayNames)
    (ends : weekday <:+ t) (ends' : name <:+ t) : weekday = name := by
  have apart : ∀ name ∈ weekdayNames, ∀ other ∈ weekdayNames, name <:+ other → name = other := by decide
  rcases List.suffix_or_suffix_of_suffix ends ends' with inside | inside
  · exact apart weekday known name known' inside
  · exact (apart name known' weekday known inside).symm

def countedWeekday (direction : Shape) : Pattern :=
  keep Wording.number ++ " " ++ Wording.weekNoun ++ " " ++ direction ++ " " ++ keep Wording.weekdayName

/-- The digits end before a space, and the name of the weekday is what the text ends with. -/
theorem kept_countedWeekday {direction : Shape} {kept : List Text} {words : Text} (isDigits : IsDigits digits)
    (name : weekday ∈ weekdayNames)
    (reads : (countedWeekday direction).Reads kept (digits ++ ' ' :: (words ++ ' ' :: weekday)) []) :
    kept = [digits, weekday] := by
  obtain ⟨number, _, _, rfl, split, numberReads, _, _, rfl, rfl, noun, _, rfl, -, _, _, rfl, rfl, way, _, rfl, -,
    _, _, rfl, rfl, last, _, _, rfl, rfl, lastReads, rfl, rfl⟩ := reads
  have run {number t : Text} (all : ∀ c ∈ number, isDigit c = true) :
      (number ++ ' ' :: t).takeWhile isDigit = number := by
    rw [List.takeWhile_append_of_pos all]
    simp [isDigit]
  have sameNumber : digits = number := by
    rw [← run isDigits.2, split]
    exact run (reads_digits.mp numberReads).2
  have ends : last <:+ digits ++ ' ' :: (words ++ ' ' :: weekday) := by
    rw [split]
    exact ⟨number ++ (' ' :: (noun ++ ' ' :: (way ++ [' ']))), by simp⟩
  have ends' : weekday <:+ digits ++ ' ' :: (words ++ ' ' :: weekday) := ⟨digits ++ ' ' :: (words ++ [' ']), by simp⟩
  rw [sameNumber, eq_of_weekday_suffixes name (reads_weekdayName.mp lastReads) ends' ends]

theorem match?_countedWeekday (listed : phrase ∈ countedWeekdayPhrases) (isDigits : IsDigits digits)
    (name : weekday ∈ weekdayNames) :
    phrase.2.match? (digits ++ ' ' :: (phrase.1 ++ ' ' :: weekday)) =
      some ⟨digits ++ ' ' :: (phrase.1 ++ ' ' :: weekday), [some digits, some weekday]⟩ := by
  have known : ∀ phrase ∈ countedWeekdayPhrases, ∃ direction ∈ [Wording.later, Wording.before],
      ∃ way ∈ ["sonra".toList, "önce".toList], phrase.2.pattern = countedWeekday direction ∧
        phrase.2.pattern.isSteady = true ∧ phrase.1 = "hafta".toList ++ ' ' :: way ∧
        (direction.isFree && direction.isSteady) = true ∧ direction.spells way = true := by
    decide
  obtain ⟨direction, -, way, -, counted, steady, words, sure, spelled⟩ := known phrase listed
  have noun : Wording.weekNoun.Reads "hafta".toList (' ' :: (way ++ ' ' :: weekday) ++ []) :=
    reads_of_spells (by rfl) (by decide) _
  have reads : (countedWeekday direction).Reads [digits, weekday] (digits ++ ' ' :: (phrase.1 ++ ' ' :: weekday)) [] :=
    ⟨digits, _, _, rfl, rfl, reads_digits.mpr isDigits, [' '], _, rfl, rfl,
      _, _, by simp [words], noun, [' '], _, rfl, rfl,
      way, ' ' :: weekday, rfl, reads_of_spells sure spelled _, [' '], _, rfl, rfl,
      weekday, [], [], rfl, by simp, reads_weekdayName.mpr name, rfl, rfl⟩
  rw [← counted] at reads
  obtain ⟨kept, matched⟩ := Pattern.exists_match?_of_reads steady reads
  have read := Pattern.reads_of_match? matched
  rw [counted] at read
  rw [kept_countedWeekday isDigits name read] at matched
  exact Option.map_eq_some_iff.mpr ⟨_, matched, rfl⟩

theorem isOnlyMatch_countedWeekday (listed : phrase ∈ countedWeekdayPhrases) (isDigits : IsDigits digits)
    (name : weekday ∈ weekdayNames) :
    phrase.2.IsOnlyMatch (digits ++ ' ' :: (phrase.1 ++ ' ' :: weekday)) [digits, weekday] := by
  have shaped : (digitsFrom 4 ++ " " ++ .word phrase.1 ++ " " ++ Wording.weekdayName, phrase.2) ∈ phraseShapes := by
    simp only [phraseShapes, List.mem_append]
    exact .inl (.inl (.inr (List.mem_map_of_mem listed)))
  have words : IsNormal phrase.1 := isNormal_of_mem_phrases (by simp [phrases, listed])
  have normal := (isNormal_digits isDigits).append_space (words.append_space (isNormal_weekday name))
  have spelled : (digitsFrom 4 ++ " " ++ .word phrase.1 ++ " " ++ Wording.weekdayName).Reads
      (digits ++ ' ' :: (phrase.1 ++ ' ' :: weekday)) [] :=
    ⟨digits ++ ' ' :: (phrase.1 ++ [' ']), weekday, by simp, ⟨digits ++ ' ' :: phrase.1, [' '], by simp,
      ⟨digits ++ [' '], phrase.1, by simp, ⟨digits, [' '], rfl, reads_digitsFrom 4 isDigits _, rfl⟩, rfl⟩, rfl⟩,
      reads_weekdayName.mpr name⟩
  exact isOnlyMatch_of_mem_phraseShapes shaped spelled
    (normal.normalize_eq_of_isDigits isDigits (List.prefix_append _ _)) (match?_countedWeekday listed isDigits name)

theorem isOnlyMatch_weekday (listed : phrase ∈ weekdayPhrases) (name : weekday ∈ weekdayNames) :
    phrase.2.IsOnlyMatch (phrase.1 ++ ' ' :: weekday) [weekday] := by
  have known : ∀ phrase ∈ weekdayPhrases, ∀ weekday ∈ weekdayNames,
      canonicalMonth? (phrase.1 ++ ' ' :: weekday) = none ∧ phrase.2.match? (phrase.1 ++ ' ' :: weekday) =
        some ⟨phrase.1 ++ ' ' :: weekday, [some weekday]⟩ := by
    decide
  obtain ⟨noMonth, matched⟩ := known phrase listed weekday name
  have shaped : (.word phrase.1 ++ " " ++ Wording.weekdayName, phrase.2) ∈ phraseShapes := by
    simp only [phraseShapes, List.mem_append]
    exact .inl (.inr (List.mem_map_of_mem listed))
  have words : IsNormal phrase.1 := isNormal_of_mem_phrases (by simp [phrases, listed])
  have normal := words.append_space (isNormal_weekday name)
  have spelled : (.word phrase.1 ++ " " ++ Wording.weekdayName : Shape).Reads (phrase.1 ++ ' ' :: weekday) [] :=
    ⟨phrase.1 ++ [' '], weekday, by simp, ⟨phrase.1, [' '], rfl, rfl, rfl⟩, reads_weekdayName.mpr name⟩
  exact isOnlyMatch_of_mem_phraseShapes shaped spelled (normal.writtenOut.normalize_eq normal.small noMonth) matched

end Weekdays

theorem isOnlyMatch_plain {phrase : Text × Rule} (listed : phrase ∈ plainPhrases) :
    phrase.2.IsOnlyMatch phrase.1 [] := by
  have known : ∀ phrase ∈ plainPhrases, canonicalMonth? phrase.1 = none ∧
      phrase.2.match? phrase.1 = some ⟨phrase.1, []⟩ := by
    decide
  obtain ⟨noMonth, matched⟩ := known phrase listed
  have shaped : (.word phrase.1, phrase.2) ∈ phraseShapes := by
    simp only [phraseShapes, List.mem_append]
    exact .inr (List.mem_map_of_mem listed)
  have normal : IsNormal phrase.1 := isNormal_of_mem_phrases (by simp [phrases, listed])
  have spelled : (Shape.word phrase.1).Reads phrase.1 [] := rfl
  exact isOnlyMatch_of_mem_phraseShapes shaped spelled (normal.writtenOut.normalize_eq normal.small noMonth) matched

end TurkishDates
