import Mathlib.Data.List.Infix
import TurkishDates.Proofs.Calendar.DateTexts
import TurkishDates.Proofs.Grammar.FeatureGate
import TurkishDates.Proofs.Resolution.Stability

/-!
Texts whose numerals are written in digits already. Nothing of them is written out, so in small letters they
are normal, unless they are the name of a month. The texts of dates and of ranges between dates are of this kind.
-/

namespace TurkishDates

namespace Numeral

open Shape

/-- Whether each numeric chunk, wherever it begins, is digits already. -/
def IsWrittenOut (t : Text) : Prop :=
  ∀ later, later <:+ t → IsNumeric (chunk later) → isPlainDigits (chunk later) = true

def isNumberLetter (c : Char) : Bool := isDigit c || punctuation.contains c

theorem isPlainDigits_iff {t : Text} :
    isPlainDigits t = true ↔ t.all isNumberLetter = true ∧ ∃ c ∈ t, c ∉ punctuation := by
  have digits : (t.filter fun c => !punctuation.contains c).all isDigit = t.all isNumberLetter := by
    rw [List.all_filter]
    refine congrArg t.all (funext fun c => ?_)
    rw [isNumberLetter, Bool.not_not, Bool.or_comm]
  have nonempty : (t.filter fun c => !punctuation.contains c) ≠ [] ↔ ∃ c ∈ t, c ∉ punctuation := by
    simp
  rw [← nonempty, ← digits, and_comm]
  simp only [isPlainDigits, Bool.and_eq_true, Bool.not_eq_true', List.isEmpty_eq_false_iff]

theorem isPlainDigits_append {s t : Text} (plain : isPlainDigits s = true) (more : t.all isNumberLetter = true) :
    isPlainDigits (s ++ t) = true := by
  obtain ⟨letters, c, member, other⟩ := isPlainDigits_iff.mp plain
  refine isPlainDigits_iff.mpr ⟨?_, c, List.mem_append_left t member, other⟩
  rw [List.all_append, letters, more]
  rfl

theorem IsNumeric.exists_digit_or_word {t : Text} (numeric : IsNumeric t) :
    (∃ c ∈ t, isDigit c = true) ∨ ∃ word, word <:+: t ∧ IsWord word := by
  obtain ⟨pieces, nonempty, parts, rfl⟩ := numeric
  obtain ⟨piece, pieces, rfl⟩ := List.exists_cons_of_ne_nil nonempty
  have inside : piece <:+: (piece :: pieces).flatten := List.infix_of_mem_flatten List.mem_cons_self
  by_cases word : IsWord piece
  · exact .inr ⟨piece, inside, word⟩
  · obtain ⟨c, member, digit⟩ := (parts piece List.mem_cons_self).exists_digit word
    exact .inl ⟨c, inside.subset member, digit⟩

theorem exists_notMem_punctuation {t : Text} (numeric : IsNumeric t) : ∃ c ∈ t, c ∉ punctuation := by
  have marks : punctuation.all (fun c => !isDigit c && !wordLetters.contains (foldLetter c)) = true := by
    decide
  have other {c : Char} (mark : c ∈ punctuation) : ¬isDigit c = true ∧ foldLetter c ∉ wordLetters := by
    simpa using List.all_eq_true.mp marks c mark
  rcases numeric.exists_digit_or_word with ⟨c, member, digit⟩ | ⟨word, inside, isWord⟩
  · exact ⟨c, member, fun mark => (other mark).1 digit⟩
  · obtain ⟨entry, known, same⟩ := List.mem_map.mp isWord
    cases word with
    | nil =>
      have nonempty : ∀ entry ∈ numberWords, entry.1 ≠ [] := by decide
      exact absurd same (nonempty entry known)
    | cons c word =>
      refine ⟨c, inside.subset List.mem_cons_self, fun mark => (other mark).2 ?_⟩
      exact mem_wordLetters entry known _ (by rw [same]; exact List.mem_cons_self)

namespace IsWrittenOut

variable {s t : Text}

theorem of_suffix (writtenOut : IsWrittenOut t) (suffix : s <:+ t) : IsWrittenOut s :=
  fun later inner => writtenOut later (inner.trans suffix)

theorem exists_joined (writtenOut : IsWrittenOut t) :
    ∃ joined, joined ++ afterJoined t = t ∧ joined.all isNumberLetter = true := by
  induction t using afterJoined.induct with
  | case1 => exact ⟨[], by simp [afterJoined]⟩
  | case2 c t joined ih =>
    obtain ⟨rfl, numeric⟩ := joined
    have inner := writtenOut.of_suffix (List.suffix_cons ' ' t)
    obtain ⟨x, split, letters⟩ := ih (inner.of_suffix (afterChunk_suffix t))
    have plain := isPlainDigits_iff.mp (inner t List.suffix_rfl numeric)
    refine ⟨' ' :: (chunk t ++ x), ?_, ?_⟩
    · rw [afterJoined, if_pos ⟨rfl, numeric⟩, List.cons_append, List.append_assoc, split, chunk_append_afterChunk]
    · rw [List.all_cons, List.all_append, plain.1, letters]
      rfl
  | case3 c t apart => exact ⟨[], by simp [afterJoined, apart]⟩

theorem isPlainDigits_run (writtenOut : IsWrittenOut t) (numeric : IsNumeric (chunk t)) :
    isPlainDigits (run t) = true := by
  obtain ⟨joined, split, letters⟩ := (writtenOut.of_suffix (afterChunk_suffix t)).exists_joined
  have whole : run t ++ afterRun t = chunk t ++ joined ++ afterRun t := by
    rw [run_append_afterRun, List.append_assoc, afterRun, split, chunk_append_afterChunk]
  rw [List.append_cancel_right whole]
  exact isPlainDigits_append (writtenOut t List.suffix_rfl numeric) letters

theorem substitute_eq (writtenOut : IsWrittenOut t) (length : Nat) (free : Bool) :
    substitute isSpelled length free t = t := by
  induction free, t using substitute.induct with
  | case1 => exact substitute_nil
  | case2 free c t separator ih =>
    rw [substitute_separator separator, ih (writtenOut.of_suffix (List.suffix_cons c t))]
  | case3 free c t other numeric ih =>
    obtain ⟨rfl, numeric⟩ := numeric
    -- The scan goes on behind the numeral and its separators, in a suffix of the text.
    have left := (afterSeparators_suffix _).trans (afterRun_suffix (c :: t))
    have kept : written isSpelled ⟨length - (c :: t).length, run (c :: t)⟩ = run (c :: t) := by
      rw [written, isSpelled, writtenOut.isPlainDigits_run numeric]
      rfl
    rw [substitute_numeric other numeric, ih (writtenOut.of_suffix left), separators_append, kept,
      run_append_afterRun]
  | case4 free c t other passed ih =>
    rw [substitute_passed other passed, ih (writtenOut.of_suffix (List.suffix_cons c t))]

theorem normalize_eq (writtenOut : IsWrittenOut t) (small : t.IsSmall) (noMonth : canonicalMonth? t = none) :
    normalize t = t := by
  have digits : withDigits t = t := by
    rw [withDigits_eq, small.lower_eq, writeChosen_eq_substitute, writtenOut.substitute_eq]
  rw [normalize, digits, noMonth, Option.getD_none]

/-- A chunk cannot go beyond a space. -/
theorem append_space (first : IsWrittenOut s) (second : IsWrittenOut t) : IsWrittenOut (s ++ ' ' :: t) := by
  intro later suffix numeric
  obtain ⟨front, split⟩ := suffix
  rcases List.append_eq_append_iff.mp split with ⟨inner, rfl, rfl⟩ | ⟨passed, rfl, behind⟩
  · rw [chunk_append_separator inner rfl] at numeric ⊢
    exact first inner (List.suffix_append front inner) numeric
  · cases passed with
    | nil =>
      obtain rfl : later = ' ' :: t := behind.symm
      exact absurd numeric (not_isNumeric_chunk rfl)
    | cons c passed =>
      obtain ⟨rfl, rfl⟩ := List.cons.inj behind
      exact second later (List.suffix_append passed later) numeric

theorem of_numberLetters (letters : t.all isNumberLetter = true) : IsWrittenOut t := by
  intro later suffix numeric
  refine isPlainDigits_iff.mpr ⟨List.all_eq_true.mpr fun c member => ?_, exists_notMem_punctuation numeric⟩
  exact List.all_eq_true.mp letters c (suffix.subset ((List.takeWhile_prefix _).subset member))

end IsWrittenOut

end Numeral

open Numeral

theorem foldLetter_of_isPlain {c : Char} (plain : isPlain c = true) : foldLetter c = c := by
  have clear : ¬isPlain '\u017f' = true ∧ ¬isPlain 'İ' = true ∧ ¬isPlain 'I' = true := by decide
  have long : c ≠ '\u017f' := fun same => clear.1 (same ▸ plain)
  have dotted : c ≠ 'İ' := fun same => clear.2.1 (same ▸ plain)
  have latin : c ≠ 'I' := fun same => clear.2.2 (same ▸ plain)
  have small := lowerChar_of_isPlain plain
  rw [lowerChar, if_neg latin, if_neg dotted, smallForm, if_neg dotted] at small
  rw [foldLetter, if_neg long]
  exact (List.cons.inj small).1

theorem canonicalMonth?_of_space {t : Text} (inside : ' ' ∈ t) : canonicalMonth? t = none := by
  have single : ∀ month ∈ monthTable, ' ' ∉ month.full ∧ ' ' ∉ month.short ∧ ' ' ∉ month.genitive := by decide
  refine Option.map_eq_none_iff.mpr (List.find?_eq_none.mpr fun month member named => ?_)
  obtain ⟨full, short, genitive⟩ := single month member
  simp only [Bool.or_eq_true, decide_eq_true_eq] at named
  rcases named with (rfl | rfl) | rfl
  · exact full inside
  · exact short inside
  · exact genitive inside

structure IsNormal (t : Text) : Prop where
  small : t.IsSmall
  writtenOut : IsWrittenOut t

namespace IsNormal

variable {s t : Text}

theorem append_space (first : IsNormal s) (second : IsNormal t) : IsNormal (s ++ ' ' :: t) where
  small := first.small.append (List.forall_mem_cons.mpr ⟨lowerChar_of_isPlain (by decide), second.small⟩)
  writtenOut := first.writtenOut.append_space second.writtenOut

theorem of_tokens (words : ∀ word ∈ t.tokens, IsNormal word) : IsNormal t := by
  have together (words : List Text) (nonempty : words ≠ []) (normal : ∀ word ∈ words, IsNormal word) :
      IsNormal (Text.unwords words) := by
    induction words with
    | nil => exact absurd rfl nonempty
    | cons word words ih =>
      obtain ⟨first, later⟩ := List.forall_mem_cons.mp normal
      cases words with
      | nil => exact first
      | cons next words => exact first.append_space (ih (List.cons_ne_nil next words) later)
  rw [← Text.unwords_tokens t]
  exact together t.tokens (Text.tokens_ne_nil t) words

theorem isPlain_of_isNumberLetter {c : Char} (letter : isNumberLetter c = true) : isPlain c = true := by
  have marks : punctuation.all isPlain = true := by decide
  have digits : "0123456789".toList.all isPlain = true := by decide
  rcases Bool.or_eq_true_iff.mp letter with digit | mark
  · exact List.all_eq_true.mp digits c (mem_digits_iff.mpr digit)
  · exact List.all_eq_true.mp marks c (List.contains_iff_mem.mp mark)

theorem of_numberLetters (letters : t.all isNumberLetter = true) : IsNormal t where
  small := fun c member => lowerChar_of_isPlain (isPlain_of_isNumberLetter (List.all_eq_true.mp letters c member))
  writtenOut := .of_numberLetters letters

theorem normalize_eq_of_isDigits (normal : IsNormal t) {digits : Text} (isDigits : IsDigits digits)
    (begins : digits <+: t) : normalize t = t := by
  have letters : (monthTable.all fun month =>
      [month.full, month.short, month.genitive].all fun form => form.head?.any fun c => !isDigit c) = true := by
    decide
  refine normal.writtenOut.normalize_eq normal.small (Option.map_eq_none_iff.mpr (List.find?_eq_none.mpr ?_))
  obtain ⟨nonempty, all⟩ := isDigits
  obtain ⟨c, others, rfl⟩ := List.exists_cons_of_ne_nil nonempty
  have digit : isDigit c = true := all c List.mem_cons_self
  obtain ⟨rest, rfl⟩ := begins
  intro month member named
  have forms := List.all_eq_true.mp letters month member
  simp only [Bool.or_eq_true, decide_eq_true_eq] at named
  rcases named with (same | same) | same
  all_goals simp [← same, digit] at forms

theorem normalize_eq (normal : IsNormal t) {width n : Nat} (begins : paddedDigits width n <+: t) :
    normalize t = t :=
  normal.normalize_eq_of_isDigits (isDigits_paddedDigits width n) begins

/-- A word before a normal text needs to be no numeral as a whole only. -/
theorem normalize_word_space {word : Text} (normal : IsNormal t) (small : word.IsSmall) (whole : IsWhole word)
    (noNumeral : ¬IsNumeric word) : normalize (word ++ ' ' :: t) = word ++ ' ' :: t := by
  have allSmall : (word ++ ' ' :: t).IsSmall :=
    small.append (List.forall_mem_cons.mpr ⟨lowerChar_of_isPlain (by decide), normal.small⟩)
  have digits : withDigits (word ++ ' ' :: t) = word ++ ' ' :: t := by
    rw [withDigits_eq, allSmall.lower_eq, writeChosen_eq_substitute, substitute_word whole noNumeral,
      normal.writtenOut.substitute_eq]
  rw [normalize, digits, canonicalMonth?_of_space (by simp), Option.getD_none]

theorem of_wordless {word : Text} (small : word.all isPlain = true) (noDigit : word.all (fun c => !isDigit c) = true)
    (noWord : ∀ entry ∈ numberWords, Text.occurs entry.1 word = false) : IsNormal word := by
  have folded : word.map foldLetter = word :=
    (List.map_congr_left fun c inside => foldLetter_of_isPlain (List.all_eq_true.mp small c inside)).trans
      (List.map_id word)
  refine ⟨Text.isSmall_of_all_isPlain small, fun later suffix numeric => ?_⟩
  have inside : chunk later <:+: word := (List.takeWhile_prefix _).isInfix.trans suffix.isInfix
  rcases numeric.exists_digit_or_word with ⟨c, digit, isDigit⟩ | ⟨part, within, isWord⟩
  · simpa [isDigit] using List.all_eq_true.mp noDigit c (inside.subset digit)
  · obtain ⟨entry, known, same⟩ := List.mem_map.mp isWord
    have occurs : Text.occurs entry.1 word = true := by
      rw [Text.occurs_iff_infix, same, ← folded]
      exact (within.trans inside).map foldLetter
    rw [noWord entry known] at occurs
    cases occurs

/-- A word that has no numeral in it. Number words may be among its letters. -/
theorem of_not_isNumeric {word : Text} (small : word.all isPlain = true)
    (noNumeral : ∀ later ∈ word.tails, ¬IsNumeric (chunk later)) : IsNormal word where
  small := Text.isSmall_of_all_isPlain small
  writtenOut := fun later suffix numeric => absurd numeric (noNumeral later ((List.mem_tails _ _).mpr suffix))

end IsNormal

theorem isNormal_words :
    ∀ word ∈ "ve".toList :: "ile".toList :: "arasında".toList :: "tarihleri".toList :: monthNames, IsNormal word := by
  have plain : ∀ word ∈ "ve".toList :: "ile".toList :: "arasında".toList :: "tarihleri".toList :: monthNames,
      word.all isPlain = true ∧ word.all (fun c => !isDigit c) = true ∧
        ∀ entry ∈ numberWords, Text.occurs entry.1 word = false := by
    decide
  intro word member
  obtain ⟨small, noDigit, noWord⟩ := plain word member
  exact .of_wordless small noDigit noWord

theorem all_paddedDigits (width n : Nat) : (paddedDigits width n).all isNumberLetter = true :=
  List.all_eq_true.mpr fun c member => by
    rw [isNumberLetter, (isDigits_paddedDigits width n).2 c member]
    rfl

namespace Date

variable {date : Date}

theorem all_numericText (date : Date) {s s' : Char} (separator : s ∈ dateSeparators)
    (separator' : s' ∈ dateSeparators) : (date.numericText s s').all isNumberLetter = true := by
  have marks : dateSeparators.all isNumberLetter = true := by decide
  simp only [numericText, List.all_append, List.all_cons, all_paddedDigits, List.all_eq_true.mp marks s separator,
    List.all_eq_true.mp marks s' separator', Bool.and_self]

theorem isNormal_namedText (writable : date.IsWritable) (width : Nat) : IsNormal (date.namedText width) := by
  have digits (width n : Nat) : IsNormal (paddedDigits width n) := .of_numberLetters (all_paddedDigits width n)
  have name : IsNormal date.monthName :=
    isNormal_words date.monthName (by simp [writable.monthName_read.1])
  exact (digits _ _).append_space (name.append_space (digits _ _))

end Date

section Ranges

variable {s t joint ending : Text}

theorem isNormal_conjoined (first : IsNormal s) (second : IsNormal t) (joins : joint ∈ conjunctions) :
    IsNormal (s ++ joint ++ t) := by
  have words : IsNormal "ve".toList ∧ IsNormal "ile".toList :=
    ⟨isNormal_words _ (by simp), isNormal_words _ (by simp)⟩
  rw [List.append_assoc]
  simp only [conjunctions, List.mem_cons, List.not_mem_nil, or_false] at joins
  rcases joins with rfl | rfl
  · exact first.append_space (words.1.append_space second)
  · exact first.append_space (words.2.append_space second)

theorem isNormal_ended (normal : IsNormal s) (ends : ending ∈ rangeEndings) : IsNormal (s ++ ending) := by
  have words : IsNormal "tarihleri".toList ∧ IsNormal "arasında".toList :=
    ⟨isNormal_words _ (by simp), isNormal_words _ (by simp)⟩
  simp only [rangeEndings, List.mem_cons, List.not_mem_nil, or_false] at ends
  rcases ends with rfl | rfl | rfl
  · exact (List.append_nil s).symm ▸ normal
  · exact normal.append_space words.2
  · exact normal.append_space (words.1.append_space words.2)

theorem isNormal_numericRange (first : s.all isNumberLetter = true) (second : t.all isNumberLetter = true)
    (joins : joint ∈ rangeJoints) (ends : ending ∈ rangeEndings) : IsNormal (s ++ joint ++ t ++ ending) := by
  refine isNormal_ended ?_ ends
  have letters (letters : joint.all isNumberLetter = true) : IsNormal (s ++ joint ++ t) :=
    .of_numberLetters (by rw [List.all_append, List.all_append, first, second, letters]; rfl)
  have marks : dateSeparators.all isNumberLetter = true := by decide
  simp only [rangeJoints, List.mem_append, List.mem_cons, List.mem_map] at joins
  rcases joins with (rfl | joins) | ⟨mark, known, rfl⟩
  · exact letters rfl
  · exact isNormal_conjoined (.of_numberLetters first) (.of_numberLetters second) joins
  · exact letters (by rw [List.all_cons, List.all_eq_true.mp marks mark known]; rfl)

end Ranges

end TurkishDates
