import TurkishDates.Proofs.Numeral.Scanner
import TurkishDates.Resolution.Normalize

/-!
Writing numerals in digits. Writing some of the numerals of a text in digits, the last one first, is one
substitution along the scan. The scan finds the same numerals in what is written, so the rest of them can
still be written out there.
-/

namespace TurkishDates

namespace Numeral

open Shape

/-- Writes the chosen numerals of the text in digits, the last one first. -/
def writeChosen (chosen : Numeral → Bool) (t : Text) : Text :=
  ((findAll t).filter chosen).foldr (fun n => n.splice (decimalText n.wholeValue)) t

def written (chosen : Numeral → Bool) (n : Numeral) : Text :=
  if chosen n then decimalText n.wholeValue else n.text

/-- What remains of a text of `length` characters, with the chosen numerals of its scan in digits. -/
def substitute (chosen : Numeral → Bool) (length : Nat) (free : Bool) : Text → Text
  | [] => []
  | c :: t =>
      if isSeparator c then c :: substitute chosen length true t
      else if free = true ∧ IsNumeric (chunk (c :: t)) then
        written chosen ⟨length - (c :: t).length, run (c :: t)⟩ ++
          ((afterRun (c :: t)).takeWhile isSeparator ++
            substitute chosen length false (afterSeparators (afterRun (c :: t))))
      else c :: substitute chosen length false t
termination_by t => t.length
decreasing_by
  · exact Nat.lt_succ_self t.length
  · exact Nat.lt_of_le_of_lt (afterSeparators_suffix _).length_le
      (length_afterRun_lt (by simpa using ‹¬isSeparator c = true›))
  · exact Nat.lt_succ_self t.length

section Equations

variable {chosen : Numeral → Bool} {length : Nat} {free : Bool} {c : Char} {t : Text}

theorem substitute_nil : substitute chosen length free [] = [] := by
  rw [substitute]

theorem substitute_separator (separator : isSeparator c = true) :
    substitute chosen length free (c :: t) = c :: substitute chosen length true t := by
  rw [substitute, if_pos separator]

theorem substitute_numeric (other : ¬ isSeparator c = true) (numeric : IsNumeric (chunk (c :: t))) :
    substitute chosen length true (c :: t) =
      written chosen ⟨length - (c :: t).length, run (c :: t)⟩ ++
        ((afterRun (c :: t)).takeWhile isSeparator ++
          substitute chosen length false (afterSeparators (afterRun (c :: t)))) := by
  rw [substitute, if_neg other, if_pos ⟨rfl, numeric⟩]

theorem substitute_passed (other : ¬ isSeparator c = true)
    (passed : ¬ (free = true ∧ IsNumeric (chunk (c :: t)))) :
    substitute chosen length free (c :: t) = c :: substitute chosen length false t := by
  rw [substitute, if_neg other, if_neg passed]

end Equations

theorem splice_in_place {n : Numeral} {front back : Text} (placed : front.length = n.start) (written : Text) :
    n.splice written (front ++ (n.text ++ back)) = front ++ (written ++ back) := by
  have stops : (front ++ n.text).length = n.stop := by
    rw [List.length_append, placed]
    rfl
  rw [splice, ← placed, List.take_left, ← List.append_assoc front n.text, ← stops, List.drop_left,
    List.append_assoc]

theorem scan_not_free {length : Nat} {free : Bool} {c : Char} {t : Text} (other : isSeparator c = false)
    (passed : ¬ (free = true ∧ IsNumeric (chunk (c :: t)))) :
    scan length free (c :: t) = scan length false t := by
  have idle : ¬ (false = true ∧ IsNumeric (chunk (c :: t))) := by simp
  rw [scan_passed other passed, ← scan_passed other idle, scan_taken other]

/-- Splicing the chosen numerals of a scan leaves what stands before it. The induction goes along the scan
and moves what it passes over to the text in front. -/
theorem foldr_splice (chosen : Numeral → Bool) {length : Nat} (free : Bool) (front t : Text)
    (placed : front.length + t.length = length) :
    ((scan length free t).filter chosen).foldr (fun n => n.splice (decimalText n.wholeValue)) (front ++ t) =
      front ++ substitute chosen length free t := by
  induction free, t using substitute.induct generalizing front with
  | case1 => rw [scan_nil, substitute_nil]; rfl
  | case2 free c t separator ih =>
    have moved := ih (front ++ [c]) (by simpa [Nat.add_assoc, Nat.add_comm 1] using placed)
    rw [scan_separator separator, substitute_separator separator, List.append_cons, moved, ← List.append_cons]
  | case3 free c t other numeric ih =>
    obtain ⟨rfl, numeric⟩ := numeric
    have single : isSeparator c = false := by simpa using other
    rw [scan_numeric single numeric, substitute_numeric other numeric]
    generalize same : (⟨length - (c :: t).length, run (c :: t)⟩ : Numeral) = n
    have start : front.length = n.start := by
      rw [← same, ← placed]
      exact (Nat.add_sub_cancel ..).symm
    have text : n.text = run (c :: t) := by rw [← same]
    have split : c :: t = n.text ++ ((afterRun (c :: t)).takeWhile isSeparator ++
        afterSeparators (afterRun (c :: t))) := by
      rw [separators_append, text, run_append_afterRun]
    have inner := ih (front ++ (n.text ++ (afterRun (c :: t)).takeWhile isSeparator)) (by
      have whole := congrArg List.length split
      simp only [List.length_append] at whole ⊢
      omega)
    rw [List.append_assoc, List.append_assoc n.text, ← split, List.append_assoc, List.append_assoc] at inner
    -- the numerals behind this one are spliced first, so its place is still where the scan found it
    rw [List.filter_cons, written]
    split
    next => rw [List.foldr_cons, inner, splice_in_place start]
    next => exact inner
  | case4 free c t other passed ih =>
    have single : isSeparator c = false := by simpa using other
    have moved := ih (front ++ [c]) (by simpa [Nat.add_assoc, Nat.add_comm 1] using placed)
    rw [scan_not_free single passed, substitute_passed other passed, List.append_cons, moved,
      ← List.append_cons]

theorem writeChosen_eq_substitute (chosen : Numeral → Bool) (t : Text) :
    writeChosen chosen t = substitute chosen t.length true t := by
  have spliced := foldr_splice chosen true [] t (Nat.zero_add _)
  rwa [← findAll_eq] at spliced

section Words

variable {chosen : Numeral → Bool} {length : Nat} {word t : Text}

/-- Behind the first letter of a word, the scan is free again after the next space. -/
theorem substitute_not_free (whole : IsWhole word) :
    substitute chosen length false (word ++ ' ' :: t) = word ++ ' ' :: substitute chosen length true t := by
  induction word with
  | nil => exact substitute_separator (by decide)
  | cons c word ih =>
    obtain ⟨first, later⟩ := List.forall_mem_cons.mp whole
    have other : ¬isSeparator c = true := by simp [first]
    rw [List.cons_append, substitute_passed other (by simp), ih later, List.cons_append]

/-- A word that is no numeral is passed over, though a numeral may end it. -/
theorem substitute_word (whole : IsWhole word) (noNumeral : ¬IsNumeric word) :
    substitute chosen length true (word ++ ' ' :: t) = word ++ ' ' :: substitute chosen length true t := by
  cases word with
  | nil => exact substitute_separator (by decide)
  | cons c word =>
    obtain ⟨first, later⟩ := List.forall_mem_cons.mp whole
    have other : ¬isSeparator c = true := by simp [first]
    have ends : endsChunk (' ' :: t) = true := by rw [endsChunk_cons]; decide
    have whole : chunk (c :: (word ++ ' ' :: t)) = c :: word := chunk_append_of_ends whole ends
    rw [List.cons_append, substitute_passed other (by simp [whole, noNumeral]), substitute_not_free later,
      List.cons_append]

end Words

theorem substitute_run {chosen : Numeral → Bool} {length : Nat} {x rest : Text} (isRun : IsRun x)
    (ends : EndsRun rest) :
    substitute chosen length true (x ++ rest) =
      written chosen ⟨length - (x ++ rest).length, x⟩ ++
        (rest.takeWhile isSeparator ++ substitute chosen length false (afterSeparators rest)) := by
  obtain ⟨numeric, left⟩ := isRun rest ends
  have same := isRun.run_append ends
  cases shown : x ++ rest with
  | nil =>
    rw [shown] at numeric
    exact absurd numeric not_isNumeric_nil
  | cons c t =>
    rw [shown] at numeric left same
    have other : ¬ isSeparator c = true := fun separator =>
      not_isNumeric_chunk (t := c :: t) separator numeric
    rw [substitute_numeric other numeric, same, left]

theorem chunk_substitute (chosen : Numeral → Bool) (length : Nat) (t : Text) :
    chunk (substitute chosen length false t) = chunk t ∧
      (substitute chosen length false t).head? = t.head? := by
  induction t with
  | nil => rw [substitute_nil]; exact ⟨rfl, rfl⟩
  | cons c t ih =>
    by_cases separator : isSeparator c = true
    · rw [substitute_separator separator, chunk_of_endsChunk (t := c :: t) separator]
      exact ⟨chunk_of_endsChunk separator, rfl⟩
    · rw [substitute_passed separator (by simp), chunk_cons separator, chunk_cons separator, ih.1]
      exact ⟨rfl, rfl⟩

def isSpelled (n : Numeral) : Bool := !isPlainDigits n.text

theorem isInteger_decimalText (v : Int) : IsInteger (decimalText v) := by
  unfold decimalText
  split
  · exact .inr ⟨_, rfl, isDigits_digitsOf _⟩
  · exact .inl (isDigits_digitsOf _)

theorem isNumeric_decimalText (v : Int) : IsNumeric (decimalText v) :=
  ⟨[decimalText v], List.cons_ne_nil _ _, by simpa using .inl (isInteger_decimalText v), by simp⟩

theorem isPlainDigits_decimalText (v : Int) : isPlainDigits (decimalText v) = true := by
  obtain ⟨nonempty, digits⟩ := isDigits_digitsOf v.natAbs
  have listed : ("0123456789".toList.all fun c => !punctuation.contains c) = true := by decide
  have kept : (digitsOf v.natAbs).filter (fun c => !punctuation.contains c) = digitsOf v.natAbs :=
    List.filter_eq_self.mpr fun c member =>
      List.all_eq_true.mp listed c (mem_digits_iff.mpr (digits c member))
  have stripped : (decimalText v).filter (fun c => !punctuation.contains c) = digitsOf v.natAbs := by
    unfold decimalText
    split
    · rw [List.filter_cons_of_neg (by decide), kept]
    · exact kept
  simp only [isPlainDigits, stripped, Bool.and_eq_true, Bool.not_eq_true', List.isEmpty_eq_false_iff,
    List.all_eq_true]
  exact ⟨nonempty, digits⟩

theorem written_isSpelled {m n : Numeral} (same : m.text = n.text) :
    written isSpelled m = written isSpelled n := by
  unfold written isSpelled wholeValue
  rw [same]

theorem written_written {chosen : Numeral → Bool} (spelled : ∀ n, chosen n = true → isSpelled n = true)
    (n : Numeral) (place : Nat) :
    written isSpelled ⟨place, written chosen n⟩ = written isSpelled n := by
  by_cases isChosen : chosen n = true
  · have digits : written chosen n = decimalText n.wholeValue := if_pos isChosen
    rw [digits, written, isSpelled, isPlainDigits_decimalText]
    exact (if_pos (spelled n isChosen)).symm
  · have kept : written chosen n = n.text := if_neg isChosen
    rw [kept]
    exact written_isSpelled rfl

theorem isRun_written {chosen : Numeral → Bool} {n : Numeral} (isRun : IsRun n.text) :
    IsRun (written chosen n) := by
  unfold written
  split
  · exact isRun_of_isNumeric (isNumeric_decimalText n.wholeValue)
  · exact isRun

/-- Numerals can be written out as well when some of them already are. What is written in the place of a
numeral is one run again, and behind it the text begins as before, so the scan stops at the same places. -/
theorem substitute_substitute {chosen : Numeral → Bool}
    (spelled : ∀ n, chosen n = true → isSpelled n = true) {length : Nat} (before after : Nat)
    (free : Bool) (t : Text) :
    substitute isSpelled after free (substitute chosen before free t) =
      substitute isSpelled length free t := by
  induction free, t using substitute.induct with
  | case1 => rw [substitute_nil, substitute_nil, substitute_nil]
  | case2 free c t separator ih =>
    rw [substitute_separator separator, substitute_separator separator, substitute_separator separator, ih]
  | case3 free c t other numeric ih =>
    obtain ⟨rfl, numeric⟩ := numeric
    obtain ⟨alike, head⟩ := chunk_substitute chosen before
      (afterSeparators (afterRun (c :: t)))
    have isRun : IsRun (written chosen ⟨before - (c :: t).length, run (c :: t)⟩) :=
      isRun_written (isRun_run numeric)
    obtain ⟨same, left⟩ := takeWhile_separators_append head
    have ends := (endsRun_afterRun (c :: t)).of_alike alike head
    rw [substitute_numeric other numeric, substitute_run isRun ends, same, left, ih,
      written_written spelled, substitute_numeric other numeric]
    exact congrArg (· ++ _) (written_isSpelled rfl)
  | case4 free c t other passed ih =>
    have alike := (chunk_substitute chosen before t).1
    have passed' : ¬ (free = true ∧ IsNumeric (chunk (c :: substitute chosen before false t))) := by
      rwa [chunk_cons other, alike, ← chunk_cons other]
    rw [substitute_passed other passed, substitute_passed other passed', ih, substitute_passed other passed]

end Numeral

end TurkishDates
