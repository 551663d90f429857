import Mathlib.Tactic.Choose
import TurkishDates.Proofs.Text.Lowering
import TurkishDates.Proofs.Text.Spacing

/-!
Writing a text in small letters changes characters one by one and keeps the spaces, so it commutes with
cutting the text at spaces and with joining words. Capital letters of Turkish words are undone by it.
-/

namespace TurkishDates

theorem CaseRun.space_lt_move {run : CaseRun} (member : run ∈ smallRuns) {code : Nat}
    (covered : run.covers code = true) : 32 < run.move code := by
  have high : (smallRuns.all fun run => 32 < run.first + run.shift) = true := by decide
  have beyond := of_decide_eq_true (List.all_eq_true.mp high run member)
  simp only [CaseRun.covers, Bool.and_eq_true, decide_eq_true_eq] at covered
  unfold CaseRun.move
  omega

/-- A character has one small form, and only a space becomes a space. -/
theorem exists_lowerChar_eq (c : Char) : ∃ d, lowerChar c = [d] ∧ (d = ' ' ↔ c = ' ') := by
  by_cases latin : c = 'I'
  · subst latin
    exact ⟨'ı', by decide, by decide⟩
  by_cases dotted : c = 'İ'
  · subst dotted
    exact ⟨'i', by decide, by decide⟩
  refine ⟨Char.ofNat (shiftCode smallRuns c.toNat), ?_, ?_⟩
  · rw [lowerChar, if_neg latin, if_neg dotted, smallForm, if_neg dotted]
  · constructor
    · intro space
      unfold shiftCode at space
      split at space
      next run found =>
        have moved := CaseRun.space_lt_move (List.mem_of_find?_eq_some found)
          (List.find?_some (p := fun run : CaseRun => run.covers c.toNat) found)
        have code : (Char.ofNat (run.move c.toNat)).toNat = 32 := congrArg Char.toNat space
        rw [toNat_ofNat_of_ne_zero (by omega)] at code
        omega
      next => rwa [Char.ofNat_toNat] at space
    · intro space
      rw [space]
      decide

theorem upperChar_of_clear {c : Char} (clear : c.toNat < 97 ∨ 122 < c.toNat ∧ c.toNat < 181) :
    upperChar c = [c] := by
  have long : (longCapitals.all fun entry => 181 ≤ entry.1) = true := by decide
  have gaps : (capitalRuns.all fun run => 97 ≤ run.first && run.last ≤ 122 || 181 ≤ run.first) = true := by decide
  have dotted : c ≠ 'i' := by
    rintro rfl
    revert clear
    decide
  have dotless : c ≠ 'ı' := by
    rintro rfl
    revert clear
    decide
  have short : longCapitals.lookup c.toNat = none := List.lookup_eq_none_iff.mpr fun entry member => by
    have place := List.all_eq_true.mp long entry member
    simp only [decide_eq_true_eq] at place
    simp only [bne_iff_ne]
    omega
  have unmoved : capitalRuns.find? (·.covers c.toNat) = none := List.find?_eq_none.mpr fun run member => by
    have place := List.all_eq_true.mp gaps run member
    simp only [Bool.or_eq_true, Bool.and_eq_true, decide_eq_true_eq] at place
    simp only [CaseRun.covers, Bool.and_eq_true, decide_eq_true_eq]
    omega
  rw [upperChar, if_neg dotted, if_neg dotless, capitalForm, short, shiftCode, unmoved, Char.ofNat_toNat]

namespace Text

theorem exists_lower_eq_map :
    ∃ small : Char → Char, (∀ t, lower t = t.map small) ∧ ∀ c, small c = ' ' ↔ c = ' ' := by
  choose small same space using exists_lowerChar_eq
  refine ⟨small, fun t => ?_, space⟩
  rw [lower, funext same, List.map_eq_flatMap]

theorem length_lower (t : Text) : (lower t).length = t.length := by
  obtain ⟨small, same, -⟩ := exists_lower_eq_map
  rw [same, List.length_map]

theorem tokens_lower (t : Text) : (lower t).tokens = t.tokens.map lower := by
  obtain ⟨small, same, space⟩ := exists_lower_eq_map
  rw [same, tokens_map space, funext same]

theorem lower_unwords (words : List Text) : lower (unwords words) = unwords (words.map lower) := by
  induction words with
  | nil => rfl
  | cons word words ih =>
    cases words with
    | nil => rfl
    | cons next words =>
      have space : lowerChar ' ' = [' '] := by decide
      rw [unwords_cons word (List.cons_ne_nil next words), lower_append, lower_cons, space, ih]
      rfl

/-- The small letters of Turkish and its neighbours, the digits, the marks of the ASCII code, and the space. -/
def smallCharacters : List Char :=
  "abcdefghijklmnopqrstuvwxyzçğıöşü0123456789 !\"#$%&'()*+,-./:;<=>?@[\\]^_`\x7b|\x7d~".toList

def smallLetters : List Char := smallCharacters.take 32

def withCapitals (chosen : Nat → Bool) (t : Text) : Text :=
  t.zipIdx.flatMap fun (c, place) => if chosen place then upperChar c else [c]

theorem upperChar_of_not_letter {c : Char} (small : c ∈ smallCharacters) (other : c ∉ smallLetters) :
    upperChar c = [c] := by
  have others : ((smallCharacters.drop 32).all fun c => c.toNat < 97 || 122 < c.toNat && c.toNat < 181) = true := by
    decide
  rw [← List.take_append_drop 32 smallCharacters, List.mem_append] at small
  have clear := List.all_eq_true.mp others c (small.resolve_left other)
  simp only [Bool.or_eq_true, Bool.and_eq_true, decide_eq_true_eq] at clear
  exact upperChar_of_clear clear

theorem lower_upperChar {c : Char} (small : c ∈ smallCharacters) : lower (upperChar c) = [c] ∧ lowerChar c = [c] := by
  have plain : smallCharacters.all isPlain = true := by decide
  have letters : (smallLetters.all fun c => lower (upperChar c) = [c]) = true := by decide +kernel
  have same := lowerChar_of_isPlain (List.all_eq_true.mp plain c small)
  refine ⟨?_, same⟩
  by_cases letter : c ∈ smallLetters
  · exact of_decide_eq_true (List.all_eq_true.mp letters c letter)
  · rw [upperChar_of_not_letter small letter, lower_cons, same]
    rfl

theorem lower_withCapitals {t : Text} (small : ∀ c ∈ t, c ∈ smallCharacters) (chosen : Nat → Bool) :
    lower (withCapitals chosen t) = lower t := by
  have undone (letters : Text) (known : ∀ c ∈ letters, c ∈ smallCharacters) (place : Nat) :
      lower ((letters.zipIdx place).flatMap fun (c, place) => if chosen place then upperChar c else [c]) =
        lower letters := by
    induction letters generalizing place with
    | nil => rfl
    | cons c letters ih =>
      obtain ⟨here, later⟩ := List.forall_mem_cons.mp known
      obtain ⟨capital, same⟩ := lower_upperChar here
      rw [List.zipIdx_cons, List.flatMap_cons, lower_append, ih later, lower_cons]
      congr 1
      simp only
      split
      · rw [capital, same]
      · exact List.append_nil _
  exact undone t small 0

def capital (c : Char) : Char := if c ∈ smallLetters then (upperChar c).headD c else c

theorem capital_of_not_letter {c : Char} (other : c ∉ smallLetters) : capital c = c := if_neg other

theorem upperChar_of_small {c : Char} (small : c ∈ smallCharacters) : upperChar c = [capital c] := by
  have letters : (smallLetters.all fun c => upperChar c = [capital c]) = true := by decide
  by_cases letter : c ∈ smallLetters
  · exact of_decide_eq_true (List.all_eq_true.mp letters c letter)
  · rw [upperChar_of_not_letter small letter, capital_of_not_letter letter]

theorem upper_eq_map {t : Text} (small : ∀ c ∈ t, c ∈ smallCharacters) : upper t = t.map capital := by
  induction t with
  | nil => rfl
  | cons c t ih =>
    obtain ⟨here, later⟩ := List.forall_mem_cons.mp small
    rw [upper_cons, upperChar_of_small here, ih later]
    rfl

theorem lower_map_capital {t : Text} (small : ∀ c ∈ t, c ∈ smallCharacters) : lower (t.map capital) = lower t := by
  induction t with
  | nil => rfl
  | cons c t ih =>
    obtain ⟨here, later⟩ := List.forall_mem_cons.mp small
    obtain ⟨undone, same⟩ := lower_upperChar here
    rw [upperChar_of_small here, lower_cons, lower_nil, List.append_nil] at undone
    rw [List.map_cons, lower_cons, undone, ih later, lower_cons, same]

end Text

end TurkishDates
