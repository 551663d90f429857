import TurkishDates.Text.TurkishCase

/-!
Small letters stay as they are. No capital letter moves to a code point from which another one moves, so
writing a text in small letters twice is writing it so once.
-/

namespace TurkishDates

theorem toNat_ofNat_of_ne_zero {n : Nat} (nonzero : (Char.ofNat n).toNat ≠ 0) :
    (Char.ofNat n).toNat = n := by
  unfold Char.ofNat at nonzero ⊢
  by_cases valid : n.isValidChar
  · rw [dif_pos valid]
    exact BitVec.toNat_ofNatLT n _
  · rw [dif_neg valid] at nonzero
    exact absurd rfl nonzero

def CaseRun.codes (run : CaseRun) : List Nat :=
  List.range' run.first ((run.last - run.first) / run.step + 1) run.step

theorem CaseRun.mem_codes {run : CaseRun} {code : Nat} (covered : run.covers code = true) :
    code ∈ run.codes := by
  simp only [covers, Bool.and_eq_true, decide_eq_true_eq, beq_iff_eq] at covered
  obtain ⟨⟨low, high⟩, aligned⟩ := covered
  have whole := Nat.div_add_mod (code - run.first) run.step
  have steps : (code - run.first) / run.step ≤ (run.last - run.first) / run.step :=
    Nat.div_le_div_right (Nat.sub_le_sub_right high run.first)
  exact List.mem_range'.mpr ⟨(code - run.first) / run.step, Nat.lt_succ_of_le steps, by omega⟩

def capitalCodes : List Nat := 'İ'.toNat :: smallRuns.flatMap CaseRun.codes

def movedCodes : List Nat := smallRuns.flatMap fun run => run.codes.map run.move

/-- A set of code points as the bits of a number, which makes two large sets quick to compare. -/
def bits (codes : List Nat) : Nat := codes.foldr (fun code bits => bits ||| 1 <<< code) 0

theorem testBit_bits {codes : List Nat} {code : Nat} (member : code ∈ codes) :
    (bits codes).testBit code = true := by
  induction codes with
  | nil => cases member
  | cons other codes ih =>
    rw [bits, List.foldr_cons, Nat.testBit_or, ← bits]
    rcases List.mem_cons.mp member with rfl | later
    · rw [Nat.one_shiftLeft, Nat.testBit_two_pow_self, Bool.or_true]
    · rw [ih later, Bool.true_or]

theorem capital_not_moved {code : Nat} (moved : code ∈ movedCodes) : code ∉ capitalCodes := by
  have apart : bits capitalCodes &&& bits movedCodes = 0 := by decide +kernel
  intro capital
  have both : (bits capitalCodes &&& bits movedCodes).testBit code = true := by
    rw [Nat.testBit_and, testBit_bits capital, testBit_bits moved, Bool.and_true]
  rw [apart, Nat.zero_testBit] at both
  cases both

theorem lowerChar_of_not_covered {c : Char} (dotted : c ≠ 'İ')
    (alone : ∀ run ∈ smallRuns, run.covers c.toNat = false) : lowerChar c = [c] := by
  have latin : c ≠ 'I' := by
    rintro rfl
    have absurd : (⟨65, 90, 1, 32⟩ : CaseRun).covers 73 = false := alone _ List.mem_cons_self
    cases absurd
  have none : smallRuns.find? (·.covers c.toNat) = none :=
    List.find?_eq_none.mpr fun run member => by simp [alone run member]
  rw [lowerChar, if_neg latin, if_neg dotted, smallForm, if_neg dotted, shiftCode, none, Char.ofNat_toNat]

/-- Characters that stand clear of all capital letters: digits and marks, and the small letters of Turkish
and its neighbours. -/
def isPlain (c : Char) : Bool :=
  c.toNat < 65 || (90 < c.toNat && c.toNat < 192) || "çğıöşü".toList.contains c

theorem lowerChar_of_isPlain {c : Char} (plain : isPlain c = true) : lowerChar c = [c] := by
  have gaps : (smallRuns.all fun run => 65 ≤ run.first && run.last ≤ 90 || 192 ≤ run.first) = true := by decide
  have turkish : ("çğıöşü".toList.all fun c => lowerChar c == [c]) = true := by decide
  simp only [isPlain, Bool.or_eq_true, Bool.and_eq_true, decide_eq_true_eq, List.contains_iff_mem] at plain
  rcases plain with clear | special
  · refine lowerChar_of_not_covered (fun dotted => ?_) fun run member => ?_
    · rw [dotted] at clear
      revert clear
      decide
    · have place := List.all_eq_true.mp gaps run member
      simp only [Bool.or_eq_true, Bool.and_eq_true, decide_eq_true_eq] at place
      simp only [CaseRun.covers, Bool.and_eq_false_iff, decide_eq_false_iff_not]
      omega
  · exact eq_of_beq (List.all_eq_true.mp turkish c special)

theorem lowerChar_moved {run : CaseRun} (member : run ∈ smallRuns) {code : Nat}
    (covered : run.covers code = true) :
    lowerChar (Char.ofNat (run.move code)) = [Char.ofNat (run.move code)] := by
  by_cases zero : (Char.ofNat (run.move code)).toNat = 0
  · rw [← Char.ofNat_toNat (Char.ofNat (run.move code)), zero]
    decide
  · have same := toNat_ofNat_of_ne_zero zero
    have moved : (Char.ofNat (run.move code)).toNat ∈ movedCodes := by
      rw [same]
      exact List.mem_flatMap.mpr ⟨run, member, List.mem_map_of_mem (CaseRun.mem_codes covered)⟩
    refine lowerChar_of_not_covered (fun dotted => ?_) fun other inside => ?_
    · exact capital_not_moved moved (dotted ▸ List.mem_cons_self)
    · rw [← Bool.not_eq_true]
      intro again
      exact capital_not_moved moved (List.mem_cons_of_mem _
        (List.mem_flatMap.mpr ⟨other, inside, CaseRun.mem_codes again⟩))

theorem lowerChar_of_mem_lowerChar {c d : Char} (member : d ∈ lowerChar c) : lowerChar d = [d] := by
  have dotless : lowerChar 'ı' = ['ı'] := by decide
  have dotted : lowerChar 'i' = ['i'] := by decide
  unfold lowerChar at member
  split at member
  next => rwa [List.mem_singleton.mp member]
  next latin =>
    split at member
    next => rwa [List.mem_singleton.mp member]
    next other =>
      rw [smallForm, if_neg other, List.mem_singleton] at member
      rw [member, shiftCode]
      split
      next run found =>
        exact lowerChar_moved (List.mem_of_find?_eq_some found)
          (List.find?_some (p := fun run : CaseRun => run.covers c.toNat) found)
      next found =>
        rw [Char.ofNat_toNat]
        refine lowerChar_of_not_covered other fun run inside => ?_
        simpa using List.find?_eq_none.mp found run inside

namespace Text

def IsSmall (t : Text) : Prop := ∀ c ∈ t, lowerChar c = [c]

theorem IsSmall.lower_eq {t : Text} (small : IsSmall t) : lower t = t := by
  induction t with
  | nil => rfl
  | cons c t ih =>
    obtain ⟨here, later⟩ := List.forall_mem_cons.mp small
    rw [lower_cons, here, ih later, List.singleton_append]

theorem isSmall_lower (t : Text) : IsSmall (lower t) := fun d member => by
  obtain ⟨c, -, inside⟩ := List.mem_flatMap.mp member
  exact lowerChar_of_mem_lowerChar inside

theorem isSmall_of_all_isPlain {t : Text} (plain : t.all isPlain = true) : IsSmall t := fun c member =>
  lowerChar_of_isPlain (List.all_eq_true.mp plain c member)

theorem IsSmall.append {s t : Text} (first : IsSmall s) (second : IsSmall t) : IsSmall (s ++ t) :=
  List.forall_mem_append.mpr ⟨first, second⟩

end Text

end TurkishDates
