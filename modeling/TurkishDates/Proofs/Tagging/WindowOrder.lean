import Mathlib.Data.List.Sort
import TurkishDates.Tagging.Windows

/-!
The order in which windows are resolved: smaller windows first, windows of one size from left to right.
The list of all windows is the ascending one, and no other list ascends through the same windows.
-/

namespace TurkishDates

namespace Window

abbrev Covers (window : Window) (i : Nat) : Prop :=
  window.start ≤ i ∧ i < window.start + window.size

def Meets (first second : Window) : Prop := ∃ i, first.Covers i ∧ second.Covers i

/-- The window has a token, and all its tokens are among `n`. -/
def Within (window : Window) (n : Nat) : Prop := 1 ≤ window.size ∧ window.start + window.size ≤ n

def Precedes (first second : Window) : Prop :=
  first.size < second.size ∨ first.size = second.size ∧ first.start < second.start

theorem Precedes.size_le {first second : Window} (before : first.Precedes second) :
    first.size ≤ second.size := by
  rcases before with smaller | ⟨same, -⟩ <;> omega

theorem Precedes.start_lt {first second : Window} (before : first.Precedes second)
    (same : first.size = second.size) : first.start < second.start := by
  rcases before with smaller | ⟨-, left⟩ <;> omega

instance : Std.Irrefl Precedes where
  irrefl window before := by
    rcases before with smaller | ⟨-, left⟩ <;> omega

instance : Std.Antisymm Precedes where
  antisymm first second forth back := by
    rcases forth with smaller | ⟨same, left⟩ <;> rcases back with smaller' | ⟨same', left'⟩ <;> omega

theorem mem_all {window : Window} {n : Nat} :
    window ∈ all n ↔ 2 ≤ window.size ∧ window.start + window.size ≤ n := by
  simp only [all, List.mem_flatMap, List.mem_range'_1, List.mem_map, List.mem_range]
  constructor
  · rintro ⟨size, sized, start, placed, rfl⟩
    exact ⟨sized.1, show start + size ≤ n by omega⟩
  · rintro ⟨sized, placed⟩
    exact ⟨window.size, by omega, window.start, by omega, rfl⟩

theorem pairwise_all (n : Nat) : (all n).Pairwise Precedes := by
  rw [all, List.pairwise_flatMap]
  constructor
  · intro size member
    rw [List.pairwise_map]
    exact List.pairwise_lt_range.imp fun left => .inr ⟨rfl, left⟩
  · refine (List.pairwise_lt_range' 1).imp fun smaller first inFirst second inSecond => ?_
    obtain ⟨start, -, rfl⟩ := List.mem_map.mp inFirst
    obtain ⟨start', -, rfl⟩ := List.mem_map.mp inSecond
    exact .inl smaller

theorem eq_all {windows : List Window} {n : Nat} (ascending : windows.Pairwise Precedes)
    (members : ∀ window : Window,
      window ∈ windows ↔ 2 ≤ window.size ∧ window.start + window.size ≤ n) :
    windows = all n :=
  ascending.eq_of_mem_iff (pairwise_all n) fun window => (members window).trans mem_all.symm

theorem not_covers_of_findRev? {windows : List Window} {i : Nat}
    (absent : (windows.findRev? fun window => window.Covers i) = none) :
    ∀ window ∈ windows, ¬window.Covers i := by
  intro window member
  simp only [List.findRev?_eq_find?_reverse, List.find?_eq_none, List.mem_reverse,
    decide_eq_true_eq] at absent
  exact absent window member

theorem greatest_of_findRev?_covers {windows : List Window} (ascending : windows.Pairwise Precedes)
    {i : Nat} {window : Window}
    (found : (windows.findRev? fun window => window.Covers i) = some window) :
    window ∈ windows ∧ window.Covers i ∧
      ∀ other ∈ windows, other.Covers i → other = window ∨ other.Precedes window := by
  induction windows with
  | nil => simp at found
  | cons first windows ih =>
    obtain ⟨precedes, ascending⟩ := List.pairwise_cons.mp ascending
    simp only [List.findRev?] at found
    split at found
    next later last =>
      obtain rfl := Option.some.inj found
      obtain ⟨member, covers, greatest⟩ := ih ascending last
      refine ⟨List.mem_cons_of_mem first member, covers, fun other inside coversOther => ?_⟩
      rcases List.mem_cons.mp inside with rfl | inside
      · exact .inr (precedes later member)
      · exact greatest other inside coversOther
    next absent =>
      split at found
      next covers =>
        obtain rfl := Option.some.inj found
        refine ⟨List.mem_cons_self, of_decide_eq_true covers, fun other inside coversOther => ?_⟩
        rcases List.mem_cons.mp inside with rfl | inside
        · exact .inl rfl
        · exact absurd coversOther (not_covers_of_findRev? absent other inside)
      next => cases found

end Window

end TurkishDates
