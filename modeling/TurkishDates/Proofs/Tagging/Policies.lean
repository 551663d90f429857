import Mathlib.Data.List.Induction
import TurkishDates.Grammar.Weeks
import TurkishDates.Proofs.Tagging.Writing

/-!
What the two policies for overlapping windows mean. When the last write wins, a token has the value of
the greatest window that covers it and resolves. When the longest match wins, the windows of each size
that write are the greedy choice from left to right, and a token has the value of the largest of them.
-/

namespace TurkishDates

namespace Window

theorem within_single {n i : Nat} (inside : i < n) : Within ⟨i, 1⟩ n := ⟨Nat.le_refl 1, inside⟩

theorem covers_single (i : Nat) : Covers ⟨i, 1⟩ i := ⟨Nat.le_refl i, Nat.lt_succ_self i⟩

theorem eq_single {window : Window} {n i : Nat} (within : window.Within n) (covers : window.Covers i)
    (small : ¬2 ≤ window.size) : window = ⟨i, 1⟩ := by
  obtain ⟨start, size⟩ := window
  simp only [Within, Covers] at *
  rw [Window.mk.injEq]
  omega

theorem text_single {tokens : List Text} {i : Nat} (inside : i < tokens.length) :
    text ⟨i, 1⟩ tokens = tokens[i] := by
  rw [text, List.drop_eq_getElem_cons inside]
  rfl

/-- The greatest window that covers a token and has a value, among all windows of `n` tokens. -/
structure IsGreatest (value : Window → Option Denotation) (n i : Nat) (window : Window) : Prop where
  within : window.Within n
  covers : window.Covers i
  resolves : (value window).isSome
  greatest : ∀ other : Window, other.Within n → other.Covers i → (value other).isSome →
    other = window ∨ other.Precedes window

theorem IsGreatest.unique {value : Window → Option Denotation} {n i : Nat} {first second : Window}
    (isFirst : IsGreatest value n i first) (isSecond : IsGreatest value n i second) :
    first = second := by
  rcases isFirst.greatest second isSecond.within isSecond.covers isSecond.resolves with same | before
  · exact same.symm
  · rcases isSecond.greatest first isFirst.within isFirst.covers isFirst.resolves with same | after
    · exact same
    · exact Std.Antisymm.antisymm _ _ after before

end Window

namespace Tagging

variable {resolver : Resolver} {tokens : List Text}

theorem denotation?_single {i : Nat} (inside : i < tokens.length) :
    resolver.denotation? tokens ⟨i, 1⟩ = (resolver.resolve tokens[i]).value := by
  rw [Resolver.denotation?, Window.text_single inside]

theorem writers_lastWriteWins (windows : List Window) (tags : List Tag) :
    writers resolver .lastWriteWins tokens windows tags =
      windows.filter fun window => (resolver.denotation? tokens window).isSome := by
  induction windows generalizing tags with
  | nil => rfl
  | cons window windows ih =>
    rw [writers_cons, ih, List.filter_cons]
    simp only [writes?, isOpen, if_true]
    split <;> rfl

theorem mem_written_lastWriteWins {t : Text} {window : Window} :
    window ∈ (tagSentence resolver .lastWriteWins t).written ↔
      (2 ≤ window.size ∧ window.start + window.size ≤ t.tokens.length) ∧
        (resolver.denotation? t.tokens window).isSome = true := by
  rw [written_tagSentence, writers_lastWriteWins, List.mem_filter, Window.mem_all]

/-- The last window that wrote a token is the greatest of all, since windows write in ascending order. -/
theorem isGreatest_of_findRev? {t : Text} {i : Nat} {window : Window}
    (found : ((tagSentence resolver .lastWriteWins t).written.findRev? fun window =>
      window.Covers i) = some window) :
    Window.IsGreatest (resolver.denotation? t.tokens) t.tokens.length i window := by
  obtain ⟨member, covers, greatest⟩ := Window.greatest_of_findRev?_covers (pairwise_written t) found
  obtain ⟨⟨sized, fits⟩, resolves⟩ := mem_written_lastWriteWins.mp member
  refine ⟨⟨by omega, fits⟩, covers, resolves, fun other within coversOther resolvesOther => ?_⟩
  by_cases large : 2 ≤ other.size
  · exact greatest other (mem_written_lastWriteWins.mpr ⟨⟨large, within.2⟩, resolvesOther⟩) coversOther
  · exact .inr (.inl (by omega))

theorem denotation?_eq_none_of_findRev? {t : Text} {i : Nat}
    (absent : ((tagSentence resolver .lastWriteWins t).written.findRev? fun window =>
      window.Covers i) = none) {window : Window} (large : 2 ≤ window.size)
    (within : window.Within t.tokens.length) (covers : window.Covers i) :
    resolver.denotation? t.tokens window = none := by
  by_contra resolves
  have member : window ∈ (tagSentence resolver .lastWriteWins t).written :=
    mem_written_lastWriteWins.mpr ⟨⟨large, within.2⟩, Option.isSome_iff_ne_none.mpr resolves⟩
  exact Window.not_covers_of_findRev? absent window member covers

theorem greatest_or_none (t : Text) {i : Nat} (inside : i < t.tokens.length) :
    (∃ window, Window.IsGreatest (resolver.denotation? t.tokens) t.tokens.length i window ∧
      (tagSentence resolver .lastWriteWins t).values[i]? =
        some (resolver.denotation? t.tokens window)) ∨
    ((∀ window : Window, window.Within t.tokens.length → window.Covers i →
      resolver.denotation? t.tokens window = none) ∧
      (tagSentence resolver .lastWriteWins t).values[i]? = some none) := by
  rw [getElem?_values_tagSentence t inside]
  split
  next window found => exact .inl ⟨window, isGreatest_of_findRev? found, rfl⟩
  next absent =>
    rw [← denotation?_single inside]
    cases own : resolver.denotation? t.tokens ⟨i, 1⟩ with
    | some value =>
      refine .inl ⟨⟨i, 1⟩, ⟨Window.within_single inside, Window.covers_single i, by simp [own], ?_⟩,
        by rw [own]⟩
      intro other within covers resolves
      by_cases large : 2 ≤ other.size
      · rw [denotation?_eq_none_of_findRev? absent large within covers] at resolves
        cases resolves
      · exact .inl (Window.eq_single within covers large)
    | none =>
      refine .inr ⟨fun window within covers => ?_, rfl⟩
      by_cases large : 2 ≤ window.size
      · exact denotation?_eq_none_of_findRev? absent large within covers
      · rw [Window.eq_single within covers large, own]

/-- When the last write wins there is one tag for each token, and its value is that of the window that
is greatest by size and then by start among the windows of one or more tokens that cover the token and
resolve. The tag is empty only where there is no such window. -/
theorem lastWriteWins_meaning (resolver : Resolver) (t : Text) :
    let tokens := t.tokens
    let values := (tagSentence resolver .lastWriteWins t).values
    values.length = tokens.length ∧
    ∀ i < tokens.length,
      (∀ value, values[i]? = some (some value) ↔
        ∃ window, Window.IsGreatest (resolver.denotation? tokens) tokens.length i window ∧
          resolver.denotation? tokens window = some value) ∧
      (values[i]? = some none ↔
        ∀ window : Window, window.Within tokens.length → window.Covers i →
          resolver.denotation? tokens window = none) := by
  refine ⟨length_values_tagSentence t, fun i inside => ?_⟩
  rcases greatest_or_none t inside with ⟨window, greatest, decided⟩ | ⟨silent, decided⟩
  · rw [decided]
    constructor
    · intro value
      constructor
      · intro same
        exact ⟨window, greatest, Option.some.inj same⟩
      · rintro ⟨other, greatestOther, denotes⟩
        rw [greatest.unique greatestOther, denotes]
    · constructor
      · intro same
        have resolves := greatest.resolves
        rw [Option.some.inj same] at resolves
        cases resolves
      · intro silent
        rw [silent window greatest.within greatest.covers]
  · rw [decided]
    constructor
    · intro value
      constructor
      · intro same
        cases same
      · rintro ⟨window, greatest, denotes⟩
        rw [silent window greatest.within greatest.covers] at denotes
        cases denotes
    · exact ⟨fun _ => silent, fun _ => rfl⟩

/-- Of last week and its weekdays, the window on the right decides about the token that both cover. -/
theorem lastWriteWins_meaning_shared_token :
    let resolver : Resolver :=
      ⟨[Grammar.lastWeek, Grammar.weekdays], Timestamp.toMoment ⟨63759355200, by decide⟩, none⟩
    let t : Text := "geçen hafta içi".toList
    let weekdays : Denotation := .span ⟨63759052800, by decide⟩ ⟨63759484799, by decide⟩
    1 < t.tokens.length ∧
      (tagSentence resolver .lastWriteWins t).values[1]? = some (some weekdays) ∧
      ∃ window, Window.IsGreatest (resolver.denotation? t.tokens) t.tokens.length 1 window ∧
        resolver.denotation? t.tokens window = some weekdays := by
  intro resolver t weekdays
  have inside : 1 < t.tokens.length := by decide
  have tagged : (tagSentence resolver .lastWriteWins t).values[1]? = some (some weekdays) := by
    decide +kernel
  obtain ⟨-, meaning⟩ := lastWriteWins_meaning resolver t
  exact ⟨inside, tagged, ((meaning 1 inside).1 weekdays).mp tagged⟩

/-! The greedy choice. Windows write in ascending order, so the size on a token is that of the largest
window that wrote it. A window can only find a token taken by windows of its own size. -/

theorem overlaps_iff {tags : List Tag} {window : Window} :
    overlaps tags window = true ↔
      ∃ i tag, window.Covers i ∧ tags[i]? = some tag ∧ window.size ≤ tag.size := by
  simp only [overlaps, List.any_eq_true, List.mem_iff_getElem?, decide_eq_true_eq]
  constructor
  · rintro ⟨tag, ⟨k, found⟩, large⟩
    have inside : k < window.size := by
      by_contra beyond
      rw [List.getElem?_take_eq_none (Nat.le_of_not_lt beyond)] at found
      cases found
    rw [List.getElem?_take_of_lt inside, List.getElem?_drop] at found
    exact ⟨window.start + k, tag, ⟨by omega, by omega⟩, found, large⟩
  · rintro ⟨i, tag, covers, found, large⟩
    refine ⟨tag, ⟨i - window.start, ?_⟩, large⟩
    rw [List.getElem?_take_of_lt (by omega), List.getElem?_drop,
      Nat.add_sub_cancel' covers.1]
    exact found

/-- A window that comes after others may write unless one of its own size has written a token of it. -/
theorem isOpen_longestMatch_iff {windows : List Window} {tags : List Tag} {window : Window}
    (ascending : windows.Pairwise Window.Precedes)
    (fit : ∀ other ∈ windows, other.start + other.size ≤ tags.length)
    (later : ∀ other ∈ windows, other.Precedes window)
    (fresh : ∀ tag ∈ tags, tag.size < window.size) :
    isOpen .longestMatch (windows.foldl (visit resolver .longestMatch tokens) tags) window = true ↔
      ∀ other ∈ writers resolver .longestMatch tokens windows tags, other.size = window.size →
        ¬other.Meets window := by
  have sublist : (writers resolver .longestMatch tokens windows tags).Sublist windows :=
    writers_sublist windows tags
  simp only [isOpen, Bool.not_eq_true', ← Bool.not_eq_true, overlaps_iff]
  constructor
  · rintro isFree other member same ⟨i, coversOther, covers⟩
    apply isFree
    cases last : (writers resolver .longestMatch tokens windows tags).findRev? fun window =>
        window.Covers i with
    | none => exact absurd coversOther (Window.not_covers_of_findRev? last other member)
    | some largest =>
      obtain ⟨-, -, greatest⟩ :=
        Window.greatest_of_findRev?_covers (ascending.sublist sublist) last
      refine ⟨i, _, covers, by rw [getElem?_foldl_visit fit, last], ?_⟩
      rcases greatest other member coversOther with rfl | before
      · exact same.ge
      · exact same.ge.trans before.size_le
  · rintro apart ⟨i, tag, covers, found, large⟩
    rw [getElem?_foldl_visit fit] at found
    split at found
    next other last =>
      obtain rfl := Option.some.inj found
      obtain ⟨member, coversOther, -⟩ :=
        Window.greatest_of_findRev?_covers (ascending.sublist sublist) last
      have smaller := (later other (sublist.subset member)).size_le
      exact apart other member (Nat.le_antisymm smaller large) ⟨i, coversOther, covers⟩
    next =>
      have small := fresh tag (List.mem_of_getElem? found)
      omega

/-- Which windows write when the longest match wins. The induction appends the windows one by one: a
window that is appended has no say about those before it, and finds their writes in the tags. -/
theorem mem_writers_longestMatch {windows : List Window} {tags : List Tag}
    (ascending : windows.Pairwise Window.Precedes)
    (fit : ∀ window ∈ windows, window.start + window.size ≤ tags.length)
    (fresh : ∀ tag ∈ tags, ∀ window ∈ windows, tag.size < window.size) (window : Window) :
    window ∈ writers resolver .longestMatch tokens windows tags ↔
      window ∈ windows ∧ (resolver.denotation? tokens window).isSome = true ∧
        ∀ other ∈ writers resolver .longestMatch tokens windows tags, other.size = window.size →
          other.start < window.start → ¬other.Meets window := by
  induction windows using List.reverseRecOn with
  | nil => simp
  | append_singleton windows last ih =>
    obtain ⟨ascending, -, before⟩ := List.pairwise_append.mp ascending
    have fit' : ∀ other ∈ windows, other.start + other.size ≤ tags.length := by
      intro other member
      exact fit other (List.mem_append_left [last] member)
    have fresh' : ∀ tag ∈ tags, ∀ other ∈ windows, tag.size < other.size := by
      intro tag inside other member
      exact fresh tag inside other (List.mem_append_left [last] member)
    have later : ∀ other ∈ windows, other.Precedes last := by
      intro other member
      exact before other member last List.mem_cons_self
    specialize ih ascending fit' fresh'
    have mayWrite :
        isOpen .longestMatch (windows.foldl (visit resolver .longestMatch tokens) tags) last = true ↔
          ∀ other ∈ writers resolver .longestMatch tokens windows tags, other.size = last.size →
            ¬other.Meets last := by
      apply isOpen_longestMatch_iff ascending fit' later
      intro tag inside
      exact fresh tag inside last (List.mem_append_right windows List.mem_cons_self)
    have sublist : (writers resolver .longestMatch tokens windows tags).Sublist windows :=
      writers_sublist windows tags
    by_cases appended : window = last
    · subst appended
      have notBefore (member : window ∈ windows) : False :=
        Std.Irrefl.irrefl window (later window member)
      simp only [mem_writers_append_singleton, mayWrite]
      constructor
      · rintro (member | ⟨-, apart, resolves⟩)
        · exact (notBefore (sublist.subset member)).elim
        · refine ⟨by simp, resolves, ?_⟩
          intro other member same left
          rcases member with member | ⟨rfl, -⟩
          · exact apart other member same
          · exact absurd left (Nat.lt_irrefl _)
      · rintro ⟨-, resolves, apart⟩
        refine .inr ⟨trivial, ?_, resolves⟩
        intro other member same
        have left : other.start < window.start := (later other (sublist.subset member)).start_lt same
        exact apart other (.inl member) same left
    · simp only [mem_writers_append_singleton, appended, false_and, or_false, ih, List.mem_append,
        List.mem_singleton]
      constructor
      · rintro ⟨member, resolves, apart⟩
        refine ⟨member, resolves, ?_⟩
        intro other memberOther same left
        rcases memberOther with memberOther | ⟨rfl, -⟩
        · exact apart other memberOther same left
        · have right : window.start < other.start := (later window member).start_lt same.symm
          exact absurd right (Nat.lt_asymm left)
      · rintro ⟨member, resolves, apart⟩
        refine ⟨member, resolves, ?_⟩
        intro other memberOther
        exact apart other (.inl memberOther)

theorem mem_written_longestMatch {t : Text} {window : Window} :
    window ∈ (tagSentence resolver .longestMatch t).written ↔
      (2 ≤ window.size ∧ window.start + window.size ≤ t.tokens.length) ∧
        (resolver.denotation? t.tokens window).isSome = true ∧
        ∀ other ∈ (tagSentence resolver .longestMatch t).written, other.size = window.size →
          other.start < window.start → ¬other.Meets window := by
  rw [written_tagSentence, mem_writers_longestMatch (Window.pairwise_all _) (all_fit t.tokens) ?_,
    Window.mem_all]
  intro tag member other sized
  obtain ⟨token, -, rfl⟩ := List.mem_map.mp member
  exact (Window.mem_all.mp sized).1

/-- Windows of one size that write share no token, so the largest that wrote a token is the last. -/
theorem eq_last_of_largest {t : Text} {i : Nat} {window last : Window}
    (found : ((tagSentence resolver .longestMatch t).written.findRev? fun window =>
      window.Covers i) = some last)
    (member : window ∈ (tagSentence resolver .longestMatch t).written) (covers : window.Covers i)
    (largest : ∀ other ∈ (tagSentence resolver .longestMatch t).written, other.Covers i →
      other.size ≤ window.size) :
    window = last := by
  obtain ⟨memberLast, coversLast, greatest⟩ :=
    Window.greatest_of_findRev?_covers (pairwise_written t) found
  rcases greatest window member covers with same | before
  · exact same
  · have sizes : window.size = last.size :=
      Nat.le_antisymm before.size_le (largest last memberLast coversLast)
    obtain ⟨-, -, apart⟩ := mem_written_longestMatch.mp memberLast
    exact absurd ⟨i, covers, coversLast⟩ (apart window member sizes (before.start_lt sizes))

/-- When the longest match wins, windows write in ascending order. The windows of each size that write
are the greedy choice from left to right among those that resolve, whatever smaller windows wrote: one
that resolves writes unless it meets a window of its size that begins before it and writes. In the end
a token has the value of the largest window that wrote it, or its own where none did. -/
theorem longestMatch_meaning (resolver : Resolver) (t : Text) :
    let tokens := t.tokens
    let tagging := tagSentence resolver .longestMatch t
    tagging.written.Pairwise Window.Precedes ∧
    (∀ window : Window, window ∈ tagging.written ↔
      (2 ≤ window.size ∧ window.start + window.size ≤ tokens.length) ∧
        (resolver.denotation? tokens window).isSome = true ∧
        ∀ other ∈ tagging.written, other.size = window.size → other.start < window.start →
          ¬other.Meets window) ∧
    ∀ (i : Nat) (inside : i < tokens.length),
      (∀ window ∈ tagging.written, window.Covers i →
        (∀ other ∈ tagging.written, other.Covers i → other.size ≤ window.size) →
          tagging.values[i]? = some (resolver.denotation? tokens window)) ∧
      ((∀ window ∈ tagging.written, ¬window.Covers i) →
        tagging.values[i]? = some (resolver.resolve tokens[i]).value) := by
  refine ⟨pairwise_written t, fun window => mem_written_longestMatch, fun i inside => ?_⟩
  rw [getElem?_values_tagSentence t inside]
  split
  next last found =>
    obtain ⟨member, covers, -⟩ := Window.greatest_of_findRev?_covers (pairwise_written t) found
    refine ⟨fun window inside covers largest => ?_, fun untouched => ?_⟩
    · rw [eq_last_of_largest found inside covers largest]
    · exact absurd covers (untouched last member)
  next absent =>
    refine ⟨fun window member covers => ?_, fun _ => rfl⟩
    exact absurd covers (Window.not_covers_of_findRev? absent window member)

/-- Of last week and its weekdays, only the window on the left writes, and the last token is left with
its own value. -/
theorem longestMatch_meaning_shared_token :
    let resolver : Resolver :=
      ⟨[Grammar.lastWeek, Grammar.weekdays], Timestamp.toMoment ⟨63759355200, by decide⟩, none⟩
    let t : Text := "geçen hafta içi".toList
    2 < t.tokens.length ∧ (tagSentence resolver .longestMatch t).written = [⟨0, 2⟩] ∧
      (tagSentence resolver .longestMatch t).values[1]? =
        some (resolver.denotation? t.tokens ⟨0, 2⟩) ∧
      (tagSentence resolver .longestMatch t).values[2]? =
        some (resolver.resolve "içi".toList).value := by
  intro resolver t
  have inside : 2 < t.tokens.length := by decide
  have written : (tagSentence resolver .longestMatch t).written = [⟨0, 2⟩] := by decide +kernel
  have only (window : Window) (member : window ∈ (tagSentence resolver .longestMatch t).written) :
      window = ⟨0, 2⟩ := by
    rw [written] at member
    exact List.mem_singleton.mp member
  obtain ⟨-, -, meaning⟩ := longestMatch_meaning resolver t
  refine ⟨inside, written, (meaning 1 (by omega)).1 ⟨0, 2⟩ ?_ (by decide) ?_, (meaning 2 inside).2 ?_⟩
  · rw [written]
    exact List.mem_singleton_self _
  · intro other member _
    rw [only other member]
  · intro window member
    rw [only window member]
    decide

end Tagging

end TurkishDates
