import TurkishDates.Grammar.Recurrences
import TurkishDates.Proofs.Resolution.FallbackCalls
import TurkishDates.Proofs.Tagging.Policies

/-!
Two taggings of one sentence side by side. Under any policy a value comes from a window that resolves, and
when the last write wins, every window that resolves leaves some value behind. So the longest match tags no
token that the last write would not tag, and a fallback takes no tag away.
-/

namespace TurkishDates

/-- Windows may come to resolve as long as those that resolved before keep their values. The greatest one then
stays, or gives way to a greater one that did not resolve before. -/
theorem Window.IsGreatest.eq_or_precedes {value value' : Window → Option Denotation} {n i : Nat}
    {before after : Window}
    (kept : ∀ window found, value window = some found → value' window = some found)
    (isBefore : IsGreatest value n i before) (isAfter : IsGreatest value' n i after) :
    after = before ∨ before.Precedes after ∧ value after = none := by
  obtain ⟨found, gives⟩ := Option.isSome_iff_exists.mp isBefore.resolves
  have resolves : (value' before).isSome := Option.isSome_of_eq_some (kept before found gives)
  rcases isAfter.greatest before isBefore.within isBefore.covers resolves with same | precedes
  · exact .inl same.symm
  · cases known : value after with
    | none => exact .inr ⟨precedes, rfl⟩
    | some other =>
      have resolved : (value after).isSome := Option.isSome_of_eq_some known
      rcases isBefore.greatest after isAfter.within isAfter.covers resolved with same | back
      · exact .inl same
      · exact .inl (Std.Antisymm.antisymm after before back precedes)

namespace Tagging

variable {resolver : Resolver} {policy : OverlapPolicy} {t : Text} {i : Nat}

theorem lt_length_of_value {value : Option Denotation}
    (tagged : (tagSentence resolver policy t).values[i]? = some value) : i < t.tokens.length := by
  have inside : i < (tagSentence resolver policy t).values.length := (List.getElem?_eq_some_iff.mp tagged).1
  rwa [length_values_tagSentence] at inside

theorem within_of_mem_written {window : Window} (member : window ∈ (tagSentence resolver policy t).written) :
    2 ≤ window.size ∧ window.start + window.size ≤ t.tokens.length := by
  rw [written_tagSentence] at member
  exact Window.mem_all.mp ((writers_sublist _ _).subset member)

theorem exists_window_of_value {value : Denotation}
    (tagged : (tagSentence resolver policy t).values[i]? = some (some value)) :
    ∃ window : Window, window.Within t.tokens.length ∧ window.Covers i ∧
      resolver.denotation? t.tokens window = some value := by
  have inside : i < t.tokens.length := lt_length_of_value tagged
  rw [getElem?_values_tagSentence t inside] at tagged
  split at tagged
  next window found =>
    obtain ⟨member, covers, -⟩ := Window.greatest_of_findRev?_covers (pairwise_written t) found
    obtain ⟨sized, fits⟩ := within_of_mem_written member
    exact ⟨window, ⟨Nat.le_of_succ_le sized, fits⟩, covers, Option.some.inj tagged⟩
  next =>
    refine ⟨⟨i, 1⟩, Window.within_single inside, Window.covers_single i, ?_⟩
    rw [denotation?_single inside]
    exact Option.some.inj tagged

theorem exists_greatest_of_covers (resolver : Resolver) {window : Window} (within : window.Within t.tokens.length)
    (covers : window.Covers i) (resolves : (resolver.denotation? t.tokens window).isSome) :
    ∃ greatest value, Window.IsGreatest (resolver.denotation? t.tokens) t.tokens.length i greatest ∧
      resolver.denotation? t.tokens greatest = some value ∧
      (tagSentence resolver .lastWriteWins t).values[i]? = some (some value) := by
  have inside : i < t.tokens.length := Nat.lt_of_lt_of_le covers.2 within.2
  rcases @greatest_or_none resolver t i inside with ⟨greatest, isGreatest, decided⟩ | ⟨silent, -⟩
  · obtain ⟨value, denotes⟩ := Option.isSome_iff_exists.mp isGreatest.resolves
    exact ⟨greatest, value, isGreatest, denotes, by rw [decided, denotes]⟩
  · rw [silent window within covers] at resolves
    cases resolves

/-- Windows of two or more tokens that are different and of one size share no token if both resolve. -/
def EqualsKeepApart (resolver : Resolver) (tokens : List Text) : Prop :=
  ∀ first second : Window, first.Within tokens.length → second.Within tokens.length →
    2 ≤ first.size → first.size = second.size → (resolver.denotation? tokens first).isSome →
    (resolver.denotation? tokens second).isSome → first ≠ second → ¬first.Meets second

theorem written_eq_of_equalsKeepApart (apart : EqualsKeepApart resolver t.tokens) :
    (tagSentence resolver .longestMatch t).written = (tagSentence resolver .lastWriteWins t).written := by
  apply (pairwise_written t).eq_of_mem_iff (pairwise_written t)
  intro window
  rw [mem_written_longestMatch, mem_written_lastWriteWins, ← and_assoc, and_iff_left_iff_imp]
  intro ⟨⟨sized, fits⟩, resolves⟩ other member same left
  obtain ⟨⟨sizedOther, fitsOther⟩, resolvesOther, -⟩ := mem_written_longestMatch.mp member
  apply apart other window ⟨Nat.le_of_succ_le sizedOther, fitsOther⟩ ⟨Nat.le_of_succ_le sized, fits⟩ sizedOther
    same resolvesOther resolves
  intro equal
  rw [equal] at left
  exact Nat.lt_irrefl _ left

theorem values_congr_written {other : OverlapPolicy}
    (same : (tagSentence resolver policy t).written = (tagSentence resolver other t).written) :
    (tagSentence resolver policy t).values = (tagSentence resolver other t).values := by
  apply List.ext_getElem?
  intro i
  by_cases inside : i < t.tokens.length
  · rw [getElem?_values_tagSentence t inside, getElem?_values_tagSentence t inside, same]
  · have beyond : t.tokens.length ≤ i := Nat.le_of_not_lt inside
    rw [List.getElem?_eq_none (by rwa [length_values_tagSentence]),
      List.getElem?_eq_none (by rwa [length_values_tagSentence])]

/-- A token that is tagged when the longest match wins is tagged when the last write wins. The tags are the
same unless two windows of one size, of two or more tokens, both resolve and share a token. -/
theorem policies_agree_where_equals_keep_apart (resolver : Resolver) (t : Text) :
    (∀ (i : Nat) (value : Denotation), (tagSentence resolver .longestMatch t).values[i]? = some (some value) →
      ∃ value', (tagSentence resolver .lastWriteWins t).values[i]? = some (some value')) ∧
    (EqualsKeepApart resolver t.tokens →
      (tagSentence resolver .longestMatch t).values = (tagSentence resolver .lastWriteWins t).values) := by
  constructor
  · intro i value tagged
    obtain ⟨window, within, covers, denotes⟩ := exists_window_of_value tagged
    have resolves := Option.isSome_of_eq_some denotes
    obtain ⟨-, value', -, -, tagged'⟩ := exists_greatest_of_covers resolver within covers resolves
    exact ⟨value', tagged'⟩
  · intro apart
    exact values_congr_written (written_eq_of_equalsKeepApart apart)

/-- When a week is named inside a longer recurrence, the windows that resolve differ in size. -/
theorem policies_agree_where_equals_keep_apart_weekly :
    let resolver : Resolver := ⟨[Grammar.everyWeekday, Grammar.everyWeek], Timestamp.toMoment ⟨0, by decide⟩, none⟩
    let t : Text := "her hafta cuma".toList
    let friday : Denotation := .recurrence .week "cuma".toList
    (tagSentence resolver .longestMatch t).values[0]? = some (some friday) ∧
      (∃ value', (tagSentence resolver .lastWriteWins t).values[0]? = some (some value')) ∧
      EqualsKeepApart resolver t.tokens ∧
      (tagSentence resolver .longestMatch t).values = (tagSentence resolver .lastWriteWins t).values := by
  intro resolver t friday
  have tagged : (tagSentence resolver .longestMatch t).values[0]? = some (some friday) := by decide
  have resolving : (Window.all t.tokens.length).filter
      (fun window => (resolver.denotation? t.tokens window).isSome) = [⟨0, 2⟩, ⟨0, 3⟩] := by
    decide
  have listed {window : Window} (within : window.Within t.tokens.length) (sized : 2 ≤ window.size)
      (resolves : (resolver.denotation? t.tokens window).isSome) : window = ⟨0, 2⟩ ∨ window = ⟨0, 3⟩ := by
    have member : window ∈ [(⟨0, 2⟩ : Window), ⟨0, 3⟩] := by
      rw [← resolving]
      exact List.mem_filter.mpr ⟨Window.mem_all.mpr ⟨sized, within.2⟩, resolves⟩
    simpa using member
  have apart : EqualsKeepApart resolver t.tokens := by
    intro first second within within' sized same resolves resolves' different
    rcases listed within sized resolves with rfl | rfl <;>
      rcases listed within' (same ▸ sized) resolves' with rfl | rfl <;> simp_all
  obtain ⟨within, agree⟩ := policies_agree_where_equals_keep_apart resolver t
  exact ⟨tagged, within 0 friday tagged, apart, agree apart⟩

/-- A fallback takes no tag away when the last write wins. If it changes a value, then to its own answer, and
because of a window that no rule decides on: one that covers the token and comes after the window which gave the
value without the fallback, being larger, or of the same size and further to the right. -/
theorem fallback_keeps_tags (rules : List Rule) (reference : Moment) (fallback : Fallback) (t : Text)
    (i : Nat) (value : Denotation) :
    let tokens := t.tokens
    let silent : Resolver := ⟨rules, reference, none⟩
    let asking : Resolver := ⟨rules, reference, some fallback⟩
    (tagSentence silent .lastWriteWins t).values[i]? = some (some value) →
      ∃ value', (tagSentence asking .lastWriteWins t).values[i]? = some (some value') ∧
        (value' ≠ value → ∃ before after : Window,
          Window.IsGreatest (silent.denotation? tokens) tokens.length i before ∧
          silent.denotation? tokens before = some value ∧
          Window.IsGreatest (asking.denotation? tokens) tokens.length i after ∧
          asking.denotation? tokens after = some value' ∧ silent.denotation? tokens after = none ∧
          before.Precedes after ∧
          ∃ time, fallback (normalize (after.text tokens)) reference = some time ∧ value' = .instant time) := by
  intro tokens silent asking tagged
  obtain ⟨window, within, covers, denotes⟩ := exists_window_of_value tagged
  obtain ⟨before, found, isBefore, gives, tagged'⟩ :=
    exists_greatest_of_covers silent within covers (Option.isSome_of_eq_some denotes)
  obtain rfl : found = value := by
    rw [tagged] at tagged'
    simpa using tagged'.symm
  have kept (window : Window) (found : Denotation) (known : silent.denotation? tokens window = some found) :
      asking.denotation? tokens window = some found := Resolver.value_of_withoutFallback known
  obtain ⟨after, value', isAfter, gives', tagged'⟩ :=
    exists_greatest_of_covers asking isBefore.within isBefore.covers (Option.isSome_of_eq_some (kept before found gives))
  refine ⟨value', tagged', fun changed => ⟨before, after, isBefore, gives, isAfter, gives', ?_⟩⟩
  rcases isBefore.eq_or_precedes kept isAfter with same | ⟨precedes, unknown⟩
  · rw [same, kept before found gives] at gives'
    exact absurd (Option.some.inj gives').symm changed
  · exact ⟨unknown, precedes, Resolver.exists_answer_of_value unknown gives'⟩

/-- A fallback that answers whatever it is asked takes the word for today together with the one behind it. -/
theorem fallback_keeps_tags_longer_window :
    let reference : Timestamp := ⟨63759355200, by decide⟩
    let fallback : Fallback := fun _ time => some time
    let silent : Resolver := ⟨[Grammar.today], reference, none⟩
    let asking : Resolver := ⟨[Grammar.today], reference, some fallback⟩
    let t : Text := "bugün belki".toList
    let today : Denotation := .span ⟨63759312000, by decide⟩ ⟨63759398399, by decide⟩
    (tagSentence silent .lastWriteWins t).values[0]? = some (some today) ∧
      (tagSentence asking .lastWriteWins t).values[0]? = some (some (.instant reference)) ∧
      ∃ before after : Window, silent.denotation? t.tokens before = some today ∧
        silent.denotation? t.tokens after = none ∧ before.Precedes after := by
  intro reference fallback silent asking t today
  have tagged : (tagSentence silent .lastWriteWins t).values[0]? = some (some today) := by decide
  have answered : (tagSentence asking .lastWriteWins t).values[0]? = some (some (.instant reference)) := by
    decide
  obtain ⟨value', tagged', because⟩ := fallback_keeps_tags [Grammar.today] reference fallback t 0 today tagged
  obtain rfl : value' = .instant reference := by
    rw [answered] at tagged'
    simpa using tagged'.symm
  obtain ⟨before, after, -, gives, -, -, unknown, precedes, -⟩ := because (by decide)
  exact ⟨tagged, answered, before, after, gives, unknown, precedes⟩

end Tagging

end TurkishDates
