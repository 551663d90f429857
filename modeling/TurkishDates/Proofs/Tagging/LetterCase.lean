import TurkishDates.Proofs.Resolution.FallbackCalls
import TurkishDates.Proofs.Tagging.Partition
import TurkishDates.Proofs.Text.Casing

/-!
Tagging reads a sentence in small letters only. Sentences that differ in capital letters are cut into
tokens of the same lengths, every window of them resolves alike and asks alike, and the spans that come
of it stand at the same places.
-/

namespace TurkishDates

variable {resolver : Resolver} {policy : OverlapPolicy} {s t : Text} {tokens others : List Text}

theorem Resolver.resolve_lower (resolver : Resolver) (t : Text) : resolver.resolve t.lower = resolver.resolve t := by
  simp only [resolve, normalize, withDigits, (Text.isSmall_lower t).lower_eq]

namespace Tagging

def asked (tagging : Tagging) : List Text := tagging.log.filterMap Event.asked?

theorem lower_window_text (same : tokens.map Text.lower = others.map Text.lower) (window : Window) :
    (window.text tokens).lower = (window.text others).lower := by
  simp only [Window.text, Text.lower_unwords, List.map_take, List.map_drop, same]

/-- Windows that resolve alike leave the same tags, and ask the same questions. -/
theorem sweep_congr (policy : OverlapPolicy) {resolve : Text → Resolution}
    (alike : ∀ window : Window, resolve (window.text tokens) = resolve (window.text others))
    (windows : List Window) (tags : List Tag) :
    (sweep resolve policy tokens windows tags).tags = (sweep resolve policy others windows tags).tags ∧
      (sweep resolve policy tokens windows tags).asked = (sweep resolve policy others windows tags).asked := by
  induction windows generalizing tags with
  | nil => exact ⟨rfl, rfl⟩
  | cons window windows ih =>
    simp only [sweep, alike window]
    split
    · cases (resolve (window.text others)).value with
      | none =>
        obtain ⟨sameTags, sameAsked⟩ := ih tags
        refine ⟨sameTags, ?_⟩
        simp only [asked, List.filterMap_append] at sameAsked ⊢
        rw [sameAsked]
      | some value =>
        obtain ⟨sameTags, sameAsked⟩ := ih (write tags window value)
        refine ⟨sameTags, ?_⟩
        simp only [asked, List.filterMap_append, List.filterMap_cons, Event.asked?] at sameAsked ⊢
        rw [sameAsked]
    · exact ih tags

theorem tagSentence_congr (resolver : Resolver) (policy : OverlapPolicy) (same : s.lower = t.lower) :
    (tagSentence resolver policy s).tags = (tagSentence resolver policy t).tags ∧
      (tagSentence resolver policy s).asked = (tagSentence resolver policy t).asked := by
  have small : s.tokens.map Text.lower = t.tokens.map Text.lower := by
    rw [← Text.tokens_lower, ← Text.tokens_lower, same]
  have count : s.tokens.length = t.tokens.length := by
    simpa using congrArg List.length small
  have alone : s.tokens.map resolver.resolve = t.tokens.map resolver.resolve := by
    simpa only [List.map_map, Function.comp_def, resolver.resolve_lower] using
      congrArg (List.map resolver.resolve) small
  have alike (window : Window) :
      resolver.resolve (window.text s.tokens) = resolver.resolve (window.text t.tokens) := by
    rw [← resolver.resolve_lower, lower_window_text small window, resolver.resolve_lower]
  unfold tagSentence ofTokens
  simp only [alone, count]
  obtain ⟨sameTags, sameAsked⟩ := sweep_congr policy alike (Window.all t.tokens.length)
    ((t.tokens.map resolver.resolve).map fun resolution => ⟨resolution.value, 1⟩)
  refine ⟨sameTags, ?_⟩
  simp only [asked, List.filterMap_append] at sameAsked ⊢
  rw [sameAsked]

end Tagging

namespace TaggedSpan

theorem reach_lower (words : List Text) : reach (words.map Text.lower) = reach words := by
  induction words with
  | nil => rfl
  | cons word words ih => rw [List.map_cons, reach_cons, reach_cons, Text.length_lower, ih]

theorem ofRun_congr (same : tokens.map Text.lower = others.map Text.lower) (run : Run) :
    (ofRun tokens run).start = (ofRun others run).start ∧
      (ofRun tokens run).stop = (ofRun others run).stop ∧
      (ofRun tokens run).value = (ofRun others run).value := by
  have start : reach (tokens.take run.start) = reach (others.take run.start) := by
    rw [← reach_lower (tokens.take run.start), ← reach_lower (others.take run.start), List.map_take,
      List.map_take, same]
  have length : (run.window.text tokens).length = (run.window.text others).length := by
    rw [← Text.length_lower, Tagging.lower_window_text same, Text.length_lower]
  exact ⟨start, by simp only [ofRun, ofToken, start, length], rfl⟩

end TaggedSpan

theorem findAll_congr_lower (resolver : Resolver) (policy : OverlapPolicy) (same : s.lower = t.lower) :
    ∃ spans spans', findAll resolver policy t = .ok spans ∧ findAll resolver policy s = .ok spans' ∧
      List.Forall₂ (fun span span' : TaggedSpan => span'.start = span.start ∧ span'.stop = span.stop ∧
        span'.value = span.value ∧ span'.text = (s.drop span.start).take (span.stop - span.start))
        spans spans' := by
  have small : s.tokens.map Text.lower = t.tokens.map Text.lower := by
    rw [← Text.tokens_lower, ← Text.tokens_lower, same]
  have values : (tagSentence resolver policy s).values = (tagSentence resolver policy t).values := by
    rw [Tagging.values, Tagging.values, (Tagging.tagSentence_congr resolver policy same).1]
  have long : t.tokens.length = (tagSentence resolver policy t).values.length :=
    (Tagging.length_values_tagSentence t).symm
  have long' : s.tokens.length = (tagSentence resolver policy s).values.length :=
    (Tagging.length_values_tagSentence s).symm
  refine ⟨_, _, findAll_eq_ok resolver policy t, findAll_eq_ok resolver policy s, ?_⟩
  have merged := TaggedSpan.mergeFrom_eq_map_ofRun [] long
  have merged' := TaggedSpan.mergeFrom_eq_map_ofRun [] long'
  rw [show (0 : Nat) = TaggedSpan.reach [] from rfl, merged, merged', values, List.forall₂_map_left_iff,
    List.forall₂_map_right_iff, List.forall₂_same]
  intro run member
  have maximal := Run.mem_ofValues_iff.mp member
  have inside : run.stop ≤ s.tokens.length := by
    rw [long', values]
    exact maximal.stop_le
  obtain ⟨start, stop, value⟩ := TaggedSpan.ofRun_congr small run
  obtain ⟨-, text⟩ := TaggedSpan.text_ofRun maximal.nonempty inside
  rw [Text.unwords_tokens, start, stop] at text
  exact ⟨start, stop, value, text⟩

/-- Capital letters in a sentence of Turkish change nothing but the texts of the spans. The tokens get the same
values, the fallback is asked the same questions, and the spans stand at the same places and denote the same,
whichever letters are capitals. -/
theorem tagging_ignores_letter_case (resolver : Resolver) (policy : OverlapPolicy) (chosen : Nat → Bool) (t : Text)
    (small : ∀ c ∈ t, c ∈ Text.smallCharacters) :
    let written := t.withCapitals chosen
    (tagSentence resolver policy written).values = (tagSentence resolver policy t).values ∧
      (tagSentence resolver policy written).asked = (tagSentence resolver policy t).asked ∧
      ∃ spans spans', findAll resolver policy t = .ok spans ∧ findAll resolver policy written = .ok spans' ∧
        List.Forall₂ (fun span span' : TaggedSpan => span'.start = span.start ∧ span'.stop = span.stop ∧
          span'.value = span.value ∧ span'.text = (written.drop span.start).take (span.stop - span.start))
          spans spans' := by
  intro written
  have same : written.lower = t.lower := Text.lower_withCapitals small chosen
  obtain ⟨tags, asked⟩ := Tagging.tagSentence_congr resolver policy same
  exact ⟨congrArg (List.map Tag.value) tags, asked, findAll_congr_lower resolver policy same⟩

theorem tagging_ignores_letter_case_labour_day :
    let resolver : Resolver := ⟨grammar, Timestamp.toMoment ⟨63759355200, by decide⟩, none⟩
    let t : Text := "işçi bayramı ılıktı".toList
    let written : Text := "İŞÇİ BAYRAMI ILIKTI".toList
    let day : Denotation := .span ⟨63750326400, by decide⟩ ⟨63750412799, by decide⟩
    (∀ c ∈ t, c ∈ Text.smallCharacters) ∧ t.withCapitals (fun _ => true) = written ∧
      (tagSentence resolver .longestMatch t).values = [some day, some day, none] ∧
      (tagSentence resolver .longestMatch written).values = [some day, some day, none] := by
  intro resolver t written day
  have known : t.all Text.smallCharacters.contains = true := by decide
  have small : ∀ c ∈ t, c ∈ Text.smallCharacters := fun c member =>
    List.contains_iff_mem.mp (List.all_eq_true.mp known c member)
  have capitals : t.withCapitals (fun _ => true) = written := by decide
  have tagged : (tagSentence resolver .longestMatch t).values = [some day, some day, none] := by decide +kernel
  obtain ⟨values, -⟩ := tagging_ignores_letter_case resolver .longestMatch (fun _ => true) t small
  rw [capitals] at values
  exact ⟨small, capitals, tagged, values.trans tagged⟩

end TurkishDates
