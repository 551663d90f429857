import TurkishDates.Proofs.Tagging.Comparison
import TurkishDates.Proofs.Tagging.Partition

/-!
A sentence that is one expression. The window of all its tokens is resolved last and no other has its size, so it
overwrites whatever shorter windows wrote, under either policy. All tokens then carry one value, and there is one
run of them: the sentence itself.
-/

namespace TurkishDates

theorem Run.ofValues_replicate (n size : Nat) (value : Denotation) :
    ofValues n (List.replicate (size + 1) (some value)) = [⟨⟨n, size + 1⟩, value⟩] := by
  induction size generalizing n with
  | zero => rfl
  | succ size ih =>
    have next : (List.replicate (size + 1) (some value)).head? = some (some value) := rfl
    rw [List.replicate_succ, ofValues, ih (n + 1), if_pos next, extendFirst]

namespace Window

def whole (t : Text) : Window := ⟨0, t.tokens.length⟩

theorem text_whole (t : Text) : (whole t).text t.tokens = t := by
  rw [text, whole, List.drop_zero, List.take_length, Text.unwords_tokens]

theorem eq_whole {t : Text} {window : Window} (fits : window.start + window.size ≤ t.tokens.length)
    (large : t.tokens.length ≤ window.size) : window = whole t := by
  obtain ⟨start, size⟩ := window
  rw [whole, Window.mk.injEq]
  simp only at fits large
  omega

end Window

namespace Tagging

open Window

variable {resolver : Resolver} {policy : OverlapPolicy} {t : Text} {value : Denotation}

theorem denotation?_whole (resolver : Resolver) (t : Text) :
    resolver.denotation? t.tokens (whole t) = (resolver.resolve t).value := by
  rw [Resolver.denotation?, text_whole]

/-- If the expression resolves, the window of all its tokens writes, whatever was written before. -/
theorem whole_mem_written (resolves : (resolver.resolve t).value = some value) (sized : 2 ≤ t.tokens.length) :
    whole t ∈ (tagSentence resolver policy t).written := by
  have listed : 2 ≤ (whole t).size ∧ (whole t).start + (whole t).size ≤ t.tokens.length :=
    ⟨sized, (Nat.zero_add _).le⟩
  have denotes : (resolver.denotation? t.tokens (whole t)).isSome := by
    rw [denotation?_whole]
    exact Option.isSome_of_eq_some resolves
  cases policy with
  | lastWriteWins => exact mem_written_lastWriteWins.mpr ⟨listed, denotes⟩
  | longestMatch =>
    apply mem_written_longestMatch.mpr
    exact ⟨listed, denotes, fun other _ _ left => absurd left (Nat.not_lt_zero _)⟩

theorem findRev?_written_whole (resolves : (resolver.resolve t).value = some value) (sized : 2 ≤ t.tokens.length)
    {i : Nat} (inside : i < t.tokens.length) :
    ((tagSentence resolver policy t).written.findRev? fun window => window.Covers i) = some (whole t) := by
  have member : whole t ∈ (tagSentence resolver policy t).written := whole_mem_written resolves sized
  have covers : (whole t).Covers i := ⟨Nat.zero_le i, by rwa [whole, Nat.zero_add]⟩
  cases last : (tagSentence resolver policy t).written.findRev? fun window => window.Covers i with
  | none => exact absurd covers (Window.not_covers_of_findRev? last (whole t) member)
  | some window =>
    obtain ⟨memberLast, -, greatest⟩ := Window.greatest_of_findRev?_covers (pairwise_written t) last
    rcases greatest (whole t) member covers with same | before
    · rw [same]
    · rw [eq_whole (within_of_mem_written memberLast).2 before.size_le]

theorem getElem?_values_whole (resolves : (resolver.resolve t).value = some value) {i : Nat}
    (inside : i < t.tokens.length) : (tagSentence resolver policy t).values[i]? = some (some value) := by
  rw [getElem?_values_tagSentence t inside]
  by_cases sized : 2 ≤ t.tokens.length
  · rw [findRev?_written_whole resolves sized inside]
    simp only [denotation?_whole, resolves]
  · -- A single token is resolved alone, and no window is.
    have single : whole t = ⟨i, 1⟩ := by
      rw [whole, Window.mk.injEq]
      omega
    have silent : (tagSentence resolver policy t).written = [] := by
      rw [List.eq_nil_iff_forall_not_mem]
      intro window member
      have bounds := within_of_mem_written member
      omega
    rw [silent, ← denotation?_single inside, ← single]
    simp only [List.findRev?, denotation?_whole, resolves]

theorem values_whole (resolves : (resolver.resolve t).value = some value) :
    (tagSentence resolver policy t).values = List.replicate t.tokens.length (some value) := by
  apply List.eq_replicate_iff.mpr
  refine ⟨length_values_tagSentence t, fun tag member => ?_⟩
  obtain ⟨i, found⟩ := List.mem_iff_getElem?.mp member
  have here : (tagSentence resolver policy t).values[i]? = some (some value) :=
    getElem?_values_whole resolves (lt_length_of_value found)
  exact Option.some.inj (found.symm.trans here)

end Tagging

theorem findAll_whole {resolver : Resolver} {policy : OverlapPolicy} {t : Text} {value : Denotation}
    (resolves : (resolver.resolve t).value = some value) :
    findAll resolver policy t = .ok [⟨0, t.length, t, value⟩] := by
  have values : (tagSentence resolver policy t).values = List.replicate t.tokens.length (some value) :=
    Tagging.values_whole resolves
  have long : t.tokens.length = (tagSentence resolver policy t).values.length :=
    (Tagging.length_values_tagSentence t).symm
  have merged := TaggedSpan.mergeFrom_eq_map_ofRun [] long
  obtain ⟨size, sized⟩ : ∃ size, t.tokens.length = size + 1 :=
    Nat.exists_eq_add_one.mpr (List.length_pos_iff.mpr (Text.tokens_ne_nil t))
  have runs : Run.ofValues 0 (tagSentence resolver policy t).values = [⟨Window.whole t, value⟩] := by
    rw [values, sized, Run.ofValues_replicate, Window.whole, sized]
  have span : TaggedSpan.ofRun t.tokens ⟨Window.whole t, value⟩ = ⟨0, t.length, t, value⟩ := by
    rw [TaggedSpan.ofRun, Window.text_whole, TaggedSpan.ofToken]
    congr
    exact Nat.zero_add t.length
  rw [findAll_eq_ok]
  apply congrArg Except.ok
  calc
    TaggedSpan.mergeFrom 0 (t.tokens.zip (tagSentence resolver policy t).values)
        = (Run.ofValues 0 (tagSentence resolver policy t).values).map (TaggedSpan.ofRun t.tokens) := merged
    _ = [⟨0, t.length, t, value⟩] := by rw [runs, List.map_singleton, span]

/-- If a sentence resolves as one expression, each of its tokens is tagged with the value of that expression, and
one span is found under either policy: the sentence from its first character to its last, reported with the kind
and the dates of the value. -/
theorem whole_expression_is_one_span (resolver : Resolver) (policy : OverlapPolicy) (t : Text) (value : Denotation)
    (resolves : (resolver.resolve t).value = some value) :
    let span : TaggedSpan := ⟨0, t.length, t, value⟩
    (tagSentence resolver policy t).values = List.replicate t.tokens.length (some value) ∧
      findAll resolver policy t = .ok [span] ∧ Report.IsReported span value := by
  intro span
  exact ⟨Tagging.values_whole resolves, findAll_whole resolves, Report.isReported_value span⟩

/-- Inside the date there is a day of another year and there is a month, in two windows that overlap. -/
theorem whole_expression_is_one_span_date :
    let resolver : Resolver := ⟨grammar, Timestamp.toMoment ⟨63759355200, by decide⟩, none⟩
    let t : Text := "28 Ocak 2005".toList
    let value : Denotation := .span ⟨63268905600, by decide⟩ ⟨63268991999, by decide⟩
    let span : TaggedSpan := ⟨0, 12, t, value⟩
    (resolver.resolve t).value = some value ∧
      findAll resolver .longestMatch t = .ok [span] ∧
      Report.spanJson span = .object
        [("start_index", .number "0".toList), ("end_index", .number "12".toList),
          ("text", .string "28 Ocak 2005".toList), ("type", .string "date-span".toList),
          ("start_date", .string "2005-01-28T00:00:00".toList),
          ("end_date", .string "2005-01-28T23:59:59".toList)] := by
  intro resolver t value span
  have resolves : (resolver.resolve t).value = some value := by decide
  obtain ⟨-, found, shown⟩ := whole_expression_is_one_span resolver .longestMatch t value resolves
  have start : digitsOf 0 = "0".toList := by decide
  have stop : digitsOf 12 = "12".toList := by decide
  have first : Moment.text 'T' (⟨63268905600, by decide⟩ : Timestamp) = "2005-01-28T00:00:00".toList := by decide
  have last : Moment.text 'T' (⟨63268991999, by decide⟩ : Timestamp) = "2005-01-28T23:59:59".toList := by decide
  refine ⟨resolves, found, ?_⟩
  rw [← start, ← stop, ← first, ← last]
  exact shown

end TurkishDates
