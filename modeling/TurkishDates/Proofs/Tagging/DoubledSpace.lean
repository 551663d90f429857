import TurkishDates.Proofs.Resolution.Spacing
import TurkishDates.Proofs.Tagging.Border
import TurkishDates.Proofs.Tagging.Spans

/-!
A doubled space in a sentence. The empty token between the two spaces belongs to no expression, so it
parts the sentence into two that are tagged on their own.
-/

namespace TurkishDates

namespace Tagging

variable {reference : Moment} {policy : OverlapPolicy}

theorem denotation?_eq_none_of_covers_empty {tokens : List Text} {i : Nat}
    (empty : tokens[i]? = some []) {window : Window} (covers : window.Covers i) :
    (⟨grammar, reference, none⟩ : Resolver).denotation? tokens window = none := by
  by_contra denotes
  have tight : (window.text tokens).IsTight :=
    Resolver.isTight_of_isSome (Option.isSome_iff_ne_none.mpr denotes)
  have member : [] ∈ (tokens.drop window.start).take window.size := by
    apply List.mem_of_getElem? (i := i - window.start)
    rw [List.getElem?_take_of_lt (by omega), List.getElem?_drop, Nat.add_sub_cancel' covers.1]
    exact empty
  have words := (Text.isTight_unwords (List.ne_nil_of_mem member)).mp tight
  exact Text.not_isTight_nil (words [] member)

theorem tags_append_empty (left right : List Text) :
    let resolver : Resolver := ⟨grammar, reference, none⟩
    (ofTokens resolver.resolve policy (left ++ [] :: right)).tags =
      (ofTokens resolver.resolve policy left).tags ++
        ⟨none, 1⟩ :: (ofTokens resolver.resolve policy right).tags := by
  intro resolver
  have alone : (ofTokens resolver.resolve policy [[]]).tags = [⟨none, 1⟩] := by
    have silent : resolver.denotation? [[]] ⟨0, 1⟩ = none :=
      denotation?_eq_none_of_covers_empty (i := 0) rfl ⟨Nat.le_refl 0, Nat.zero_lt_one⟩
    rw [tags_ofTokens]
    show [(⟨resolver.denotation? [[]] ⟨0, 1⟩, 1⟩ : Tag)] = _
    rw [silent]
  have afterEmpty : (ofTokens resolver.resolve policy ([[]] ++ right)).tags =
      (ofTokens resolver.resolve policy [[]]).tags ++
        (ofTokens resolver.resolve policy right).tags := by
    apply tags_append
    intro window beyond before
    apply denotation?_eq_none_of_covers_empty (i := 0) rfl
    unfold Window.EndsBy at beyond
    exact ⟨by simpa using before, by omega⟩
  have beforeEmpty : (ofTokens resolver.resolve policy (left ++ [] :: right)).tags =
      (ofTokens resolver.resolve policy left).tags ++
        (ofTokens resolver.resolve policy ([] :: right)).tags := by
    apply tags_append
    intro window beyond before
    have empty : (left ++ [] :: right)[left.length]? = some [] := by simp
    apply denotation?_eq_none_of_covers_empty empty
    unfold Window.EndsBy at beyond
    exact ⟨before.le, by omega⟩
  rw [beforeEmpty, show [] :: right = [[]] ++ right from rfl, afterEmpty, alone]
  rfl

end Tagging

theorem Text.tokens_doubled_space (u v : Text) :
    tokens (u ++ ' ' :: ' ' :: v) = tokens u ++ [] :: tokens v := by
  rw [tokens_append_space]
  rfl

/-- A doubled space parts a sentence. Without a fallback, the expressions of the whole are those before
the spaces and those behind them, the latter moved by the characters in front of them. The tokens of
each side have the tags that they have alone, and nothing that covers the empty token between the
spaces denotes anything. -/
theorem doubled_space_barrier (reference : Moment) (policy : OverlapPolicy) (u v : Text) :
    let resolver : Resolver := ⟨grammar, reference, none⟩
    let joined := u ++ ' ' :: ' ' :: v
    (∃ before after, findAll resolver policy u = .ok before ∧
      findAll resolver policy v = .ok after ∧
      findAll resolver policy joined =
        .ok (before ++ after.map fun span => span.moveBy (u.length + 2))) ∧
    (tagSentence resolver policy joined).tags =
      (tagSentence resolver policy u).tags ++ ⟨none, 1⟩ :: (tagSentence resolver policy v).tags ∧
    ∀ window : Window, window.Covers u.tokens.length →
      resolver.denotation? joined.tokens window = none := by
  intro resolver joined
  have cut : joined.tokens = u.tokens ++ [] :: v.tokens := Text.tokens_doubled_space u v
  have tags : (tagSentence resolver policy joined).tags =
      (tagSentence resolver policy u).tags ++ ⟨none, 1⟩ :: (tagSentence resolver policy v).tags := by
    unfold tagSentence
    rw [cut]
    exact Tagging.tags_append_empty u.tokens v.tokens
  refine ⟨⟨_, _, findAll_eq_ok resolver policy u, findAll_eq_ok resolver policy v, ?_⟩, tags,
    fun window covers => ?_⟩
  · have values : (tagSentence resolver policy joined).values =
        (tagSentence resolver policy u).values ++ none :: (tagSentence resolver policy v).values := by
      simp only [Tagging.values, tags, List.map_append, List.map_cons]
    have sameLength : u.tokens.length = (tagSentence resolver policy u).values.length :=
      (Tagging.length_values_tagSentence u).symm
    have place : 0 + TaggedSpan.reach u.tokens + ([] : Text).length + 1 = 0 + (u.length + 2) := by
      rw [TaggedSpan.reach_tokens, List.length_nil]
      omega
    calc
      findAll resolver policy joined =
          .ok (TaggedSpan.mergeFrom 0 (joined.tokens.zip (tagSentence resolver policy joined).values)) :=
        findAll_eq_ok resolver policy joined
      _ = .ok (TaggedSpan.mergeFrom 0 (u.tokens.zip (tagSentence resolver policy u).values ++
            ([], none) :: v.tokens.zip (tagSentence resolver policy v).values)) := by
        rw [cut, values, List.zip_append sameLength, List.zip_cons_cons]
      _ = .ok (TaggedSpan.mergeFrom 0 (u.tokens.zip (tagSentence resolver policy u).values) ++
            TaggedSpan.mergeFrom (0 + (u.length + 2))
              (v.tokens.zip (tagSentence resolver policy v).values)) := by
        rw [TaggedSpan.mergeFrom_append_none, List.map_fst_zip sameLength.le, place]
      _ = _ := by rw [TaggedSpan.mergeFrom_add]
  · rw [cut]
    exact Tagging.denotation?_eq_none_of_covers_empty (by simp) covers

theorem doubled_space_barrier_today_tomorrow :
    let resolver : Resolver := ⟨grammar, Timestamp.toMoment ⟨63759355200, by decide⟩, none⟩
    let joined : Text := "bugün  yarın".toList
    Window.Covers ⟨0, 3⟩ (Text.tokens "bugün".toList).length ∧
      resolver.denotation? joined.tokens ⟨0, 3⟩ = none := by
  intro resolver joined
  have covers : Window.Covers ⟨0, 3⟩ (Text.tokens "bugün".toList).length := by decide
  have same : joined = "bugün".toList ++ ' ' :: ' ' :: "yarın".toList := by decide
  obtain ⟨-, -, silent⟩ := doubled_space_barrier (Timestamp.toMoment ⟨63759355200, by decide⟩) .lastWriteWins
    "bugün".toList "yarın".toList
  rw [same]
  exact ⟨covers, silent ⟨0, 3⟩ covers⟩

end TurkishDates
