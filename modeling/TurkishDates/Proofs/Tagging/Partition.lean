import TurkishDates.Grammar.Weeks
import TurkishDates.Proofs.Tagging.Runs
import TurkishDates.Report.Results

/-!
The spans of a sentence are the runs of its tags. Their places are counted by the characters and the
spaces in front of them, and these are the places of their texts in the sentence, whatever tokens there
are: empty ones between two spaces as well.
-/

namespace TurkishDates

namespace Text

def spaced (words : List Text) : Text := words.flatMap fun word => word ++ [' ']

theorem spaced_append (words others : List Text) :
    spaced (words ++ others) = spaced words ++ spaced others := List.flatMap_append

theorem spaced_cons (word : Text) (words : List Text) :
    spaced (word :: words) = word ++ ' ' :: spaced words := by
  simp [spaced]

theorem length_spaced (words : List Text) : (spaced words).length = TaggedSpan.reach words := by
  induction words with
  | nil => rfl
  | cons word words ih =>
    rw [spaced_cons, TaggedSpan.reach_cons, ← ih, List.length_append, List.length_cons]
    omega

theorem unwords_append (words : List Text) {others : List Text} (nonempty : others ≠ []) :
    unwords (words ++ others) = spaced words ++ unwords others := by
  induction words with
  | nil => rfl
  | cons word words ih =>
    rw [List.cons_append, unwords_cons word (List.append_ne_nil_of_right_ne_nil words nonempty), ih,
      spaced_cons, List.append_assoc, List.cons_append]

theorem spaced_eq_unwords {words : List Text} (nonempty : words ≠ []) :
    spaced words = unwords words ++ [' '] := by
  induction words with
  | nil => exact absurd rfl nonempty
  | cons word words ih =>
    rw [spaced_cons]
    cases words with
    | nil => rfl
    | cons next words =>
      rw [ih (List.cons_ne_nil next words), unwords_cons word (List.cons_ne_nil next words),
        List.append_assoc, List.cons_append]

end Text

namespace TaggedSpan

theorem reach_append (words others : List Text) :
    reach (words ++ others) = reach words + reach others := by
  simp only [← Text.length_spaced, Text.spaced_append, List.length_append]

theorem reach_eq_length_unwords {words : List Text} (nonempty : words ≠ []) :
    reach words = (Text.unwords words).length + 1 := by
  rw [← Text.length_spaced, Text.spaced_eq_unwords nonempty, List.length_append, List.length_singleton]

theorem reach_take_mono (tokens : List Text) {i j : Nat} (before : i ≤ j) :
    reach (tokens.take i) ≤ reach (tokens.take j) := by
  obtain ⟨rest, split⟩ := List.take_prefix_take_left (l := tokens) before
  rw [← split, reach_append]
  exact Nat.le_add_right _ _

theorem reach_take_succ {tokens : List Text} {i : Nat} (inside : i < tokens.length) :
    reach (tokens.take (i + 1)) = reach (tokens.take i) + tokens[i].length + 1 := by
  rw [List.take_succ_eq_append_getElem inside, reach_append]
  simp [reach, Nat.add_assoc]

def ofRun (tokens : List Text) (run : Run) : TaggedSpan :=
  ofToken (reach (tokens.take run.start)) (run.window.text tokens) run.value

variable {tokens : List Text} {values : List (Option Denotation)} {run : Run}

theorem slice_ne_nil (nonempty : run.start < run.stop) (inside : run.stop ≤ tokens.length) :
    (tokens.drop run.start).take run.window.size ≠ [] := by
  rw [← List.length_pos_iff, List.length_take, List.length_drop]
  unfold Run.start Run.stop at *
  omega

theorem take_stop (tokens : List Text) (run : Run) :
    tokens.take run.stop =
      tokens.take run.start ++ (tokens.drop run.start).take run.window.size := List.take_add

/-- A run ends one space before the token behind it. -/
theorem stop_ofRun (nonempty : run.start < run.stop) (inside : run.stop ≤ tokens.length) :
    (ofRun tokens run).stop + 1 = reach (tokens.take run.stop) := by
  rw [take_stop, reach_append, reach_eq_length_unwords (slice_ne_nil nonempty inside)]
  rfl

theorem exists_unwords_eq (nonempty : run.start < run.stop) (inside : run.stop ≤ tokens.length) :
    ∃ back, Text.unwords tokens =
      Text.spaced (tokens.take run.start) ++ (run.window.text tokens ++ back) := by
  have slice := slice_ne_nil nonempty inside
  have split := List.take_append_drop run.stop tokens
  rw [take_stop, List.append_assoc] at split
  cases behind : tokens.drop run.stop with
  | nil =>
    rw [behind, List.append_nil] at split
    refine ⟨[], ?_⟩
    rw [List.append_nil, Window.text, ← Text.unwords_append _ slice]
    exact congrArg Text.unwords split.symm
  | cons next rest =>
    rw [behind] at split
    refine ⟨' ' :: Text.unwords (next :: rest), ?_⟩
    calc
      Text.unwords tokens = Text.spaced (tokens.take run.start) ++
          (Text.spaced ((tokens.drop run.start).take run.window.size) ++
            Text.unwords (next :: rest)) := by
        rw [← Text.unwords_append _ (List.cons_ne_nil next rest), ← Text.unwords_append]
        · exact congrArg Text.unwords split.symm
        · exact List.append_ne_nil_of_right_ne_nil _ (List.cons_ne_nil next rest)
      _ = _ := by
        rw [Text.spaced_eq_unwords slice, List.append_assoc]
        rfl

theorem text_ofRun (nonempty : run.start < run.stop) (inside : run.stop ≤ tokens.length) :
    (ofRun tokens run).stop ≤ (Text.unwords tokens).length ∧
      (ofRun tokens run).text = ((Text.unwords tokens).drop (ofRun tokens run).start).take
        ((ofRun tokens run).stop - (ofRun tokens run).start) := by
  obtain ⟨back, placed⟩ := exists_unwords_eq nonempty inside
  have start : (ofRun tokens run).start = (Text.spaced (tokens.take run.start)).length :=
    (Text.length_spaced _).symm
  have size : (ofRun tokens run).stop - (ofRun tokens run).start = (run.window.text tokens).length :=
    Nat.add_sub_cancel_left _ _
  constructor
  · rw [placed, List.length_append, List.length_append, ← start]
    show (ofRun tokens run).start + (run.window.text tokens).length ≤ _
    omega
  · rw [size, start, placed, List.drop_left, List.take_left]
    rfl

theorem extendFirst_ofToken (place : Nat) (front t : Text) (value : Denotation) (rest : List TaggedSpan) :
    extendFirst place front (ofToken (place + front.length + 1) t value :: rest) =
      ofToken place (front ++ ' ' :: t) value :: rest := by
  have stop : place + front.length + 1 + t.length = place + (front ++ ' ' :: t).length := by
    rw [List.length_append, List.length_cons]
    omega
  rw [extendFirst, ofToken, ofToken, stop]

/-- The spans that merging makes of tagged tokens are their runs. What stands in front of the tokens is
there for the places only. -/
theorem mergeFrom_eq_map_ofRun (front : List Text) (long : tokens.length = values.length) :
    mergeFrom (reach front) (tokens.zip values) =
      (Run.ofValues front.length values).map (ofRun (front ++ tokens)) := by
  induction values generalizing front tokens with
  | nil =>
    rw [List.length_eq_zero_iff.mp long]
    rfl
  | cons value values ih =>
    obtain ⟨token, tokens, rfl⟩ := List.exists_cons_of_length_eq_add_one long
    have later := ih (front ++ [token]) (Nat.succ.inj long)
    have place : reach (front ++ [token]) = reach front + token.length + 1 := by
      rw [reach_append]
      simp [reach, Nat.add_assoc]
    rw [place, List.length_append, List.length_singleton, List.append_assoc, List.singleton_append]
      at later
    rw [List.zip_cons_cons]
    cases value with
    | none => rw [mergeFrom, Run.ofValues, later]
    | some value =>
      have next : (tokens.zip values).head?.any (fun next => next.2 = some value) = true ↔
          values.head? = some (some value) := by
        cases values with
        | nil => simp
        | cons other values =>
          obtain ⟨second, tokens, rfl⟩ := List.exists_cons_of_length_eq_add_one (Nat.succ.inj long)
          simp
      have here : ofRun (front ++ token :: tokens) ⟨⟨front.length, 1⟩, value⟩ =
          ofToken (reach front) token value := by
        simp [ofRun, Run.start, Window.text, Text.unwords]
      rw [mergeFrom, Run.ofValues]
      simp only [later, next]
      split
      next same =>
        obtain ⟨size, rest, sized, found⟩ := Run.exists_ofValues_eq_cons same (front.length + 1)
        have slice : tokens.take size ≠ [] := by
          have inside : tokens ≠ [] := by
            rintro rfl
            rw [List.length_eq_zero_iff.mp (Nat.succ.inj long).symm] at same
            cases same
          simpa [inside] using Nat.ne_of_gt sized
        have extended : ofRun (front ++ token :: tokens) ⟨⟨front.length, size + 1⟩, value⟩ =
            ofToken (reach front) (token ++ ' ' :: Text.unwords (tokens.take size)) value := by
          simp [ofRun, Run.start, Window.text, Text.unwords_cons token slice]
        have first : ofRun (front ++ token :: tokens) ⟨⟨front.length + 1, size⟩, value⟩ =
            ofToken (reach front + token.length + 1) (Text.unwords (tokens.take size)) value := by
          have passed : (front ++ token :: tokens).take (front.length + 1) = front ++ [token] := by
            rw [List.append_cons, List.take_left' (by simp)]
          rw [ofRun, Run.start, passed, place]
          simp [Window.text]
        rw [found, Run.extendFirst, List.map_cons, List.map_cons, extended, first, extendFirst_ofToken]
      next => rw [List.map_cons, here]

def holds (span : TaggedSpan) (place : Nat) (token : Text) : Bool :=
  span.start ≤ place && place + token.length ≤ span.stop

/-- Gives each token the value of the span in which it lies, when the first token begins at `place`. -/
def expand (spans : List TaggedSpan) (place : Nat) : List Text → List (Option Denotation)
  | [] => []
  | token :: tokens =>
      (spans.find? (·.holds place token)).map (·.value) ::
        expand spans (place + token.length + 1) tokens

theorem length_expand (spans : List TaggedSpan) (place : Nat) (tokens : List Text) :
    (expand spans place tokens).length = tokens.length := by
  induction tokens generalizing place with
  | nil => rfl
  | cons token tokens ih => rw [expand, List.length_cons, ih, List.length_cons]

theorem getElem?_expand (spans : List TaggedSpan) (place : Nat) {i : Nat} (inside : i < tokens.length) :
    (expand spans place tokens)[i]? =
      some ((spans.find? (·.holds (place + reach (tokens.take i)) tokens[i])).map (·.value)) := by
  induction tokens generalizing place i with
  | nil => cases inside
  | cons token tokens ih =>
    cases i with
    | zero => rfl
    | succ i =>
      have next : place + token.length + 1 + reach (tokens.take i) =
          place + (token.length + 1 + reach (tokens.take i)) := by omega
      rw [expand, List.getElem?_cons_succ, ih _ (Nat.lt_of_succ_lt_succ inside), List.take_succ_cons,
        reach_cons, List.getElem_cons_succ, next]

theorem holds_ofRun_iff (nonempty : run.start < run.stop) (within : run.stop ≤ tokens.length) {i : Nat}
    (inside : i < tokens.length) :
    (ofRun tokens run).holds (reach (tokens.take i)) tokens[i] = true ↔ run.window.Covers i := by
  have stops := stop_ofRun nonempty within
  have next := reach_take_succ inside
  have start : (ofRun tokens run).start = reach (tokens.take run.start) := rfl
  simp only [holds, Bool.and_eq_true, decide_eq_true_eq]
  constructor
  · rintro ⟨behind, before⟩
    constructor
    · by_contra left
      have passed : reach (tokens.take (i + 1)) ≤ reach (tokens.take run.start) :=
        reach_take_mono tokens (Nat.lt_of_not_le left)
      omega
    · by_contra right
      have passed : reach (tokens.take run.stop) ≤ reach (tokens.take i) :=
        reach_take_mono tokens (Nat.le_of_not_lt right)
      omega
  · rintro ⟨behind, before⟩
    have passed : reach (tokens.take (i + 1)) ≤ reach (tokens.take run.stop) :=
      reach_take_mono tokens before
    exact ⟨reach_take_mono tokens behind, by omega⟩

theorem expand_map_ofRun (long : tokens.length = values.length) :
    expand ((Run.ofValues 0 values).map (ofRun tokens)) 0 tokens = values := by
  apply List.ext_getElem?
  intro i
  by_cases inside : i < tokens.length
  · have lies (run : Run) (member : run ∈ Run.ofValues 0 values) :
        (ofRun tokens run).holds (reach (tokens.take i)) tokens[i] = true ↔ run.window.Covers i := by
      have maximal := Run.mem_ofValues_iff.mp member
      exact holds_ofRun_iff maximal.nonempty (long ▸ maximal.stop_le) inside
    rw [getElem?_expand _ 0 inside, Nat.zero_add, List.find?_map, Option.map_map]
    cases found : (Run.ofValues 0 values).find?
        ((fun span : TaggedSpan => span.holds (reach (tokens.take i)) tokens[i]) ∘ ofRun tokens) with
    | some run =>
      have member := List.mem_of_find?_eq_some found
      have holding := List.find?_some found
      have covers := (lies run member).mp holding
      exact ((Run.mem_ofValues_iff.mp member).carried i covers).symm
    | none =>
      have absent := List.find?_eq_none.mp found
      have tagged : i < values.length := long ▸ inside
      rw [List.getElem?_eq_getElem tagged]
      cases carried : values[i] with
      | none => rfl
      | some value =>
        have carries : values[i]? = some (some value) := by
          rw [List.getElem?_eq_getElem tagged, carried]
        obtain ⟨run, member, covers, -⟩ := Run.getElem?_eq_some_some_iff.mp carries
        exact absurd ((lies run member).mpr covers) (absent run member)
  · have beyond : tokens.length ≤ i := Nat.le_of_not_lt inside
    rw [List.getElem?_eq_none (by rwa [length_expand]), List.getElem?_eq_none (long ▸ beyond)]

theorem pairwise_map_ofRun {runs : List Run}
    (maximal : ∀ run ∈ runs, run.start < run.stop ∧ run.stop ≤ tokens.length)
    (apart : runs.Pairwise fun first second => first.stop ≤ second.start) :
    (runs.map (ofRun tokens)).Pairwise fun first second => first.stop < second.start := by
  rw [List.pairwise_map]
  refine apart.imp_of_mem fun {first second} member _ before => ?_
  obtain ⟨nonempty, within⟩ := maximal first member
  have stops := stop_ofRun nonempty within
  have passed : reach (tokens.take first.stop) ≤ (ofRun tokens second).start :=
    reach_take_mono tokens before
  omega

end TaggedSpan

namespace Report

def dated (span : TaggedSpan) (kind : String) (first last : Json) : Json :=
  .object
    [("start_index", natural span.start), ("end_index", natural span.stop), ("text", .string span.text),
      ("type", .string kind.toList), ("start_date", first), ("end_date", last)]

/-- What a span with a value is reported as. The date of an instant stands in both places, and so does what a
recurrence begins with. -/
def IsReported (span : TaggedSpan) : Denotation → Prop
  | .instant time =>
      spanJson span = dated span "datetime" (.string (time.text 'T')) (.string (time.text 'T'))
  | .span start stop =>
      spanJson span = dated span "date-span" (.string (Moment.text 'T' start)) (.string (Moment.text 'T' stop))
  | .recurrence .week anchor =>
      spanJson span = dated span "date-period" (.object [("week", .string anchor)]) (.object [("week", .string anchor)])
  | .recurrence .month anchor =>
      spanJson span =
        dated span "date-period" (.object [("month", .string anchor)]) (.object [("month", .string anchor)])
  | .recurrence .year anchor =>
      spanJson span = dated span "date-period" (.object [("year", .string anchor)]) (.object [("year", .string anchor)])

theorem isReported_value (span : TaggedSpan) : IsReported span span.value := by
  obtain ⟨start, stop, t, value⟩ := span
  cases value with
  | instant time => rfl
  | span first last => rfl
  | recurrence unit anchor => cases unit <;> rfl

end Report

/-- Finding the expressions of a sentence always succeeds. The spans are those of the runs of the tags:
a run is found exactly when it is maximal, the runs stand one behind the other, and each token with a
value stands in exactly one of them. A span has the characters of the sentence at its place, with a space
before the next span, and is reported with the kind and the dates of the value that its tokens carry.
Giving the tokens the values of the spans in which they lie yields their tags again. -/
theorem spans_partition_tagged_tokens (resolver : Resolver) (policy : OverlapPolicy) (t : Text) :
    let tokens := t.tokens
    let values := (tagSentence resolver policy t).values
    ∃ runs : List Run,
      let spans := runs.map (TaggedSpan.ofRun tokens)
      findAll resolver policy t = .ok spans ∧
      (∀ run, run ∈ runs ↔ run.IsMaximal values) ∧
      runs.Pairwise (fun first second => first.stop ≤ second.start) ∧
      (∀ i value, values[i]? = some (some value) →
        ∃! run, run ∈ runs ∧ run.window.Covers i ∧ run.value = value) ∧
      (∀ run ∈ runs, ∀ i, run.window.Covers i → values[i]? = some (some run.value)) ∧
      (∀ run ∈ runs,
        let span := TaggedSpan.ofRun tokens run
        span.stop ≤ t.length ∧ span.text = (t.drop span.start).take (span.stop - span.start) ∧
        Report.IsReported span run.value) ∧
      spans.Pairwise (fun first second => first.stop < second.start) ∧
      TaggedSpan.expand spans 0 tokens = values := by
  intro tokens values
  have long : tokens.length = values.length := (Tagging.length_values_tagSentence t).symm
  have within (run : Run) (member : run ∈ Run.ofValues 0 values) :
      run.start < run.stop ∧ run.stop ≤ tokens.length := by
    have maximal := Run.mem_ofValues_iff.mp member
    exact ⟨maximal.nonempty, long ▸ maximal.stop_le⟩
  have apart := (Run.pairwise_ofValues 0 values).2
  refine ⟨Run.ofValues 0 values, ?_, fun run => Run.mem_ofValues_iff, apart, ?_, ?_, ?_,
    TaggedSpan.pairwise_map_ofRun within apart, TaggedSpan.expand_map_ofRun long⟩
  · rw [findAll_eq_ok]
    exact congrArg Except.ok (TaggedSpan.mergeFrom_eq_map_ofRun [] long)
  · intro i value carries
    obtain ⟨run, member, covers, same⟩ := Run.getElem?_eq_some_some_iff.mp carries
    refine ⟨run, ⟨member, covers, same⟩, ?_⟩
    rintro other ⟨memberOther, coversOther, -⟩
    exact (Run.mem_ofValues_iff.mp memberOther).eq_of_covers (Run.mem_ofValues_iff.mp member)
      coversOther covers
  · intro run member
    exact (Run.mem_ofValues_iff.mp member).carried
  · intro run member
    obtain ⟨nonempty, inside⟩ := within run member
    obtain ⟨fits, spelled⟩ := TaggedSpan.text_ofRun nonempty inside
    rw [Text.unwords_tokens] at fits spelled
    exact ⟨fits, spelled, Report.isReported_value (TaggedSpan.ofRun tokens run)⟩

/-- Where two expressions of last week overlap, the token that both cover stands in one run. -/
theorem spans_partition_tagged_tokens_shared_token :
    let resolver : Resolver :=
      ⟨[Grammar.lastWeek, Grammar.weekdays], Timestamp.toMoment ⟨63759355200, by decide⟩, none⟩
    let t : Text := "geçen hafta içi".toList
    let lastWeek : Denotation := .span ⟨63758448000, by decide⟩ ⟨63759052799, by decide⟩
    let weekdays : Denotation := .span ⟨63759052800, by decide⟩ ⟨63759484799, by decide⟩
    let values := (tagSentence resolver .lastWriteWins t).values
    let span : TaggedSpan := ⟨6, 15, "hafta içi".toList, weekdays⟩
    values = [some lastWeek, some weekdays, some weekdays] ∧
      (∃ run : Run, run.IsMaximal values ∧ run.window.Covers 1 ∧ run.value = weekdays) ∧
      findAll resolver .lastWriteWins t = .ok [⟨0, 5, "geçen".toList, lastWeek⟩, span] ∧
      Report.spanJson span = .object
        [("start_index", .number "6".toList), ("end_index", .number "15".toList),
          ("text", .string "hafta içi".toList), ("type", .string "date-span".toList),
          ("start_date", .string "2020-08-10T00:00:00".toList),
          ("end_date", .string "2020-08-14T23:59:59".toList)] := by
  intro resolver t lastWeek weekdays values span
  have tagged : values = [some lastWeek, some weekdays, some weekdays] := by decide +kernel
  have found : findAll resolver .lastWriteWins t = .ok [⟨0, 5, "geçen".toList, lastWeek⟩, span] := by
    rw [findAll_eq_ok]
    exact congrArg (fun tags => Except.ok (TaggedSpan.mergeFrom 0 (t.tokens.zip tags))) tagged
  obtain ⟨runs, placed, maximal, -, stands, -, reported, -⟩ :=
    spans_partition_tagged_tokens resolver .lastWriteWins t
  have carries : values[1]? = some (some weekdays) := by rw [tagged]; rfl
  obtain ⟨run, ⟨member, covers, same⟩, -⟩ := stands 1 weekdays carries
  have spans : runs.map (TaggedSpan.ofRun t.tokens) = [⟨0, 5, "geçen".toList, lastWeek⟩, span] :=
    Except.ok.inj (placed.symm.trans found)
  have here : TaggedSpan.ofRun t.tokens run = span := by
    have listed := List.mem_map_of_mem (f := TaggedSpan.ofRun t.tokens) member
    rw [spans, List.mem_pair] at listed
    refine listed.resolve_left fun other => ?_
    have both : weekdays = lastWeek := same.symm.trans (congrArg TaggedSpan.value other)
    exact absurd both (by decide)
  obtain ⟨-, -, shown⟩ := reported run member
  rw [here, same] at shown
  have start : digitsOf 6 = "6".toList := by decide
  have stop : digitsOf 15 = "15".toList := by decide
  have first : Moment.text 'T' (⟨63759052800, by decide⟩ : Timestamp) = "2020-08-10T00:00:00".toList := by decide
  have last : Moment.text 'T' (⟨63759484799, by decide⟩ : Timestamp) = "2020-08-14T23:59:59".toList := by decide
  refine ⟨tagged, ⟨run, (maximal run).mp member, covers, same⟩, found, ?_⟩
  rw [← start, ← stop, ← first, ← last]
  exact shown

end TurkishDates
