import TurkishDates.Proofs.Tagging.Writing

/-!
How tagged tokens become spans. Merging from left to right lengthens the last span for as long as the tags stay the
same. From right to left each token joins the first span behind it, and the spans are equal: in this form a token
without a value ends the span in front of it, so the spans behind it are those of the tokens behind it, moved by the
characters up to there.
-/

namespace TurkishDates

namespace TaggedSpan

def moveBy (span : TaggedSpan) (n : Nat) : TaggedSpan :=
  { span with start := span.start + n, stop := span.stop + n }

def extendFirst (start : Nat) (front : Text) : List TaggedSpan → List TaggedSpan
  | [] => []
  | first :: rest => { first with start := start, text := front ++ ' ' :: first.text } :: rest

/-- The spans of tagged tokens from right to left, when the first token begins at `place`. -/
def mergeFrom (place : Nat) : List (Text × Option Denotation) → List TaggedSpan
  | [] => []
  | (token, none) :: rest => mergeFrom (place + token.length + 1) rest
  | (token, some value) :: rest =>
      let later := mergeFrom (place + token.length + 1) rest
      if rest.head?.any (fun next => next.2 = some value) then extendFirst place token later
      else ofToken place token value :: later

def continued (span : TaggedSpan) (tagged : List (Text × Option Denotation)) : List TaggedSpan :=
  if tagged.head?.any (fun next => next.2 = some span.value) then
    extendFirst span.start span.text (mergeFrom (span.stop + 1) tagged)
  else span :: mergeFrom (span.stop + 1) tagged

theorem mergeFrom_some (place : Nat) (token : Text) (value : Denotation) (rest : List (Text × Option Denotation)) :
    mergeFrom place ((token, some value) :: rest) = continued (ofToken place token value) rest := rfl

theorem continued_some (span : TaggedSpan) (token : Text) (rest : List (Text × Option Denotation)) :
    continued span ((token, some span.value) :: rest) = continued (span.extend token) rest := by
  have head : ((token, some span.value) :: rest).head?.any (fun next => next.2 = some span.value) = true := by simp
  have place : (ofToken (span.stop + 1) token span.value).stop + 1 = (span.extend token).stop + 1 := by
    simp only [ofToken, extend]
    omega
  have same : (span.extend token).value = span.value := rfl
  rw [continued, if_pos head, mergeFrom_some, continued, continued, place, same]
  change extendFirst span.start span.text (if rest.head?.any (fun next => next.2 = some span.value) then _ else _) = _
  split
  · cases mergeFrom ((span.extend token).stop + 1) rest with
    | nil => rfl
    | cons first later => simp [extendFirst, ofToken, extend]
  · simp only [extendFirst, ofToken, extend, Nat.add_right_comm]

theorem continued_of_ne {span : TaggedSpan} {tag : Option Denotation} (token : Text)
    (rest : List (Text × Option Denotation)) (other : tag ≠ some span.value) :
    continued span ((token, tag) :: rest) = span :: mergeFrom (span.stop + 1) ((token, tag) :: rest) :=
  if_neg (by simpa using other)

namespace Merging

variable (done : List TaggedSpan) (last : TaggedSpan) (place : Nat) (token : Text)

theorem addToken_untagged (value : Denotation) :
    addToken ⟨done, place, none⟩ token value = done ++ [ofToken place token value] := by
  unfold addToken
  split
  · exact if_neg (by simp)
  next empty =>
    have nothing : done = [] := List.getLast?_eq_none_iff.mp empty
    rw [nothing, List.nil_append]

theorem addToken_same :
    addToken ⟨done ++ [last], place, some last.value⟩ token last.value = done ++ [last.extend token] := by
  simp [addToken]

theorem addToken_other {value : Denotation} (other : value ≠ last.value) :
    addToken ⟨done ++ [last], place, some last.value⟩ token value =
      done ++ [last] ++ [ofToken place token value] := by
  simp [addToken, other.symm]

end Merging

/-- What is merged so far stays, and its last span goes on if the tag before belongs to it. -/
theorem spans_foldl (tagged : List (Text × Option Denotation)) :
    (∀ done place, (tagged.foldl Merging.step ⟨done, place, none⟩).spans = done ++ mergeFrom place tagged) ∧
    ∀ done (last : TaggedSpan), (tagged.foldl Merging.step ⟨done ++ [last], last.stop + 1, some last.value⟩).spans =
      done ++ continued last tagged := by
  induction tagged with
  | nil => exact ⟨fun done place => (List.append_nil done).symm, fun done last => rfl⟩
  | cons head rest ih =>
    obtain ⟨afterNone, afterSome⟩ := ih
    obtain ⟨token, tag⟩ := head
    have begun (done : List TaggedSpan) (place : Nat) (value : Denotation) :
        (rest.foldl Merging.step ⟨done ++ [ofToken place token value], place + token.length + 1, some value⟩).spans =
          done ++ mergeFrom place ((token, some value) :: rest) :=
      afterSome done (ofToken place token value)
    constructor
    · intro done place
      cases tag with
      | none => exact afterNone done _
      | some value =>
        rw [List.foldl_cons, Merging.step]
        simp only [Option.elim, Merging.addToken_untagged]
        exact begun done place value
    · intro done last
      cases tag with
      | none =>
        rw [continued_of_ne token rest (by simp)]
        exact (afterNone (done ++ [last]) _).trans (List.append_cons ..).symm
      | some value =>
        rw [List.foldl_cons, Merging.step]
        by_cases same : value = last.value
        · subst same
          have place : last.stop + 1 + token.length + 1 = (last.extend token).stop + 1 := by
            simp only [extend]
            omega
          simp only [Option.elim, Merging.addToken_same, place]
          rw [continued_some]
          exact afterSome done (last.extend token)
        · simp only [Option.elim, Merging.addToken_other done last _ token same]
          rw [continued_of_ne token rest (by simpa using same)]
          exact (begun (done ++ [last]) (last.stop + 1) value).trans (List.append_cons ..).symm

theorem merge_eq_mergeFrom (tagged : List (Text × Option Denotation)) : merge tagged = mergeFrom 0 tagged :=
  (spans_foldl tagged).1 [] 0

theorem extendFirst_append {start : Nat} {token : Text} {spans others : List TaggedSpan}
    (nonempty : spans ≠ []) :
    extendFirst start token (spans ++ others) = extendFirst start token spans ++ others := by
  obtain ⟨first, rest, rfl⟩ := List.exists_cons_of_ne_nil nonempty
  rfl

theorem extendFirst_moveBy (start n : Nat) (token : Text) (spans : List TaggedSpan) :
    extendFirst (start + n) token (spans.map (·.moveBy n)) =
      (extendFirst start token spans).map (·.moveBy n) := by
  cases spans with
  | nil => rfl
  | cons first rest => rfl

theorem mergeFrom_add (place n : Nat) (tagged : List (Text × Option Denotation)) :
    mergeFrom (place + n) tagged = (mergeFrom place tagged).map (·.moveBy n) := by
  induction tagged generalizing place with
  | nil => rfl
  | cons head rest ih =>
    obtain ⟨token, value⟩ := head
    have next : place + n + token.length + 1 = place + token.length + 1 + n := by omega
    cases value with
    | none => rw [mergeFrom, mergeFrom, next, ih]
    | some value =>
      have moved : ofToken (place + n) token value = (ofToken place token value).moveBy n := by
        simp only [ofToken, moveBy, Nat.add_right_comm]
      simp only [mergeFrom, next, ih, moved]
      split
      · exact extendFirst_moveBy place n token _
      · rfl

theorem mergeFrom_ne_nil (place : Nat) {tagged : List (Text × Option Denotation)} {value : Denotation}
    (first : tagged.head?.any (fun next => next.2 = some value) = true) : mergeFrom place tagged ≠ [] := by
  induction tagged generalizing place with
  | nil => cases first
  | cons head rest ih =>
    obtain ⟨token, other⟩ := head
    obtain rfl : other = some value := by simpa using first
    rw [mergeFrom]
    split
    next same =>
      obtain ⟨later, spans, merged⟩ :=
        List.exists_cons_of_ne_nil (ih (place + token.length + 1) same)
      rw [merged]
      exact List.cons_ne_nil _ _
    next => exact List.cons_ne_nil _ _

/-- The number of characters of tokens with a space after each. -/
def reach (tokens : List Text) : Nat := tokens.flatten.length + tokens.length

@[simp] theorem reach_cons (token : Text) (tokens : List Text) :
    reach (token :: tokens) = token.length + 1 + reach tokens := by
  simp only [reach, List.flatten_cons, List.length_append, List.length_cons]
  omega

theorem mergeFrom_append_none (place : Nat) (tagged others : List (Text × Option Denotation))
    (token : Text) :
    mergeFrom place (tagged ++ (token, none) :: others) =
      mergeFrom place tagged ++ mergeFrom (place + reach (tagged.map (·.1)) + token.length + 1) others := by
  induction tagged generalizing place with
  | nil => rfl
  | cons head rest ih =>
    obtain ⟨first, value⟩ := head
    have passed : place + reach (((first, value) :: rest).map (·.1)) =
        place + first.length + 1 + reach (rest.map (·.1)) := by
      simp only [List.map_cons, reach_cons]
      omega
    rw [List.cons_append, passed]
    cases value with
    | none => rw [mergeFrom, mergeFrom, ih]
    | some value =>
      have next : (rest ++ (token, none) :: others).head?.any (fun next => next.2 = some value) =
          rest.head?.any fun next => next.2 = some value := by
        cases rest <;> rfl
      simp only [mergeFrom, next, ih]
      split
      next same => exact extendFirst_append (mergeFrom_ne_nil _ same)
      next => rfl

theorem reach_tokens (t : Text) : reach t.tokens = t.length + 1 := by
  induction t with
  | nil => rfl
  | cons c t ih =>
    rw [Text.tokens]
    split
    · rw [reach_cons, ih, List.length_cons, List.length_nil]
      omega
    · obtain ⟨first, rest, cut⟩ := List.exists_cons_of_ne_nil (Text.tokens_ne_nil t)
      rw [cut, reach_cons] at ih
      simp only [cut, reach_cons, List.length_cons]
      omega

theorem framedLength_tokens (t : Text) : framedLength t.tokens = t.length := by
  have reached : t.tokens.flatten.length + t.tokens.length = t.length + 1 := reach_tokens t
  unfold framedLength
  omega

end TaggedSpan

/-- Tagging never fails: the tokens are the text cut at single spaces, and each of them has a tag. -/
theorem findAll_eq_ok (resolver : Resolver) (policy : OverlapPolicy) (t : Text) :
    findAll resolver policy t =
      .ok (TaggedSpan.mergeFrom 0 (t.tokens.zip (tagSentence resolver policy t).values)) := by
  simp only [findAll, TaggedSpan.ofTagging, TaggedSpan.framedLength_tokens,
    Tagging.length_values_tagSentence, ne_eq, not_true_eq_false, if_false, TaggedSpan.merge_eq_mergeFrom]

end TurkishDates
