import TurkishDates.Text.TurkishCase

/-!
Texts that keep their words apart by single spaces. Whoever walks over a text knows at each place
whether a word or a gap lies right before it, and notices a space that follows a gap. A text is tight
when the walk comes from a gap to the end of a word and meets no such space.
-/

namespace TurkishDates

inductive Spot where
  | gap
  | word
  | torn
deriving DecidableEq, Repr

namespace Spot

def step : Spot → Char → Spot
  | .gap, c => if c = ' ' then .torn else .word
  | .word, c => if c = ' ' then .gap else .word
  | .torn, _ => .torn

def after (spot : Spot) (t : Text) : Spot := t.foldl step spot

@[simp] theorem after_nil (spot : Spot) : spot.after [] = spot := rfl

@[simp] theorem after_cons (spot : Spot) (c : Char) (t : Text) :
    spot.after (c :: t) = (spot.step c).after t := rfl

@[simp] theorem after_append (spot : Spot) (s t : Text) :
    spot.after (s ++ t) = (spot.after s).after t := List.foldl_append

@[simp] theorem torn_after (t : Text) : torn.after t = .torn := by
  induction t with
  | nil => rfl
  | cons c t ih => exact ih

theorem ne_torn_of_after {spot : Spot} {t : Text} (arrived : spot.after t = .word) : spot ≠ .torn := by
  rintro rfl
  rw [torn_after] at arrived
  cases arrived

theorem step_of_ne {spot : Spot} {c : Char} (letter : c ≠ ' ') (whole : spot ≠ .torn) :
    spot.step c = .word := by
  cases spot with
  | gap => exact if_neg letter
  | word => exact if_neg letter
  | torn => exact absurd rfl whole

end Spot

namespace Text

/-- No space stands at either end of the text or next to another space, and some word stands in it. -/
def IsTight (t : Text) : Prop := Spot.gap.after t = .word

instance (t : Text) : Decidable (IsTight t) := inferInstanceAs (Decidable (Spot.gap.after t = .word))

theorem not_isTight_nil : ¬IsTight [] := by
  intro tight
  cases tight

theorem IsTight.word_after {t : Text} (tight : IsTight t) : Spot.word.after t = .word := by
  cases t with
  | nil => exact (not_isTight_nil tight).elim
  | cons c t =>
    unfold IsTight at tight
    rw [Spot.after_cons] at tight ⊢
    have letter : c ≠ ' ' := by
      rintro rfl
      exact Spot.ne_torn_of_after tight rfl
    rw [Spot.step_of_ne letter (by decide)] at tight ⊢
    exact tight

theorem IsTight.after_eq {s t : Text} (tight : IsTight s) (tight' : IsTight t) (spot : Spot) :
    spot.after s = spot.after t := by
  cases spot with
  | gap => exact Eq.trans tight (Eq.symm tight')
  | word => rw [tight.word_after, tight'.word_after]
  | torn => rw [Spot.torn_after, Spot.torn_after]

theorem isTight_of_space_notMem {t : Text} (nonempty : t ≠ []) (plain : ' ' ∉ t) : IsTight t := by
  have stays {spot : Spot} {c : Char} (member : c ∈ t) (whole : spot ≠ .torn) : spot.step c = .word :=
    Spot.step_of_ne (fun space => plain (space ▸ member)) whole
  obtain ⟨c, rest, rfl⟩ := List.exists_cons_of_ne_nil nonempty
  unfold IsTight
  rw [Spot.after_cons, stays List.mem_cons_self (by decide)]
  exact List.foldlRecOn rest Spot.step (motive := (· = Spot.word)) rfl fun spot same d member => by
    rw [same]
    exact stays (List.mem_cons_of_mem c member) (by decide)

theorem isTight_append_space {s t : Text} : IsTight (s ++ ' ' :: t) ↔ IsTight s ∧ IsTight t := by
  unfold IsTight
  rw [Spot.after_append, Spot.after_cons]
  cases Spot.gap.after s <;> simp [Spot.step]

theorem isTight_unwords {words : List Text} (nonempty : words ≠ []) :
    IsTight (unwords words) ↔ ∀ word ∈ words, IsTight word := by
  induction words with
  | nil => exact absurd rfl nonempty
  | cons word words ih =>
    cases words with
    | nil => simp [unwords]
    | cons next words =>
      rw [unwords_cons word (List.cons_ne_nil next words), isTight_append_space,
        ih (List.cons_ne_nil next words), List.forall_mem_cons (a := word)]

/-- Writing a text in small letters does not close a gap. The induction lets the text be at a word
already where its small letters are still at a gap. -/
theorem after_eq_word_of_lower {t : Text} {small large : Spot}
    (ahead : large = small ∨ large = .word) (arrived : small.after (lower t) = .word) :
    large.after t = .word := by
  induction t generalizing small large with
  | nil =>
    rcases ahead with rfl | rfl
    · exact arrived
    · rfl
  | cons c t ih =>
    have whole : large ≠ .torn := by
      rcases ahead with rfl | rfl
      · exact Spot.ne_torn_of_after arrived
      · decide
    rw [lower_cons, Spot.after_append] at arrived
    rw [Spot.after_cons]
    by_cases space : c = ' '
    · have kept : lowerChar c = [' '] := by rw [space]; decide
      rw [kept, Spot.after_cons, Spot.after_nil] at arrived
      have atWord : small = .word := by
        cases small with
        | gap => exact absurd rfl (Spot.ne_torn_of_after arrived)
        | word => rfl
        | torn => exact absurd rfl (Spot.ne_torn_of_after arrived)
      have same : large = small := ahead.elim id fun atWord' => atWord'.trans atWord.symm
      rw [space, same]
      exact ih (.inl rfl) arrived
    · exact ih (.inr (Spot.step_of_ne space whole)) arrived

theorem IsTight.of_lower {t : Text} (tight : IsTight (lower t)) : IsTight t :=
  after_eq_word_of_lower (.inl rfl) tight

theorem tokens_append_space (s t : Text) : tokens (s ++ ' ' :: t) = tokens s ++ tokens t := by
  induction s with
  | nil => simp [tokens]
  | cons c s ih =>
    by_cases space : c = ' '
    · simp [tokens, space, ih]
    · obtain ⟨first, rest, cut⟩ := List.exists_cons_of_ne_nil (tokens_ne_nil s)
      simp [tokens, space, ih, cut]

theorem tokens_of_space_notMem {t : Text} (plain : ' ' ∉ t) : tokens t = [t] := by
  induction t with
  | nil => rfl
  | cons c t ih =>
    obtain ⟨here, later⟩ := not_or.mp (mt List.mem_cons.mpr plain)
    rw [tokens, if_neg (Ne.symm here), ih later]

theorem tokens_unwords {words : List Text} (nonempty : words ≠ []) (plain : ∀ word ∈ words, ' ' ∉ word) :
    tokens (unwords words) = words := by
  induction words with
  | nil => exact absurd rfl nonempty
  | cons word words ih =>
    obtain ⟨here, later⟩ := List.forall_mem_cons.mp plain
    cases words with
    | nil => exact tokens_of_space_notMem here
    | cons next words =>
      have others := List.cons_ne_nil next words
      rw [unwords_cons word others, tokens_append_space, tokens_of_space_notMem here, ih others later]
      rfl

theorem tokens_map {change : Char → Char} (keeps : ∀ c, change c = ' ' ↔ c = ' ') (t : Text) :
    tokens (t.map change) = (tokens t).map (List.map change) := by
  induction t with
  | nil => rfl
  | cons c t ih =>
    rw [List.map_cons, tokens, tokens, ih]
    by_cases space : c = ' '
    · rw [if_pos space, if_pos ((keeps c).mpr space)]
      rfl
    · obtain ⟨first, rest, cut⟩ := List.exists_cons_of_ne_nil (tokens_ne_nil t)
      rw [if_neg space, if_neg fun same => space ((keeps c).mp same), cut]
      rfl

end Text

end TurkishDates
