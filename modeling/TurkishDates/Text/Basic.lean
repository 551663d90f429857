/-!
Text as a list of characters, so that every offset counts characters. Sentences are cut at single
spaces and put together again with single spaces.
-/

namespace TurkishDates

abbrev Text := List Char

namespace Text

/-- The pieces between single spaces; two spaces in a row enclose an empty piece. -/
def tokens : Text → List Text
  | [] => [[]]
  | c :: t =>
      if c = ' ' then [] :: tokens t
      else match tokens t with
        | [] => [[c]]
        | first :: rest => (c :: first) :: rest

def unwords : List Text → Text
  | [] => []
  | [word] => word
  | word :: next :: rest => word ++ ' ' :: unwords (next :: rest)

def occurs (part : Text) : Text → Bool
  | [] => part.isEmpty
  | c :: t => part.isPrefixOf (c :: t) || occurs part t

theorem tokens_ne_nil (t : Text) : tokens t ≠ [] := by
  cases t with
  | nil => simp [tokens]
  | cons c r =>
      simp only [tokens]
      split
      · simp
      · split <;> simp

theorem unwords_cons (word : Text) {rest : List Text} (h : rest ≠ []) :
    unwords (word :: rest) = word ++ ' ' :: unwords rest := by
  cases rest with
  | nil => exact absurd rfl h
  | cons next rest => rfl

/-- Cutting at single spaces loses nothing. -/
theorem unwords_tokens (t : Text) : unwords (tokens t) = t := by
  induction t with
  | nil => rfl
  | cons c r ih =>
      simp only [tokens]
      by_cases h : c = ' '
      · rw [if_pos h, unwords_cons [] (tokens_ne_nil r), ih, h]
        rfl
      · rw [if_neg h]
        cases hr : tokens r with
        | nil => exact absurd hr (tokens_ne_nil r)
        | cons first rest =>
            rw [hr] at ih
            cases rest with
            | nil => simpa [unwords] using ih
            | cons next rest => simpa [unwords] using ih

end Text

end TurkishDates
