import TurkishDates.Proofs.Numeral.Chunks
import TurkishDates.Proofs.Numeral.Places
import TurkishDates.Proofs.Numeral.Spelling
import TurkishDates.Resolution.Normalize

/-!
Numerals written in words. The search reads letters in either case, and so takes the long `s` for a small one; the
reader of their value knows no word with a long `s`. The two agree on the numerals that have none. Of the others the
reader counts, in each group of words that touch, those before the first one with a long `s`.
-/

namespace TurkishDates

theorem foldLetter_of_small {c : Char} (small : lowerChar c = [c]) (short : c ≠ '\u017f') : foldLetter c = c := by
  rw [foldLetter, if_neg short]
  unfold lowerChar at small
  split at small
  next latin => exact absurd (latin ▸ small) (by decide)
  next =>
    split at small
    next dotted => exact absurd (dotted ▸ small) (by decide)
    next other =>
      rw [smallForm, if_neg other] at small
      exact (List.cons.inj small).1

namespace Text

theorem unwords_cons_eq (word : Text) (words : List Text) :
    unwords (word :: words) = word ++ words.flatMap (' ' :: ·) := by
  induction words generalizing word with
  | nil => exact (List.append_nil word).symm
  | cons next words ih => rw [unwords, ih, List.flatMap_cons, List.cons_append]

theorem mem_unwords_of_mem {words : List Text} {word : Text} (member : word ∈ words) {c : Char} (inside : c ∈ word) :
    c ∈ unwords words := by
  cases words with
  | nil => cases member
  | cons first words =>
    rw [unwords_cons_eq, List.mem_append]
    rcases List.mem_cons.mp member with rfl | later
    · exact .inl inside
    · exact .inr (List.mem_flatMap.mpr ⟨word, later, List.mem_cons_of_mem ' ' inside⟩)

end Text

namespace Numeral

open Arithmetic

/-- Whether a text is written in groups of number words, with a space between groups and none between the words of a
group. The words may have capital letters, and the long `s` for a small one. -/
structure IsWording (groups : List (List Text)) (t : Text) : Prop where
  text : t = Text.unwords (groups.map List.flatten)
  nonempty : groups ≠ [] ∧ ∀ group ∈ groups, group ≠ []
  words : ∀ group ∈ groups, ∀ word ∈ group, IsWord word

/-- The values of the words of a group, up to the first one that is none of the number words as it stands. -/
def counted : List Text → List Int
  | [] => []
  | word :: words =>
      match numberWord? word with
      | some n => n :: counted words
      | none => []

section Search

open Shape

theorem exists_chunks_of_reads {x rest : Text} (reads : body.Reads x rest) :
    ∃ chunks : List Text, chunks ≠ [] ∧ (∀ chunk ∈ chunks, IsNumeric chunk) ∧ x = Text.unwords chunks := by
  obtain ⟨first, later, rfl, readsFirst, readsLater⟩ := reads_append.mp reads
  have numeric : IsNumeric first := reads_parts.mp readsFirst
  have isGroup (y after : Text) : group.Reads y after ↔ ∃ chunk, y = ' ' :: chunk ∧ IsNumeric chunk := by
    constructor
    · rintro ⟨_, chunk, rfl, rfl, inside⟩
      exact ⟨chunk, rfl, reads_parts.mp inside⟩
    · rintro ⟨chunk, rfl, inside⟩
      exact ⟨[' '], chunk, rfl, rfl, reads_parts.mpr inside⟩
  rcases reads_opt.mp readsLater with rounds | rfl
  · obtain ⟨pieces, -, all, rfl⟩ := (rounds_iff isGroup).mp rounds
    choose! chunk spaced numericChunk using all
    refine ⟨first :: pieces.map chunk, List.cons_ne_nil _ _, List.forall_mem_cons.mpr ⟨numeric, ?_⟩, ?_⟩
    · exact List.forall_mem_map.mpr numericChunk
    · rw [Text.unwords_cons_eq, List.flatMap_map, ← List.flatMap_congr spaced, List.flatMap_id']
  · exact ⟨[first], List.cons_ne_nil _ _, by simpa using numeric, List.append_nil first⟩

variable {t : Text} {n : Numeral}

theorem exists_isWording (found : n ∈ findAll t) (noDigit : ∀ c ∈ n.text, isDigit c = false) :
    ∃ groups, IsWording groups n.text := by
  obtain ⟨front, back, -, -, reads⟩ := standsIn_of_mem_findAll found
  obtain ⟨chunks, nonempty, numeric, spelled⟩ := exists_chunks_of_reads reads
  choose! words wordsNonempty isPart flat using numeric
  have chunked : (chunks.map words).map List.flatten = chunks := by
    rw [List.map_map]
    exact (List.map_congr_left fun chunk member => (flat chunk member).symm).trans (List.map_id' chunks)
  refine ⟨chunks.map words, ?_, ⟨by simpa using nonempty, List.forall_mem_map.mpr wordsNonempty⟩, ?_⟩
  · rw [chunked, spelled]
  · refine List.forall_mem_map.mpr fun chunk member word inside => ?_
    by_contra noWord
    obtain ⟨c, here, digit⟩ := (isPart chunk member word inside).exists_digit noWord
    have inChunk : c ∈ chunk := flat chunk member ▸ List.mem_flatten_of_mem inside here
    have inText : c ∈ n.text := spelled ▸ Text.mem_unwords_of_mem member inChunk
    rw [noDigit c inText] at digit
    cases digit

end Search

section Reader

variable {word letters rest : Text} {c : Char}

theorem clear_letters (member : c ∈ '\u017f' :: wordLetters) :
    (isAlphabetic c = true ∧ isDigit c = false ∧ c ≠ '-') ∧ (c ≠ '.' ∧ c ≠ ',') := by
  have checked : ('\u017f' :: wordLetters).all fun c =>
      (isAlphabetic c && !isDigit c && c != '-') && (c != '.' && c != ',') := by decide
  simpa [and_assoc] using List.all_eq_true.mp checked c member

theorem IsWord.mem_letters (isWord : IsWord word) (small : Text.IsSmall word) :
    ∀ c ∈ word, c ∈ '\u017f' :: wordLetters := by
  intro c member
  by_cases long : c = '\u017f'
  · exact long ▸ List.mem_cons_self
  · exact List.mem_cons_of_mem _ (foldLetter_of_small (small c member) long ▸ isWord.foldLetter_mem member)

/-- A number word in small letters is in the table unless it has a long `s`. -/
theorem IsWord.known_iff (isWord : IsWord word) (small : Text.IsSmall word) :
    (numberWord? word).isSome = true ↔ '\u017f' ∉ word := by
  have listed : ∀ entry ∈ numberWords, (numberWord? entry.1).isSome = true := by decide
  have noLong : '\u017f' ∉ wordLetters := by decide
  constructor
  · intro known long
    obtain ⟨n, known⟩ := Option.isSome_iff_exists.mp known
    exact noLong (mem_wordLetters_of_known known long)
  · intro short
    obtain ⟨entry, member, same⟩ := List.mem_map.mp isWord
    have folded : word.map foldLetter = word := by
      refine (List.map_congr_left fun c inside => ?_).trans (List.map_id' word)
      exact foldLetter_of_small (small c inside) fun long => short (long ▸ inside)
    rw [← folded, ← same]
    exact listed entry member

theorem numberWord?_of_long_s (long : '\u017f' ∈ word) : numberWord? word = none := by
  have noLong : '\u017f' ∉ wordLetters := by decide
  cases known : numberWord? word with
  | none => rfl
  | some n => exact absurd (mem_wordLetters_of_known known long) noLong

theorem partsAfter_lost {beginning : Text} (long : '\u017f' ∈ beginning)
    (small : ∀ c ∈ letters, c ∈ '\u017f' :: wordLetters) (ends : endsChunk rest = true) :
    partsAfter [] beginning (letters ++ rest) = parts rest := by
  induction letters generalizing beginning with
  | nil =>
    cases rest with
    | nil => rfl
    | cons c rest =>
      have separators : " ;:".toList.all fun c => !isAlphabetic c && (!isDigit c && c != '-') := by decide
      have here := List.all_eq_true.mp separators c (by simpa [isSeparator] using ends)
      simp only [Bool.and_eq_true, Bool.not_eq_true', bne_iff_ne] at here
      rw [parts_other here.2.1 here.2.2 here.1, List.nil_append, partsAfter_other here]
  | cons c letters ih =>
    obtain ⟨here, later⟩ := List.forall_mem_cons.mp small
    have longer : '\u017f' ∈ beginning ++ [c] := List.mem_append_left [c] long
    rw [List.cons_append, partsAfter_none (clear_letters here).1 (numberWord?_of_long_s longer), ih longer later]

/-- Nothing is read in a word with a long `s`, nor behind it before the group ends. The induction goes along the
letters before the long `s`: no number word ends with one of them. -/
theorem partsAfter_long_s {value : Int} {beginning : Text}
    (complete : completes value beginning (word.map foldLetter) = true) (long : '\u017f' ∈ word)
    (small : ∀ c ∈ word ++ letters, c ∈ '\u017f' :: wordLetters) (ends : endsChunk rest = true) :
    partsAfter [] beginning (word ++ (letters ++ rest)) = parts rest := by
  induction word generalizing beginning with
  | nil => cases long
  | cons c word ih =>
    obtain ⟨here, later⟩ := List.forall_mem_cons.mp small
    have clear := (clear_letters here).1
    rw [List.cons_append]
    by_cases isLong : c = '\u017f'
    · have begun : '\u017f' ∈ beginning ++ [c] := List.mem_append_right _ (isLong ▸ List.mem_cons_self)
      rw [partsAfter_none clear (numberWord?_of_long_s begun), ← List.append_assoc]
      exact partsAfter_lost begun later ends
    · have behind : '\u017f' ∈ word := (List.mem_cons.mp long).resolve_left (Ne.symm isLong)
      have letter : c ∈ wordLetters := (List.mem_cons.mp here).resolve_left isLong
      have folded : foldLetter c = c := foldLetter_of_mem_caseVariants letter (mem_caseVariants_self letter).2
      rw [List.map_cons, folded, completes, Bool.and_eq_true] at complete
      cases known : numberWord? (beginning ++ [c]) with
      | none =>
        rw [known] at complete
        rw [partsAfter_none clear known, ih complete.2 behind later]
      | some n =>
        rw [known] at complete
        simp only [Bool.and_eq_true, List.isEmpty_iff, List.map_eq_nil_iff] at complete
        rw [complete.2.1] at behind
        cases behind

theorem parts_long_s (isWord : IsWord word) (long : '\u017f' ∈ word)
    (small : ∀ c ∈ word ++ letters, c ∈ '\u017f' :: wordLetters) (ends : endsChunk rest = true) :
    parts (word ++ (letters ++ rest)) = parts rest := by
  obtain ⟨entry, member, same⟩ := List.mem_map.mp isWord
  exact partsAfter_long_s (same ▸ completes_numberWords entry member) long small ends

theorem parts_group {group : List Text} (words : ∀ word ∈ group, IsWord word) (small : Text.IsSmall group.flatten)
    (ends : endsChunk rest = true) : parts (group.flatten ++ rest) = counted group ++ parts rest := by
  induction group with
  | nil => rfl
  | cons word group ih =>
    obtain ⟨isWord, later⟩ := List.forall_mem_cons.mp words
    obtain ⟨smallWord, smallLater⟩ := List.forall_mem_append.mp small
    rw [List.flatten_cons, List.append_assoc, counted]
    cases known : numberWord? word with
    | some n => rw [parts_word known, ih later smallLater, List.cons_append]
    | none =>
      have long : '\u017f' ∈ word := by
        by_contra short
        have isKnown := (isWord.known_iff smallWord).mpr short
        rw [known] at isKnown
        cases isKnown
      refine parts_long_s isWord long (List.forall_mem_append.mpr ⟨isWord.mem_letters smallWord, ?_⟩) ends
      intro c member
      obtain ⟨other, inside, here⟩ := List.mem_flatten.mp member
      exact (later other inside).mem_letters (fun d letter => smallLater d (List.mem_flatten_of_mem inside letter)) c here

theorem parts_unwords_groups {groups : List (List Text)} (words : ∀ group ∈ groups, ∀ word ∈ group, IsWord word)
    (small : ∀ group ∈ groups, Text.IsSmall group.flatten) :
    parts (Text.unwords (groups.map List.flatten)) = groups.flatMap counted := by
  induction groups with
  | nil => rfl
  | cons group groups ih =>
    obtain ⟨here, later⟩ := List.forall_mem_cons.mp words
    obtain ⟨smallHere, smallLater⟩ := List.forall_mem_cons.mp small
    rw [List.flatMap_cons]
    cases groups with
    | nil =>
      have alone : parts (group.flatten ++ []) = counted group ++ parts [] := parts_group here smallHere rfl
      rwa [List.append_nil] at alone
    | cons next groups =>
      have others : (next :: groups).map List.flatten ≠ [] := List.cons_ne_nil _ _
      rw [List.map_cons, Text.unwords_cons _ others, parts_group here smallHere rfl, parts_space,
        ih later smallLater]

end Reader

section Wording

variable {groups : List (List Text)} {t : Text}

theorem IsWording.isSmall_group (wording : IsWording groups t) (small : t.IsSmall) {group : List Text}
    (member : group ∈ groups) : Text.IsSmall group.flatten := fun c inside =>
  small c (wording.text ▸ Text.mem_unwords_of_mem (List.mem_map_of_mem member) inside)

theorem IsWording.mem_iff (wording : IsWording groups t) {c : Char} (noSpace : c ≠ ' ') :
    c ∈ t ↔ ∃ word ∈ groups.flatten, c ∈ word := by
  constructor
  · intro member
    rw [wording.text] at member
    obtain ⟨chunk, inside, here⟩ := (mem_unwords member).resolve_left noSpace
    obtain ⟨group, known, rfl⟩ := List.mem_map.mp inside
    obtain ⟨word, inGroup, here⟩ := List.mem_flatten.mp here
    exact ⟨word, List.mem_flatten_of_mem known inGroup, here⟩
  · rintro ⟨word, inside, here⟩
    obtain ⟨group, member, inGroup⟩ := List.mem_flatten.mp inside
    rw [wording.text]
    exact Text.mem_unwords_of_mem (List.mem_map_of_mem member) (List.mem_flatten_of_mem inGroup here)

theorem IsWording.isWord_and_isSmall (wording : IsWording groups t) (small : t.IsSmall) {word : Text}
    (inside : word ∈ groups.flatten) : IsWord word ∧ Text.IsSmall word := by
  obtain ⟨group, member, inGroup⟩ := List.mem_flatten.mp inside
  exact ⟨wording.words group member word inGroup, fun c here =>
    wording.isSmall_group small member c (List.mem_flatten_of_mem inGroup here)⟩

theorem IsWording.known_iff (wording : IsWording groups t) (small : t.IsSmall) :
    (∀ word ∈ groups.flatten, (numberWord? word).isSome = true) ↔ '\u017f' ∉ t := by
  have each (word : Text) (inside : word ∈ groups.flatten) :
      (numberWord? word).isSome = true ↔ '\u017f' ∉ word := by
    obtain ⟨isWord, smallWord⟩ := wording.isWord_and_isSmall small inside
    exact isWord.known_iff smallWord
  rw [wording.mem_iff (by decide), not_exists]
  exact forall_congr' fun word => (forall_congr' (each word)).trans not_and.symm

theorem map_counted_iff : groups.flatten.map numberWord? = (groups.flatMap counted).map some ↔
    ∀ word ∈ groups.flatten, (numberWord? word).isSome = true := by
  constructor
  · intro same word inside
    have here := List.mem_map_of_mem (f := numberWord?) inside
    rw [same] at here
    obtain ⟨n, -, known⟩ := List.mem_map.mp here
    rw [← known]
    rfl
  · intro known
    have all (group : List Text) (each : ∀ word ∈ group, (numberWord? word).isSome = true) :
        group.map numberWord? = (counted group).map some := by
      induction group with
      | nil => rfl
      | cons word group ih =>
        obtain ⟨here, later⟩ := List.forall_mem_cons.mp each
        obtain ⟨n, isKnown⟩ := Option.isSome_iff_exists.mp here
        rw [List.map_cons, ih later, counted, isKnown, List.map_cons]
    rw [List.map_flatten, List.map_flatMap, ← List.flatMap_def]
    exact List.flatMap_congr fun group member =>
      all group fun word inside => known word (List.mem_flatten_of_mem member inside)

theorem value_of_isWording {α : Type} [Arithmetic α] (wording : IsWording groups t) (small : t.IsSmall) :
    (value t : α) = placeValue (groups.flatMap counted) := by
  have unmarked : ∀ c ∈ t, c ≠ '.' ∧ c ≠ ',' := by
    intro c member
    by_cases space : c = ' '
    · exact space ▸ by decide
    · obtain ⟨word, inside, here⟩ := (wording.mem_iff space).mp member
      obtain ⟨isWord, smallWord⟩ := wording.isWord_and_isSmall small inside
      exact (clear_letters (isWord.mem_letters smallWord c here)).2
  rw [value_of_unmarked small.lower_eq unmarked, wording.text,
    parts_unwords_groups wording.words fun group member => wording.isSmall_group small member]

end Wording

theorem not_isPlainDigits {t : Text} (noDigit : ∀ c ∈ t, isDigit c = false) : isPlainDigits t = false := by
  by_contra plain
  simp only [Bool.not_eq_false, isPlainDigits, Bool.and_eq_true, Bool.not_eq_true', List.isEmpty_eq_false_iff,
    List.all_eq_true] at plain
  obtain ⟨c, member, digit⟩ := IsDigits.exists_digit plain
  rw [noDigit c (List.mem_of_mem_filter member)] at digit
  cases digit

/-- A numeral without digits, found in small letters, consists of number words where the long `s` may stand for a small
one. The value and the digits it is replaced by come from the words that count. These are all of them, each with its
value, exactly when no long `s` stands in the numeral. -/
theorem word_numerals_counted_iff {t : Text} {n : Numeral} (found : n ∈ findAll t.lower)
    (noDigit : ∀ c ∈ n.text, isDigit c = false) :
    (∃ groups, IsWording groups n.text) ∧ ∀ groups, IsWording groups n.text →
      (groups.flatten.map numberWord? = (groups.flatMap counted).map some ↔ '\u017f' ∉ n.text) ∧
      (∀ (α : Type) [Arithmetic α], (value n.text : α) = placeValue (groups.flatMap counted)) ∧
      ∀ s, n.writeOut s =
        n.splice (decimalText (Binary.ofFloat (placeValue (groups.flatMap counted))).wholeWord) s := by
  have small : n.text.IsSmall := by
    obtain ⟨front, back, split, -⟩ := standsIn_of_mem_findAll found
    intro c member
    refine Text.isSmall_lower t c ?_
    rw [split]
    exact List.mem_append_left back (List.mem_append_right front member)
  refine ⟨exists_isWording found noDigit, fun groups wording => ⟨?_, ?_, fun s => ?_⟩⟩
  · exact map_counted_iff.trans (wording.known_iff small)
  · exact fun α _ => value_of_isWording wording small
  · rw [writeOut, not_isPlainDigits noDigit, if_neg Bool.false_ne_true, wholeValue, numeralValue,
      value_of_isWording wording small]

/-- A long `s` loses the word it stands in: eight hundred is read as a hundred. -/
theorem word_numerals_counted_long_s :
    let n : Numeral := ⟨0, "ſekiz yüz".toList⟩
    (n ∈ findAll (Text.lower "ſekiz yüz".toList) ∧ ∀ c ∈ n.text, isDigit c = false) ∧
      IsWording [["ſekiz".toList], ["yüz".toList]] n.text ∧
      [numberWord? "ſekiz".toList, numberWord? "yüz".toList] ≠ [some 100] ∧
      (value n.text : Int) = 100 ∧
      ∀ s, n.writeOut s = n.splice (decimalText (Binary.ofFloat (placeValue [100])).wholeWord) s := by
  intro n
  have found : n ∈ findAll (Text.lower "ſekiz yüz".toList) := by decide +kernel
  have letters : n.text.all (fun c => !isDigit c) = true := by decide
  have noDigit : ∀ c ∈ n.text, isDigit c = false := fun c member => by
    simpa using List.all_eq_true.mp letters c member
  have wording : IsWording [["ſekiz".toList], ["yüz".toList]] n.text := ⟨rfl, by decide, by decide⟩
  have hundred : (placeValue [100] : Int) = 100 := by decide +kernel
  obtain ⟨exact, value, written⟩ := (word_numerals_counted_iff found noDigit).2 _ wording
  have long : '\u017f' ∈ n.text := by decide
  exact ⟨⟨found, noDigit⟩, wording, fun all => exact.mp all long, (value Int).trans hundred, written⟩

end Numeral

end TurkishDates
