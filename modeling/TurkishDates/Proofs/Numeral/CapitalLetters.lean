import Mathlib.Data.Bool.AllAny
import TurkishDates.Proofs.Numeral.Scanner
import TurkishDates.Proofs.Numeral.WordNumerals
import TurkishDates.Proofs.Text.Casing
import TurkishDates.Proofs.Text.Spacing

/-!
Numerals in capital letters. The search goes by the general pairs of letters, in which `I` goes with `i`, while Turkish
has `İ` for the capital of `i`, and `I` for that of `ı`. In capitals the search therefore takes an `ı` for an `i` and
does not know an `i`, so no chunk with either of them is numeric both in small letters and in capitals. All other
numerals are found at the same places, with the same values.
-/

namespace TurkishDates

namespace Text

/-- The letters of the two pairs that Turkish has for the general `I` and `i`. -/
def iLetters : List Char := "ıiIİ".toList

def LacksI (t : Text) : Prop := ∀ c ∈ t, c ∉ iLetters

theorem isMadeOf_map_iff {change : Char → Char} {holds : Text → Prop} {t : Text} :
    IsMadeOf holds (t.map change) ↔ IsMadeOf (fun piece => holds (piece.map change)) t := by
  constructor
  · rintro ⟨pieces, nonempty, all, same⟩
    induction pieces generalizing t with
    | nil => exact absurd rfl nonempty
    | cons piece pieces ih =>
      obtain ⟨here, later⟩ := List.forall_mem_cons.mp all
      obtain ⟨first, rest, rfl, rfl, others⟩ := List.map_eq_append_iff.mp same
      cases pieces with
      | nil =>
        rw [List.flatten_nil, List.map_eq_nil_iff] at others
        exact ⟨[first], List.cons_ne_nil _ _, by simpa using here, by simp [others]⟩
      | cons next pieces =>
        obtain ⟨cut, -, holdsCut, rfl⟩ := ih (List.cons_ne_nil next pieces) later others
        exact ⟨first :: cut, List.cons_ne_nil _ _, List.forall_mem_cons.mpr ⟨here, holdsCut⟩, rfl⟩
  · rintro ⟨pieces, nonempty, all, rfl⟩
    exact ⟨pieces.map (List.map change), by simpa using nonempty, List.forall_mem_map.mpr all, List.map_flatten⟩

theorem isMadeOf_congr {holds holds' : Text → Prop} {t : Text}
    (same : ∀ piece : Text, (∀ c ∈ piece, c ∈ t) → (holds piece ↔ holds' piece)) :
    IsMadeOf holds t ↔ IsMadeOf holds' t := by
  refine exists_congr fun pieces => and_congr_right fun _ => and_congr_left ?_
  rintro rfl
  exact forall₂_congr fun piece member => same piece fun c inside => List.mem_flatten_of_mem member inside

theorem exists_piece {pieces : List Text} {front back : Text} {c : Char} (same : pieces.flatten = front ++ c :: back) :
    ∃ left right, left ++ c :: right ∈ pieces ∧ left <:+ front ∧ right <+: back := by
  rcases List.flatten_eq_append_iff.mp same with ⟨earlier, later, rfl, rfl, rest⟩ |
    ⟨earlier, left, d, right, later, rfl, rfl, rest⟩
  · obtain ⟨empty, right, others, rfl, -, rfl⟩ := List.flatten_eq_cons_iff.mp rest.symm
    exact ⟨[], right, by simp, List.nil_suffix, List.prefix_append _ _⟩
  · obtain ⟨rfl, rfl⟩ := List.cons.inj rest
    exact ⟨left, right, by simp, List.suffix_append _ _, List.prefix_append _ _⟩

structure Cut where
  left : Text
  letter : Char
  right : Text
deriving DecidableEq

namespace Cut

def map (change : Char → Char) (cut : Cut) : Cut :=
  ⟨cut.left.map change, change cut.letter, cut.right.map change⟩

/-- Whether two texts, cut at the same letter, can be parts of one text there. -/
def Overlaps (cut other : Cut) : Prop :=
  cut.letter = other.letter ∧ (cut.left <:+ other.left ∨ other.left <:+ cut.left) ∧
    (cut.right <+: other.right ∨ other.right <+: cut.right)

instance (cut other : Cut) : Decidable (cut.Overlaps other) := inferInstanceAs (Decidable (_ ∧ _ ∧ _))

end Cut

def cuts : Text → List Cut
  | [] => []
  | c :: t => ⟨[], c, t⟩ :: (cuts t).map fun cut => { cut with left := c :: cut.left }

theorem mem_cuts_iff {t : Text} {cut : Cut} : cut ∈ cuts t ↔ t = cut.left ++ cut.letter :: cut.right := by
  obtain ⟨left, letter, right⟩ := cut
  induction t generalizing left with
  | nil => simp [cuts]
  | cons c t ih =>
    cases left with
    | nil => simp [cuts, eq_comm]
    | cons d left =>
      rw [cuts, List.mem_cons, List.mem_map]
      constructor
      · rintro (same | ⟨cut, member, same⟩)
        · cases same
        · cases same
          exact congrArg (c :: ·) ((ih cut.left).mp member)
      · intro same
        obtain ⟨rfl, rest⟩ := List.cons.inj same
        exact .inr ⟨⟨left, letter, right⟩, (ih left).mpr rest, rfl⟩

end Text

namespace Numeral

open Text Arithmetic

section Letters

variable {c : Char}

theorem capital_letter : ∀ c ∈ smallLetters,
    (isSeparator c = false ∧ isSeparator (capital c) = false) ∧ (c ∉ figures ∧ capital c ∉ figures) ∧
      (capital c ∈ iLetters ↔ c ∈ iLetters) ∧ (c ∉ iLetters → foldLetter (capital c) = foldLetter c) :=
  List.all_iff_forall_prop.mp (by decide +kernel)

@[simp] theorem isSeparator_capital (c : Char) : isSeparator (capital c) = isSeparator c := by
  by_cases letter : c ∈ smallLetters
  · obtain ⟨⟨small, large⟩, -⟩ := capital_letter c letter
    rw [small, large]
  · rw [capital_of_not_letter letter]

theorem capital_eq_space_iff : capital c = ' ' ↔ c = ' ' := by
  by_cases letter : c ∈ smallLetters
  · obtain ⟨⟨small, large⟩, -⟩ := capital_letter c letter
    refine iff_of_false (fun space => ?_) fun space => ?_
    · rw [space] at large
      cases large
    · rw [space] at small
      cases small
  · rw [capital_of_not_letter letter]

theorem capital_of_figure (figure : c ∈ figures ∨ capital c ∈ figures) : capital c = c := by
  refine capital_of_not_letter fun letter => ?_
  obtain ⟨-, ⟨small, large⟩, -⟩ := capital_letter c letter
  exact figure.elim small large

theorem capital_mem_iLetters : capital c ∈ iLetters ↔ c ∈ iLetters := by
  by_cases letter : c ∈ smallLetters
  · exact (capital_letter c letter).2.2.1
  · rw [capital_of_not_letter letter]

theorem foldLetter_capital (other : c ∉ iLetters) : foldLetter (capital c) = foldLetter c := by
  by_cases letter : c ∈ smallLetters
  · exact (capital_letter c letter).2.2.2 other
  · rw [capital_of_not_letter letter]

theorem lacksI_map {t : Text} : LacksI (t.map capital) ↔ LacksI t := by
  simp only [LacksI, List.forall_mem_map, capital_mem_iLetters]

end Letters

section Chunks

variable {x : Text}

theorem isPart_map_iff (lacks : LacksI x) : IsPart (x.map capital) ↔ IsPart x := by
  have word : IsWord (x.map capital) ↔ IsWord x := by
    rw [IsWord, IsWord, List.map_map]
    exact iff_of_eq (congrArg (· ∈ _) (List.map_congr_left fun c member => foldLetter_capital (lacks c member)))
  have kept (figure : ∀ c ∈ x, c ∈ figures ∨ capital c ∈ figures) : x.map capital = x :=
    (List.map_congr_left fun c member => capital_of_figure (figure c member)).trans (List.map_id' x)
  constructor
  · intro part
    rcases part.isWord_or_figures with isWord | inFigures
    · exact .inr (.inr (.inr (.inr (word.mp isWord))))
    · rwa [kept fun c member => .inr (inFigures _ (List.mem_map_of_mem member))] at part
  · intro part
    rcases part.isWord_or_figures with isWord | inFigures
    · exact .inr (.inr (.inr (.inr (word.mpr isWord))))
    · rwa [kept fun c member => .inl (inFigures c member)]

theorem isNumeric_map_iff (lacks : LacksI x) : IsNumeric (x.map capital) ↔ IsNumeric x :=
  isMadeOf_map_iff.trans (isMadeOf_congr fun _ inside => isPart_map_iff fun c member => lacks c (inside c member))

/-- The letter that is found where the capital of a letter stands. -/
def heard (c : Char) : Char := foldLetter (capital c)

/-- Some letter of a number word with an `ı` is in no number word with the neighbours that its capitals have there. -/
theorem dotless_words_clash : ∀ word ∈ numberWords.map Prod.fst, 'ı' ∈ word →
    ∃ cut ∈ cuts word, ∀ other ∈ numberWords.map Prod.fst, ∀ cut' ∈ cuts other, ¬ cut'.Overlaps (cut.map heard) := by
  decide +kernel

theorem dotted_not_mem (raised : IsNumeric (x.map capital)) : 'i' ∉ x := by
  intro member
  obtain ⟨pieces, -, parts, same⟩ := raised
  have here : 'İ' ∈ x.map capital := List.mem_map_of_mem member
  rw [same] at here
  obtain ⟨piece, inside, here⟩ := List.mem_flatten.mp here
  have isWord := (parts piece inside).isWord_of_mem here (by decide)
  exact absurd (isWord.foldLetter_mem here) (by decide)

/-- A number word with an `ı` stands in no numeric text of capitals, wherever the pieces of that text end. -/
theorem dotless_not_mem {word : Text} (known : word ∈ numberWords.map Prod.fst) {front back : Text}
    (raised : IsNumeric ((front ++ (word ++ back)).map capital)) : 'ı' ∉ word := by
  intro member
  obtain ⟨cut, isCut, clash⟩ := dotless_words_clash word known member
  have spelled := mem_cuts_iff.mp isCut
  obtain ⟨pieces, -, parts, same⟩ := isMadeOf_map_iff.mp raised
  have around : pieces.flatten = (front ++ cut.left) ++ cut.letter :: (cut.right ++ back) := by
    rw [← same, spelled]
    simp
  obtain ⟨left, right, isPiece, before, after⟩ := exists_piece around
  have letter : capital cut.letter ∉ figures := by
    have inWords : ∀ c ∈ wordLetters, c ∈ smallLetters := List.all_iff_forall_prop.mp (by decide)
    obtain ⟨entry, isEntry, rfl⟩ := List.mem_map.mp known
    have inWord : cut.letter ∈ entry.1 := spelled ▸ by simp
    exact (capital_letter _ (inWords _ (mem_wordLetters entry isEntry _ inWord))).2.1.2
  have isWord := (parts _ isPiece).isWord_of_mem (List.mem_map_of_mem (by simp)) letter
  rw [IsWord, List.map_map] at isWord
  refine clash _ isWord ((⟨left, cut.letter, right⟩ : Cut).map heard) (mem_cuts_iff.mpr List.map_append) ⟨rfl, ?_, ?_⟩
  · exact (List.suffix_or_suffix_of_suffix before (List.suffix_append _ _)).imp (·.map heard) (·.map heard)
  · exact (List.prefix_or_prefix_of_prefix after (List.prefix_append _ _)).imp (·.map heard) (·.map heard)

theorem lacksI_of_isNumeric (small : ∀ c ∈ x, c ∈ smallCharacters) (numeric : IsNumeric x)
    (raised : IsNumeric (x.map capital)) : LacksI x := by
  intro c member isI
  have letters : ∀ c ∈ iLetters, c ∈ smallCharacters → c = 'i' ∨ c = 'ı' := List.all_iff_forall_prop.mp (by decide)
  rcases letters c isI (small c member) with rfl | rfl
  · exact dotted_not_mem raised member
  · obtain ⟨words, -, parts, rfl⟩ := numeric
    obtain ⟨word, inside, here⟩ := List.mem_flatten.mp member
    have smallWord : IsSmall word := fun c letter =>
      (lower_upperChar (small c (List.mem_flatten_of_mem inside letter))).2
    have noLong : '\u017f' ∉ word := fun long =>
      absurd (small _ (List.mem_flatten_of_mem inside long)) (by decide)
    have isKnown := (((parts word inside).isWord_of_mem here (by decide)).known_iff smallWord).mpr noLong
    obtain ⟨value, known⟩ := Option.isSome_iff_exists.mp isKnown
    obtain ⟨earlier, later, rfl⟩ := List.append_of_mem inside
    rw [List.flatten_append, List.flatten_cons] at raised
    exact dotless_not_mem (List.mem_map_of_mem (mem_numberWords known)) raised here

end Chunks

section Runs

theorem chunk_map (t : Text) : chunk (t.map capital) = (chunk t).map capital := by
  rw [chunk, List.takeWhile_map]
  simp only [Function.comp_def, isSeparator_capital, chunk]

theorem afterChunk_map (t : Text) : afterChunk (t.map capital) = (afterChunk t).map capital := by
  rw [afterChunk, List.dropWhile_map]
  simp only [Function.comp_def, isSeparator_capital, afterChunk]

theorem afterSeparators_map (t : Text) : afterSeparators (t.map capital) = (afterSeparators t).map capital := by
  rw [afterSeparators, List.dropWhile_map]
  simp only [Function.comp_def, isSeparator_capital, afterSeparators]

theorem isNumeric_chunk_map_iff {t : Text} (lacks : LacksI (chunk t) ∨ LacksI (chunk (t.map capital))) :
    IsNumeric (chunk (t.map capital)) ↔ IsNumeric (chunk t) := by
  rw [chunk_map, lacksI_map, or_self] at lacks
  rw [chunk_map, isNumeric_map_iff lacks]

theorem afterJoined_map {t : Text} (lacks : LacksI (joined t)) (raised : LacksI (joined (t.map capital))) :
    afterJoined (t.map capital) = (afterJoined t).map capital := by
  induction t using afterJoined.induct with
  | case1 => rw [List.map_nil, afterJoined, List.map_nil]
  | case2 c t more ih =>
    obtain ⟨rfl, numeric⟩ := more
    rw [joined_of_numeric numeric] at lacks
    obtain ⟨here, later⟩ := List.forall_mem_append.mp (List.forall_mem_cons.mp lacks).2
    have numeric' := (isNumeric_chunk_map_iff (.inl here)).mpr numeric
    rw [List.map_cons, capital_eq_space_iff.mpr rfl] at raised ⊢
    rw [joined_of_numeric numeric', afterChunk_map] at raised
    obtain ⟨-, raisedLater⟩ := List.forall_mem_append.mp (List.forall_mem_cons.mp raised).2
    rw [afterJoined, if_pos ⟨rfl, numeric'⟩, afterChunk_map, ih later raisedLater, afterJoined, if_pos ⟨rfl, numeric⟩]
  | case3 c t apart =>
    have apart' : ¬(capital c = ' ' ∧ IsNumeric (chunk (t.map capital))) := by
      rintro ⟨space, numeric⟩
      rw [List.map_cons, space, joined_of_numeric numeric] at raised
      obtain ⟨here, -⟩ := List.forall_mem_append.mp (List.forall_mem_cons.mp raised).2
      exact apart ⟨capital_eq_space_iff.mp space, (isNumeric_chunk_map_iff (.inr here)).mp numeric⟩
    rw [List.map_cons, afterJoined, if_neg apart', afterJoined, if_neg apart, List.map_cons]

theorem lacksI_run_iff {t : Text} : LacksI (run t) ↔ LacksI (chunk t) ∧ LacksI (joined (afterChunk t)) := by
  rw [run_eq]
  exact List.forall_mem_append

theorem run_map {t : Text} (lacks : LacksI (run t)) (raised : LacksI (run (t.map capital))) :
    afterRun (t.map capital) = (afterRun t).map capital ∧ run (t.map capital) = (run t).map capital := by
  have raisedLater := (lacksI_run_iff.mp raised).2
  rw [afterChunk_map] at raisedLater
  have rest : afterRun (t.map capital) = (afterRun t).map capital := by
    rw [afterRun, afterChunk_map]
    exact afterJoined_map (lacksI_run_iff.mp lacks).2 raisedLater
  refine ⟨rest, ?_⟩
  rw [run, rest, List.length_map, List.length_map, ← List.map_take, run]

end Runs

section Search

def inCapitals (n : Numeral) : Numeral := ⟨n.start, n.text.map capital⟩

/-- The scan comes to the same numerals in capitals, when none of the letters stands in a numeral. The induction goes
along the scan: a chunk that one of the two takes is part of a numeral, and so the other takes it too. -/
theorem scan_map {length : Nat} {free : Bool} {t : Text} (lacks : ∀ n ∈ scan length free t, LacksI n.text)
    (raised : ∀ n ∈ scan length free (t.map capital), LacksI n.text) :
    scan length free (t.map capital) = (scan length free t).map inCapitals := by
  induction free, t using scan.induct with
  | case1 free => rw [List.map_nil, scan_nil, List.map_nil]
  | case2 free c t separator ih =>
    have separator' : isSeparator (capital c) = true := by rwa [isSeparator_capital]
    rw [scan_separator separator] at lacks ⊢
    rw [List.map_cons, scan_separator separator'] at raised ⊢
    exact ih lacks raised
  | case3 free c t other numeric ih =>
    obtain ⟨rfl, numeric⟩ := numeric
    have single : isSeparator c = false := by simpa using other
    have single' : isSeparator (capital c) = false := by rwa [isSeparator_capital]
    rw [scan_numeric single numeric] at lacks ⊢
    obtain ⟨here, later⟩ := List.forall_mem_cons.mp lacks
    have numeric' := (isNumeric_chunk_map_iff (.inl (lacksI_run_iff.mp here).1)).mpr numeric
    rw [List.map_cons] at numeric' raised ⊢
    rw [scan_numeric single' numeric'] at raised ⊢
    obtain ⟨raisedHere, raisedLater⟩ := List.forall_mem_cons.mp raised
    rw [← List.map_cons] at raisedHere raisedLater ⊢
    obtain ⟨rest, same⟩ := run_map here raisedHere
    rw [rest, afterSeparators_map] at raisedLater ⊢
    rw [ih later raisedLater, same, List.length_map]
    rfl
  | case4 free c t other passed ih =>
    have single : isSeparator c = false := by simpa using other
    have single' : isSeparator (capital c) = false := by rwa [isSeparator_capital]
    have passed' : ¬(free = true ∧ IsNumeric (chunk (capital c :: t.map capital))) := by
      rintro ⟨rfl, numeric⟩
      rw [List.map_cons, scan_numeric single' numeric] at raised
      have inChunk := (lacksI_run_iff.mp (List.forall_mem_cons.mp raised).1).1
      exact passed ⟨rfl, (isNumeric_chunk_map_iff (t := c :: t) (.inr inChunk)).mp numeric⟩
    rw [scan_passed single passed] at lacks ⊢
    rw [List.map_cons, scan_passed single' passed', ← List.map_cons, afterChunk_map] at raised ⊢
    exact ih lacks raised

variable {t : Text}

theorem small_of_mem_findAll (small : ∀ c ∈ t, c ∈ smallCharacters) {n : Numeral} (found : n ∈ findAll t) :
    ∀ c ∈ n.text, c ∈ smallCharacters := by
  intro c member
  rw [(standsIn_of_mem_findAll found).slice.1] at member
  exact small c (List.mem_of_mem_drop (List.mem_of_mem_take member))

theorem value_map_capital {α : Type} [Arithmetic α] (small : ∀ c ∈ t, c ∈ smallCharacters) :
    (value (t.map capital) : α) = value t := by
  have point (c : Char) : (capital c != '.') = (c != '.') := by
    have figure : '.' ∈ figures := by decide
    have kept : capital c = '.' ↔ c = '.' :=
      ⟨fun same => (capital_of_figure (.inr (same ▸ figure))).symm.trans same,
        fun same => (capital_of_figure (.inl (same ▸ figure))).trans same⟩
    rw [Bool.eq_iff_iff, bne_iff_ne, bne_iff_ne, ne_eq, ne_eq, kept]
  have lowered : lower ((t.map capital).filter (· != '.')) = lower (t.filter (· != '.')) := by
    rw [List.filter_map]
    simp only [Function.comp_def, point]
    exact lower_map_capital fun c member => small c (List.mem_of_mem_filter member)
  simp only [value, lowered]

theorem lacksI_of_found_twice (small : ∀ c ∈ t, c ∈ smallCharacters) {n m : Numeral} (found : n ∈ findAll t)
    (raised : m ∈ findAll (t.map capital)) (same : n.start = m.start ∧ n.stop = m.stop) :
    LacksI n.text ∧ LacksI m.text := by
  have spelled : m.text = n.text.map capital := by
    rw [(standsIn_of_mem_findAll found).slice.1, (standsIn_of_mem_findAll raised).slice.1, ← same.1, ← same.2,
      List.map_take, List.map_drop]
  have known := small_of_mem_findAll small found
  obtain ⟨_, _, -, -, reads⟩ := standsIn_of_mem_findAll found
  obtain ⟨_, _, -, -, reads'⟩ := standsIn_of_mem_findAll raised
  obtain ⟨chunks, nonempty, numeric, put⟩ := exists_chunks_of_reads reads
  obtain ⟨chunks', nonempty', numeric', put'⟩ := exists_chunks_of_reads reads'
  have plain {word : Text} (isNumeric : IsNumeric word) : ' ' ∉ word := fun member =>
    absurd (isNumeric.isWhole ' ' member) (by decide)
  have pieces : chunks' = chunks.map (List.map capital) := by
    rw [← tokens_unwords nonempty' fun word member => plain (numeric' word member), ← put', spelled,
      tokens_map fun c => capital_eq_space_iff, put, tokens_unwords nonempty fun word member =>
        plain (numeric word member)]
  have lacks : LacksI n.text := by
    intro c member
    rw [put] at member
    rcases mem_unwords member with rfl | ⟨word, inside, here⟩
    · decide
    · refine lacksI_of_isNumeric (fun d letter => known d ?_) (numeric word inside) ?_ c here
      · exact put ▸ mem_unwords_of_mem inside letter
      · exact numeric' _ (pieces ▸ List.mem_map_of_mem inside)
  exact ⟨lacks, spelled ▸ lacksI_map.mpr lacks⟩

/-- Writing a small text in capitals keeps the places and values of its numerals exactly if no numeral, neither of the
small text nor of the one in capitals, has an `i` with or without its dot. -/
theorem findAll_upper_iff {α : Type} [Arithmetic α] (small : ∀ c ∈ t, c ∈ smallCharacters) :
    (findAll t.upper).map (fun n => (n.start, n.stop, (value n.text : α))) =
        (findAll t).map (fun n => (n.start, n.stop, (value n.text : α))) ↔
      ∀ n ∈ findAll t ++ findAll t.upper, LacksI n.text := by
  rw [upper_eq_map small]
  constructor
  · intro same
    refine List.forall_mem_append.mpr ⟨fun n found => ?_, fun m raised => ?_⟩
    · have here := List.mem_map_of_mem (f := fun n => (n.start, n.stop, (value n.text : α))) found
      rw [← same] at here
      obtain ⟨m, raised, place⟩ := List.mem_map.mp here
      simp only [Prod.mk.injEq] at place
      exact (lacksI_of_found_twice small found raised ⟨place.1.symm, place.2.1.symm⟩).1
    · have here := List.mem_map_of_mem (f := fun n => (n.start, n.stop, (value n.text : α))) raised
      rw [same] at here
      obtain ⟨n, found, place⟩ := List.mem_map.mp here
      simp only [Prod.mk.injEq] at place
      exact (lacksI_of_found_twice small found raised ⟨place.1, place.2.1⟩).2
  · intro lacks
    obtain ⟨here, raised⟩ := List.forall_mem_append.mp lacks
    have scanned : findAll (t.map capital) = (findAll t).map inCapitals := by
      rw [findAll_eq] at here raised
      rw [findAll_eq, findAll_eq, List.length_map]
      rw [List.length_map] at raised
      exact scan_map here raised
    rw [scanned, List.map_map]
    refine List.map_congr_left fun n found => ?_
    have stop : (inCapitals n).stop = n.stop := by rw [stop, stop, inCapitals, List.length_map]
    have value : (value (inCapitals n).text : α) = value n.text := value_map_capital (small_of_mem_findAll small found)
    simp only [Function.comp_def, stop, value]
    rfl

/-- Eleven is read as ten in capitals. -/
theorem findAll_upper_iff_eleven :
    (∀ c ∈ "on bir".toList, c ∈ smallCharacters) ∧ findAll "on bir".toList = [⟨0, "on bir".toList⟩] ∧
      findAll (upper "on bir".toList) = [⟨0, "ON".toList⟩] ∧
        (findAll (upper "on bir".toList)).map (fun n => (n.start, n.stop, (value n.text : Int))) ≠
          (findAll "on bir".toList).map (fun n => (n.start, n.stop, (value n.text : Int))) := by
  have small : ∀ c ∈ "on bir".toList, c ∈ smallCharacters := List.all_iff_forall_prop.mp (by decide)
  have found : findAll "on bir".toList = [⟨0, "on bir".toList⟩] := by decide
  have raised : findAll (upper "on bir".toList) = [⟨0, "ON".toList⟩] := by decide
  refine ⟨small, found, raised, fun same => ?_⟩
  have lacks := (findAll_upper_iff small).mp same ⟨0, "on bir".toList⟩ (by rw [found]; exact List.mem_cons_self)
  exact lacks 'i' (by decide) (by decide)

end Search

end Numeral

end TurkishDates
