import Mathlib.Data.List.TakeWhile
import TurkishDates.Proofs.Numeral.Numeric

/-!
Chunks of a text: what stands between separators. The parts of a numeral that touch fill a chunk, and
the body of a numeral is a run of numeric chunks with one space between neighbours, as long as it can be.
Where a run ends depends only on how the text behind it begins.
-/

namespace TurkishDates

namespace Numeral

open Shape

def isSeparator (c : Char) : Bool := " ;:".toList.contains c

def chunk (t : Text) : Text := t.takeWhile fun c => !isSeparator c

def afterChunk (t : Text) : Text := t.dropWhile fun c => !isSeparator c

def afterSeparators (t : Text) : Text := t.dropWhile isSeparator

theorem afterChunk_suffix (t : Text) : afterChunk t <:+ t := List.dropWhile_suffix _

theorem afterSeparators_suffix (t : Text) : afterSeparators t <:+ t := List.dropWhile_suffix _

/-- What is left behind a chunk after all numeric chunks that one space each joins to it. -/
def afterJoined : Text → Text
  | [] => []
  | c :: t => if c = ' ' ∧ IsNumeric (chunk t) then afterJoined (afterChunk t) else c :: t
termination_by t => t.length
decreasing_by exact Nat.lt_succ_of_le (afterChunk_suffix t).length_le

theorem afterJoined_suffix (t : Text) : afterJoined t <:+ t := by
  induction t using afterJoined.induct with
  | case1 => simp [afterJoined]
  | case2 c t joined ih =>
    rw [afterJoined, if_pos joined]
    exact (ih.trans (afterChunk_suffix t)).trans (List.suffix_cons c t)
  | case3 c t apart => simp [afterJoined, apart]

def afterRun (t : Text) : Text := afterJoined (afterChunk t)

theorem afterRun_suffix (t : Text) : afterRun t <:+ t :=
  (afterJoined_suffix _).trans (afterChunk_suffix t)

def run (t : Text) : Text := t.take (t.length - (afterRun t).length)

/-- Whether a text begins with a separator or is empty, so that a chunk before it ends there. -/
def endsChunk (t : Text) : Bool := t.head?.all isSeparator

def IsWhole (t : Text) : Prop := ∀ c ∈ t, isSeparator c = false

@[simp] theorem endsChunk_nil : endsChunk [] = true := rfl

@[simp] theorem endsChunk_cons (c : Char) (t : Text) : endsChunk (c :: t) = isSeparator c := rfl

theorem chunk_append_afterChunk (t : Text) : chunk t ++ afterChunk t = t := List.takeWhile_append_dropWhile

theorem isWhole_chunk (t : Text) : IsWhole (chunk t) := fun c member => by
  simpa using List.mem_takeWhile_imp member

theorem endsChunk_afterChunk (t : Text) : endsChunk (afterChunk t) = true := by
  induction t with
  | nil => rfl
  | cons c t ih =>
    unfold afterChunk
    cases separator : isSeparator c with
    | true => rw [List.dropWhile_cons_of_neg (by simp [separator]), endsChunk_cons, separator]
    | false => rw [List.dropWhile_cons_of_pos (by simp [separator])]; exact ih

theorem chunk_of_endsChunk {t : Text} (ends : endsChunk t = true) : chunk t = [] := by
  cases t with
  | nil => rfl
  | cons c t => exact List.takeWhile_cons_of_neg (by simpa using ends)

theorem afterChunk_of_endsChunk {t : Text} (ends : endsChunk t = true) : afterChunk t = t := by
  cases t with
  | nil => rfl
  | cons c t => exact List.dropWhile_cons_of_neg (by simpa using ends)

theorem chunk_append {x rest : Text} (whole : IsWhole x) : chunk (x ++ rest) = x ++ chunk rest := by
  exact List.takeWhile_append_of_pos fun c member => by simp [whole c member]

theorem afterChunk_append {x rest : Text} (whole : IsWhole x) : afterChunk (x ++ rest) = afterChunk rest := by
  exact List.dropWhile_append_of_pos fun c member => by simp [whole c member]

theorem afterSeparators_cons {c : Char} {t : Text} (separator : isSeparator c = true) :
    afterSeparators (c :: t) = afterSeparators t := List.dropWhile_cons_of_pos separator

theorem afterSeparators_of_not {c : Char} {t : Text} (other : isSeparator c = false) :
    afterSeparators (c :: t) = c :: t := List.dropWhile_cons_of_neg (by simp [other])

theorem isWhole_flatten {pieces : List Text} (whole : ∀ piece ∈ pieces, IsWhole piece) :
    IsWhole pieces.flatten := fun c member => by
  obtain ⟨piece, inside, here⟩ := List.mem_flatten.mp member
  exact whole piece inside c here

theorem IsWord.isWhole {t : Text} (word : IsWord t) : IsWhole t := by
  have folded : (" ;:".toList.all fun c => !wordLetters.contains (foldLetter c)) = true := by decide
  intro c inside
  rw [← Bool.not_eq_true]
  intro separator
  have other := List.all_eq_true.mp folded c (by simpa [isSeparator] using separator)
  simp [word.foldLetter_mem inside] at other

theorem IsPart.isWhole {t : Text} (part : IsPart t) : IsWhole t := by
  rcases part.isWord_or_figures with word | inFigures
  · exact word.isWhole
  · have listed : (figures.all fun c => !isSeparator c) = true := by decide
    intro c member
    simpa using List.all_eq_true.mp listed c (inFigures c member)

theorem IsNumeric.isWhole {t : Text} (numeric : IsNumeric t) : IsWhole t := by
  obtain ⟨pieces, -, parts, rfl⟩ := numeric
  exact isWhole_flatten fun piece member => (parts piece member).isWhole

theorem not_isNumeric_nil : ¬ IsNumeric [] := by
  intro numeric
  have reads : (plus part).Reads [] [] := reads_parts.mpr numeric
  cases readsNothing_of_reads reads

theorem not_isNumeric_chunk {t : Text} (ends : endsChunk t = true) : ¬ IsNumeric (chunk t) := by
  rw [chunk_of_endsChunk ends]
  exact not_isNumeric_nil

theorem chunk_append_of_ends {x rest : Text} (whole : IsWhole x) (ends : endsChunk rest = true) :
    chunk (x ++ rest) = x := by
  rw [chunk_append whole, chunk_of_endsChunk ends, List.append_nil]

theorem afterChunk_append_of_ends {x rest : Text} (whole : IsWhole x) (ends : endsChunk rest = true) :
    afterChunk (x ++ rest) = rest := by
  rw [afterChunk_append whole, afterChunk_of_endsChunk ends]

/-- Where nothing goes on within a chunk, parts that touch have to fill the chunk at the front. -/
theorem findSome?_rests_parts {β : Type} {next : Text → Option β}
    (within : ∀ rest, endsChunk rest = false → next rest = none) (t : Text) :
    ((plus part).rests t).findSome? next = if IsNumeric (chunk t) then next (afterChunk t) else none := by
  -- parts that end earlier end within the chunk, and no part has a separator
  have other : ∀ rest ∈ (plus part).rests t, rest ≠ afterChunk t → next rest = none := by
    intro rest member different
    obtain ⟨x, rfl, reads⟩ := exists_reads_of_mem_rests member
    cases ends : endsChunk rest with
    | false => exact within rest ends
    | true => exact absurd (afterChunk_append_of_ends (reads_parts.mp reads).isWhole ends).symm different
  have fills : afterChunk t ∈ (plus part).rests t ↔ IsNumeric (chunk t) := by
    rw [mem_rests_iff isSteady_parts]
    constructor
    · rintro ⟨x, split, reads⟩
      rw [List.append_cancel_right ((chunk_append_afterChunk t).trans split)]
      exact reads_parts.mp reads
    · exact fun numeric => ⟨chunk t, (chunk_append_afterChunk t).symm, reads_parts.mpr numeric⟩
  split
  next numeric => exact findSome?_eq_of_mem (fills.mpr numeric) other
  next broken =>
    exact List.findSome?_eq_none_iff.mpr fun rest member =>
      other rest member fun same => broken (fills.mp (same ▸ member))

def group : Shape := " " ++ plus part

theorem rests_group_of_ne {c : Char} {t : Text} (other : c ≠ ' ') : group.rests (c :: t) = [] := by
  have apart : ¬ " ".toList.isPrefixOf (c :: t) = true := by simpa using other.symm
  show (Shape.word " ".toList |>.rests (c :: t)).flatMap _ = []
  rw [rests, if_neg apart, List.flatMap_nil]

theorem rests_group_space (t : Text) : group.rests (' ' :: t) = (plus part).rests t := by
  show (Shape.word " ".toList |>.rests (' ' :: t)).flatMap _ = _
  rw [rests, if_pos (by simp), List.flatMap_singleton]
  rfl

/-- What any number of groups more leaves, more groups preferred. -/
def goOn {β : Type} (next : Text → Option β) (t : Text) : Option β :=
  ((plus group).rests t ++ [t]).findSome? next

theorem goOn_nil {β : Type} (next : Text → Option β) : goOn next [] = next [] := by
  rw [goOn, rests, List.length_nil, restsOfRounds, List.nil_append, List.findSome?_singleton]

theorem goOn_of_ne {β : Type} (next : Text → Option β) {c : Char} {t : Text} (other : c ≠ ' ') :
    goOn next (c :: t) = next (c :: t) := by
  rw [goOn, rests_plus, rests_group_of_ne other, List.filter_nil, List.flatMap_nil, List.nil_append,
    List.findSome?_singleton]

theorem goOn_within {β : Type} {next : Text → Option β}
    (within : ∀ rest, endsChunk rest = false → next rest = none) (rest : Text)
    (inside : endsChunk rest = false) : goOn next rest = none := by
  cases rest with
  | nil => cases inside
  | cons c rest =>
    have other : c ≠ ' ' := by
      rintro rfl
      cases inside
    rw [goOn_of_ne next other, within _ inside]

theorem goOn_space {β : Type} {next : Text → Option β}
    (within : ∀ rest, endsChunk rest = false → next rest = none) (t : Text) :
    goOn next (' ' :: t) =
      ((if IsNumeric (chunk t) then goOn next (afterChunk t) else none).or (next (' ' :: t))) := by
  have shorter : ∀ rest ∈ (plus part).rests t, decide (rest.length < (' ' :: t).length) = true :=
    fun rest member => decide_eq_true (Nat.lt_succ_of_le (suffix_of_mem_rests member).length_le)
  rw [goOn, rests_plus, rests_group_space, List.filter_eq_self.mpr shorter, List.findSome?_append,
    findSome?_flatMap, List.findSome?_singleton]
  rw [← findSome?_rests_parts (goOn_within within) t]
  rfl

theorem endsChunk_afterJoined {t : Text} (ends : endsChunk t = true) :
    endsChunk (afterJoined t) = true := by
  induction t using afterJoined.induct with
  | case1 => rwa [afterJoined]
  | case2 c t joined ih =>
    rw [afterJoined, if_pos joined]
    exact ih (endsChunk_afterChunk t)
  | case3 c t apart => rwa [afterJoined, if_neg apart]

theorem endsChunk_afterRun (t : Text) : endsChunk (afterRun t) = true :=
  endsChunk_afterJoined (endsChunk_afterChunk t)

theorem goOn_eq {β : Type} {next : Text → Option β}
    (within : ∀ rest, endsChunk rest = false → next rest = none)
    (border : ∀ rest, endsChunk rest = true → (next rest).isSome) (t : Text) :
    goOn next t = next (afterJoined t) := by
  induction t using afterJoined.induct with
  | case1 => rw [goOn_nil, afterJoined]
  | case2 c t joined ih =>
    obtain ⟨rfl, numeric⟩ := joined
    have found : (goOn next (afterChunk t)).isSome := by
      rw [ih]
      exact border _ (endsChunk_afterRun t)
    -- the longer reading has an answer, so leaving before the space is not asked about
    rw [goOn_space within, if_pos numeric, Option.or_of_isSome found, ih, afterJoined,
      if_pos ⟨rfl, numeric⟩]
  | case3 c t apart =>
    rw [afterJoined, if_neg apart]
    by_cases space : c = ' '
    · subst space
      rw [goOn_space within, if_neg fun numeric => apart ⟨rfl, numeric⟩, Option.none_or]
    · exact goOn_of_ne next space

/-- The body of a numeral takes the run of numeric chunks at the front. -/
theorem findSome?_rests_body {β : Type} {next : Text → Option β}
    (within : ∀ rest, endsChunk rest = false → next rest = none)
    (border : ∀ rest, endsChunk rest = true → (next rest).isSome) (t : Text) :
    (body.rests t).findSome? next = if IsNumeric (chunk t) then next (afterRun t) else none := by
  have rounds (rest : Text) : ((star group).rests rest).findSome? next = goOn next rest := by
    have leave : Shape.empty.rests rest = [rest] := by simp [Shape.empty, rests]
    rw [goOn, Shape.star, opt, rests, leave]
  calc
    (body.rests t).findSome? next = ((plus part).rests t).findSome? (goOn next) := by
      rw [← funext rounds]
      exact findSome?_flatMap next _ _
    _ = if IsNumeric (chunk t) then goOn next (afterChunk t) else none :=
      findSome?_rests_parts (goOn_within within) t
    _ = _ := by rw [goOn_eq within border, afterRun]

theorem run_append_afterRun (t : Text) : run t ++ afterRun t = t :=
  List.suffix_iff_eq_append.mp (afterRun_suffix t)

theorem separators_append (t : Text) : t.takeWhile isSeparator ++ afterSeparators t = t :=
  List.takeWhile_append_dropWhile

theorem chunk_cons {c : Char} {t : Text} (other : ¬ isSeparator c = true) : chunk (c :: t) = c :: chunk t :=
  List.takeWhile_cons_of_pos (by simpa using other)

theorem chunk_append_separator (s : Text) {rest : Text} (ends : endsChunk rest = true) :
    chunk (s ++ rest) = chunk s := by
  induction s with
  | nil => rw [List.nil_append, chunk_of_endsChunk ends, chunk_of_endsChunk endsChunk_nil]
  | cons c s ih =>
    rw [List.cons_append]
    by_cases separator : isSeparator c = true
    · rw [chunk_of_endsChunk (t := c :: s) separator, chunk_of_endsChunk (t := c :: (s ++ rest)) separator]
    · rw [chunk_cons separator, chunk_cons separator, ih]

def EndsRun (rest : Text) : Prop := endsChunk rest = true ∧ afterJoined rest = rest

theorem endsRun_afterRun (t : Text) : EndsRun (afterRun t) := by
  refine ⟨endsChunk_afterRun t, ?_⟩
  unfold afterRun
  induction afterChunk t using afterJoined.induct with
  | case1 => rw [afterJoined, afterJoined]
  | case2 c u joined ih => rw [afterJoined, if_pos joined, ih]
  | case3 c u apart => rw [afterJoined, if_neg apart, afterJoined, if_neg apart]

theorem endsRun_cons_iff {c : Char} {t : Text} :
    EndsRun (c :: t) ↔ isSeparator c = true ∧ ¬ (c = ' ' ∧ IsNumeric (chunk t)) := by
  refine and_congr_right fun separator => ?_
  rw [afterJoined]
  split
  next joined =>
    refine iff_of_false (fun same => ?_) (not_not_intro joined)
    have shorter := (afterJoined_suffix (afterChunk t)).length_le.trans (afterChunk_suffix t).length_le
    rw [same, List.length_cons] at shorter
    omega
  next apart => exact iff_of_true rfl apart

def joined (t : Text) : Text := t.take (t.length - (afterJoined t).length)

theorem joined_append_afterJoined (t : Text) : joined t ++ afterJoined t = t :=
  List.suffix_iff_eq_append.mp (afterJoined_suffix t)

theorem joined_nil : joined [] = [] := List.take_nil

theorem joined_of_numeric {t : Text} (numeric : IsNumeric (chunk t)) :
    joined (' ' :: t) = ' ' :: (chunk t ++ joined (afterChunk t)) := by
  have rest : afterJoined (' ' :: t) = afterJoined (afterChunk t) := by rw [afterJoined, if_pos ⟨rfl, numeric⟩]
  refine (List.append_left_inj (afterJoined (afterChunk t))).mp ?_
  rw [← rest, joined_append_afterJoined, rest, List.cons_append, List.append_assoc,
    joined_append_afterJoined, chunk_append_afterChunk]

theorem joined_of_apart {c : Char} {t : Text} (apart : ¬ (c = ' ' ∧ IsNumeric (chunk t))) :
    joined (c :: t) = [] := by
  rw [joined, afterJoined, if_neg apart, Nat.sub_self, List.take_zero]

theorem run_eq (t : Text) : run t = chunk t ++ joined (afterChunk t) := by
  refine (List.append_left_inj (afterRun t)).mp ?_
  rw [run_append_afterRun, List.append_assoc, afterRun, joined_append_afterJoined,
    chunk_append_afterChunk]

theorem endsChunk_joined_append {t rest : Text} (ends : endsChunk rest = true) :
    endsChunk (joined t ++ rest) = true := by
  cases t with
  | nil => rwa [joined_nil]
  | cons c t =>
    by_cases more : c = ' ' ∧ IsNumeric (chunk t)
    · obtain ⟨rfl, numeric⟩ := more
      rw [joined_of_numeric numeric]
      rfl
    · rw [joined_of_apart more]
      exact ends

theorem afterJoined_joined_append {t rest : Text} (ends : EndsRun rest) :
    afterJoined (joined t ++ rest) = rest := by
  induction t using afterJoined.induct with
  | case1 => rw [joined_nil, List.nil_append, ends.2]
  | case2 c t more ih =>
    obtain ⟨rfl, numeric⟩ := more
    have border := endsChunk_joined_append (t := afterChunk t) ends.1
    have same : chunk (chunk t ++ (joined (afterChunk t) ++ rest)) = chunk t :=
      chunk_append_of_ends (isWhole_chunk t) border
    rw [joined_of_numeric numeric, List.cons_append, List.append_assoc, afterJoined, same,
      if_pos ⟨rfl, numeric⟩, afterChunk_append_of_ends (isWhole_chunk t) border, ih]
  | case3 c t apart => rw [joined_of_apart apart, List.nil_append, ends.2]

/-- A text is a run of numeric chunks when it is one before any text at which a run ends. -/
def IsRun (x : Text) : Prop :=
  ∀ rest, EndsRun rest → IsNumeric (chunk (x ++ rest)) ∧ afterRun (x ++ rest) = rest

theorem isRun_run {t : Text} (numeric : IsNumeric (chunk t)) : IsRun (run t) := by
  intro rest ends
  have border := endsChunk_joined_append (t := afterChunk t) ends.1
  rw [run_eq, List.append_assoc, chunk_append_of_ends (isWhole_chunk t) border, afterRun,
    afterChunk_append_of_ends (isWhole_chunk t) border, afterJoined_joined_append ends]
  exact ⟨numeric, rfl⟩

theorem isRun_of_isNumeric {x : Text} (numeric : IsNumeric x) : IsRun x := by
  intro rest ends
  rw [chunk_append_of_ends numeric.isWhole ends.1, afterRun, afterChunk_append_of_ends numeric.isWhole ends.1]
  exact ⟨numeric, ends.2⟩

theorem IsRun.run_append {x rest : Text} (isRun : IsRun x) (ends : EndsRun rest) : run (x ++ rest) = x := by
  rw [run, (isRun rest ends).2, List.length_append, Nat.add_sub_cancel, List.take_left]

/-- A run ends before the same separators when what follows them begins alike. -/
theorem EndsRun.of_alike {rest s : Text} (ends : EndsRun rest)
    (alike : chunk s = chunk (afterSeparators rest)) (head : s.head? = (afterSeparators rest).head?) :
    EndsRun (rest.takeWhile isSeparator ++ s) := by
  cases rest with
  | nil =>
    rw [List.head?_eq_none_iff.mp head]
    exact ends
  | cons c rest =>
    obtain ⟨separator, apart⟩ := endsRun_cons_iff.mp ends
    rw [afterSeparators_cons separator] at alike
    rw [List.takeWhile_cons_of_pos separator, List.cons_append, endsRun_cons_iff]
    refine ⟨separator, fun ⟨space, numeric⟩ => apart ⟨space, ?_⟩⟩
    cases rest with
    | nil => rwa [List.takeWhile_nil, List.nil_append, alike] at numeric
    | cons d rest =>
      by_cases again : isSeparator d = true
      · rw [List.takeWhile_cons_of_pos again] at numeric
        exact absurd numeric (not_isNumeric_chunk (t := d :: _) again)
      · rwa [List.takeWhile_cons_of_neg again, List.nil_append, alike,
          afterSeparators_of_not (by simpa using again)] at numeric

theorem takeWhile_separators_append {rest s : Text} (head : s.head? = (afterSeparators rest).head?) :
    (rest.takeWhile isSeparator ++ s).takeWhile isSeparator = rest.takeWhile isSeparator ∧
      afterSeparators (rest.takeWhile isSeparator ++ s) = s := by
  have all : ∀ c ∈ rest.takeWhile isSeparator, isSeparator c = true := fun c => List.mem_takeWhile_imp
  have stops : s.takeWhile isSeparator = [] ∧ afterSeparators s = s := by
    cases s with
    | nil => exact ⟨rfl, rfl⟩
    | cons c s =>
      have other : ¬ isSeparator c = true := by
        have first := List.head?_dropWhile_not isSeparator rest
        rw [show rest.dropWhile isSeparator = afterSeparators rest from rfl, ← head] at first
        simpa using first
      exact ⟨List.takeWhile_cons_of_neg other, List.dropWhile_cons_of_neg other⟩
  rw [List.takeWhile_append_of_pos all, stops.1, List.append_nil, afterSeparators,
    List.dropWhile_append_of_pos all]
  exact ⟨rfl, stops.2⟩

end Numeral

end TurkishDates
