import TurkishDates.Proofs.Numeral.Scanner

/-!
Runs of numeric chunks with separators between them. A numeral takes all separators behind it, however many there are,
so the run behind them is not free: it is found exactly if no numeral ends right before its separators.
-/

namespace TurkishDates

namespace Numeral

def beginsChunk (front : Text) : Bool := front.getLast?.all isSeparator

/-- Numeric chunks with a space between neighbours, behind `front` and before `back`, where no other numeric chunk is
joined to them by a space. -/
structure IsRunBetween (front run back : Text) : Prop where
  chunks : ∃ chunks : List Text, chunks ≠ [] ∧ (∀ chunk ∈ chunks, IsNumeric chunk) ∧ run = Text.unwords chunks
  begins : beginsChunk front = true
  ends : endsChunk back = true
  first : ∀ earlier chunk, front = earlier ++ (chunk ++ [' ']) → beginsChunk earlier = true → ¬ IsNumeric chunk
  last : ∀ chunk later, back = ' ' :: (chunk ++ later) → endsChunk later = true → ¬ IsNumeric chunk

section Chunks

variable {ahead front rest t : Text}

theorem beginsChunk_append (before : Text) (nonempty : front ≠ []) :
    beginsChunk (before ++ front) = beginsChunk front := by
  obtain ⟨c, last⟩ := Option.isSome_iff_exists.mp (List.getLast?_isSome.mpr nonempty)
  rw [beginsChunk, beginsChunk, List.getLast?_append, last, Option.some_or]

theorem chunk_append_of_suffix (begins : beginsChunk ahead = true) (inside : t <:+ ahead) (nonempty : t ≠ [])
    (rest : Text) :
    afterChunk t ≠ [] ∧ chunk (t ++ rest) = chunk t ∧ afterChunk (t ++ rest) = afterChunk t ++ rest := by
  have separated : beginsChunk t = true := by
    obtain ⟨before, rfl⟩ := inside
    rwa [beginsChunk_append before nonempty] at begins
  have remains : afterChunk t ≠ [] := by
    intro nothing
    have whole : chunk t = t := by
      have split := chunk_append_afterChunk t
      rwa [nothing, List.append_nil] at split
    obtain ⟨c, last⟩ := Option.isSome_iff_exists.mp (List.getLast?_isSome.mpr nonempty)
    rw [beginsChunk, last] at separated
    have other := isWhole_chunk t c (whole.symm ▸ List.mem_of_getLast? last)
    rw [Option.all_some, other] at separated
    cases separated
  have ends : endsChunk (afterChunk t ++ rest) = true := by
    obtain ⟨c, u, same⟩ := List.exists_cons_of_ne_nil remains
    have here := endsChunk_afterChunk t
    rw [same] at here ⊢
    exact here
  refine ⟨remains, ?_, ?_⟩
  · rw [← chunk_append_of_ends (isWhole_chunk t) ends, ← List.append_assoc, chunk_append_afterChunk]
  · rw [← afterChunk_append_of_ends (isWhole_chunk t) ends, ← List.append_assoc, chunk_append_afterChunk]

theorem afterSeparators_append (text : endsChunk rest = false) (t : Text) :
    afterSeparators (t ++ rest) = afterSeparators t ++ rest := by
  induction t with
  | nil =>
    cases rest with
    | nil => rfl
    | cons c rest => exact afterSeparators_of_not text
  | cons c t ih =>
    cases separator : isSeparator c with
    | true => rw [List.cons_append, afterSeparators_cons separator, afterSeparators_cons separator, ih]
    | false => rw [List.cons_append, afterSeparators_of_not separator, afterSeparators_of_not separator]; rfl

theorem afterSeparators_eq_nil : afterSeparators t = [] ↔ ∀ c ∈ t, isSeparator c = true :=
  List.dropWhile_eq_nil_iff

end Chunks

section Runs

theorem endsRun_of_last {back : Text} (ends : endsChunk back = true)
    (last : ∀ chunk later, back = ' ' :: (chunk ++ later) → endsChunk later = true → ¬ IsNumeric chunk) :
    EndsRun back := by
  cases back with
  | nil => exact ⟨rfl, by rw [afterJoined]⟩
  | cons c back =>
    refine endsRun_cons_iff.mpr ⟨ends, ?_⟩
    rintro ⟨rfl, numeric⟩
    exact last (chunk back) (afterChunk back) (by rw [chunk_append_afterChunk]) (endsChunk_afterChunk back) numeric

theorem isRun_unwords {chunks : List Text} (nonempty : chunks ≠ []) (numeric : ∀ chunk ∈ chunks, IsNumeric chunk) :
    IsRun (Text.unwords chunks) := by
  induction chunks with
  | nil => exact absurd rfl nonempty
  | cons first chunks ih =>
    obtain ⟨isNumeric, others⟩ := List.forall_mem_cons.mp numeric
    cases chunks with
    | nil => exact isRun_of_isNumeric isNumeric
    | cons next chunks =>
      intro rest ends
      obtain ⟨joins, later⟩ := ih (List.cons_ne_nil next chunks) others rest ends
      have border : endsChunk (' ' :: (Text.unwords (next :: chunks) ++ rest)) = true := rfl
      rw [Text.unwords_cons first (List.cons_ne_nil next chunks), List.append_assoc, List.cons_append, afterRun,
        chunk_append_of_ends isNumeric.isWhole border, afterChunk_append_of_ends isNumeric.isWhole border,
        afterJoined, if_pos ⟨rfl, joins⟩]
      exact ⟨isNumeric, later⟩

/-- A run that ends in front of a text does not go on within it, unless its last chunk is joined to the text by a
space. The induction goes along the chunks of the run; the text before its last chunk is kept for `first`. -/
theorem afterJoined_append {ahead before chunkBefore t : Text} (rest : Text) (begins : beginsChunk ahead = true)
    (first : ∀ earlier chunk, ahead = earlier ++ (chunk ++ [' ']) → beginsChunk earlier = true → ¬ IsNumeric chunk)
    (split : ahead = before ++ (chunkBefore ++ t)) (opened : beginsChunk before = true)
    (numeric : IsNumeric chunkBefore) (nonempty : t ≠ []) :
    afterJoined t ≠ [] ∧ afterJoined (t ++ rest) = afterJoined t ++ rest := by
  induction t using afterJoined.induct generalizing before chunkBefore with
  | case1 => exact absurd rfl nonempty
  | case2 c t joined ih =>
    obtain ⟨rfl, next⟩ := joined
    have remains : t ≠ [] := fun empty => not_isNumeric_nil (by rwa [empty] at next)
    have inside : t <:+ ahead := ⟨before ++ (chunkBefore ++ [' ']), by rw [split]; simp⟩
    obtain ⟨more, sameChunk, sameRest⟩ := chunk_append_of_suffix begins inside remains rest
    have split' : ahead = (before ++ (chunkBefore ++ [' '])) ++ (chunk t ++ afterChunk t) := by
      rw [split, chunk_append_afterChunk]
      simp
    have opened' : beginsChunk (before ++ (chunkBefore ++ [' '])) = true := by
      rw [← List.append_assoc, beginsChunk_append _ (List.cons_ne_nil ' ' [])]
      rfl
    obtain ⟨left, same⟩ := ih split' opened' next more
    rw [afterJoined, if_pos ⟨rfl, next⟩, List.cons_append, afterJoined, sameChunk, if_pos ⟨rfl, next⟩, sameRest]
    exact ⟨left, same⟩
  | case3 c t apart =>
    have apart' : ¬(c = ' ' ∧ IsNumeric (chunk (t ++ rest))) := by
      rintro ⟨rfl, next⟩
      by_cases empty : t = []
      · subst empty
        exact first before chunkBefore split opened numeric
      · have inside : t <:+ ahead := ⟨before ++ (chunkBefore ++ [' ']), by rw [split]; simp⟩
        obtain ⟨-, sameChunk, -⟩ := chunk_append_of_suffix begins inside empty rest
        exact apart ⟨rfl, sameChunk ▸ next⟩
    rw [afterJoined, if_neg apart, List.cons_append, afterJoined, if_neg apart']
    exact ⟨List.cons_ne_nil c t, rfl⟩

end Runs

section Scan

theorem le_start_of_mem_scan {length : Nat} {free : Bool} {t : Text} {n : Numeral} (member : n ∈ scan length free t) :
    length - t.length ≤ n.start := by
  induction free, t using scan.induct with
  | case1 free => rw [scan_nil] at member; cases member
  | case2 free c t separator ih =>
    rw [scan_separator separator] at member
    have later := ih member
    rw [List.length_cons]
    omega
  | case3 free c t other numeric ih =>
    obtain ⟨rfl, numeric⟩ := numeric
    rw [scan_numeric (by simpa using other) numeric] at member
    rcases List.mem_cons.mp member with rfl | behind
    · exact Nat.le_refl _
    · have later := ih behind
      have shorter := ((afterSeparators_suffix _).trans (afterRun_suffix (c :: t))).length_le
      omega
  | case4 free c t other passed ih =>
    rw [scan_passed (by simpa using other) passed] at member
    have later := ih member
    have shorter := (afterChunk_suffix (c :: t)).length_le
    omega

theorem run_append {front rest : Text} (same : afterRun (front ++ rest) = afterRun front ++ rest) :
    run (front ++ rest) = run front := by
  refine (List.append_left_inj (afterRun front ++ rest)).mp ?_
  rw [← same, run_append_afterRun, same, ← List.append_assoc, run_append_afterRun]

/-- The scan of a text comes to what follows it, free unless a numeral ends right before the separators there. The
induction goes along the scan, with what it has passed over kept in `before`. -/
theorem exists_scan_append {ahead rest : Text} (text : endsChunk rest = false) (begins : beginsChunk ahead = true)
    (first : ∀ earlier chunk, ahead = earlier ++ (chunk ++ [' ']) → beginsChunk earlier = true → ¬ IsNumeric chunk)
    (free : Bool) (before front : Text) (split : ahead = before ++ front)
    (opened : free = true → beginsChunk before = true) :
    ∃ found stillFree, scan (ahead.length + rest.length) free (front ++ rest) =
        found ++ scan (ahead.length + rest.length) stillFree rest ∧
      (∀ n ∈ found, n.stop ≤ ahead.length) ∧
      (stillFree = false ↔ front = [] ∧ free = false ∨
        ∃ n ∈ found, ∀ c ∈ ahead.drop n.stop, isSeparator c = true) := by
  induction free, front using scan.induct generalizing before with
  | case1 free => exact ⟨[], free, rfl, by simp, by simp⟩
  | case2 free c t separator ih =>
    have opened' : beginsChunk (before ++ [c]) = true := by
      rw [beginsChunk_append _ (List.cons_ne_nil c []), beginsChunk, List.getLast?_singleton, Option.all_some, separator]
    obtain ⟨found, stillFree, scanned, stops, lost⟩ := ih (before ++ [c]) (by rw [split]; simp) fun _ => opened'
    refine ⟨found, stillFree, ?_, stops, lost.trans (by simp)⟩
    rw [List.cons_append, scan_separator separator, scanned]
  | case3 free c t other numeric ih =>
    obtain ⟨rfl, numeric⟩ := numeric
    have single : isSeparator c = false := by simpa using other
    obtain ⟨remains, sameChunk, sameRest⟩ :=
      chunk_append_of_suffix begins ⟨before, split.symm⟩ (List.cons_ne_nil c t) rest
    obtain ⟨-, sameRun⟩ := afterJoined_append rest begins first
      (by rw [chunk_append_afterChunk, split]) (opened rfl) numeric remains
    have left : afterRun (c :: t ++ rest) = afterRun (c :: t) ++ rest := by rw [afterRun, sameRest, sameRun, afterRun]
    obtain ⟨skipped, behind⟩ := (afterSeparators_suffix (afterRun (c :: t))).trans (afterRun_suffix (c :: t))
    obtain ⟨found, stillFree, scanned, stops, lost⟩ := ih (before ++ skipped)
      (by rw [List.append_assoc, behind, split]) (by simp)
    generalize isFirst : (⟨before.length, run (c :: t)⟩ : Numeral) = n
    have start : ahead.length + rest.length - (c :: t ++ rest).length = before.length := by
      rw [split]
      simp only [List.length_append]
      omega
    have gap : ahead.drop n.stop = afterRun (c :: t) ∧ n.stop ≤ ahead.length := by
      have whole : ahead = (before ++ run (c :: t)) ++ afterRun (c :: t) := by
        rw [List.append_assoc, run_append_afterRun, split]
      have stop : n.stop = (before ++ run (c :: t)).length := by rw [← isFirst, Numeral.stop, List.length_append]
      rw [stop, whole, List.drop_left]
      exact ⟨rfl, by simp⟩
    refine ⟨n :: found, stillFree, ?_, List.forall_mem_cons.mpr ⟨gap.2, stops⟩, ?_⟩
    · rw [List.cons_append, scan_numeric single (by rwa [← List.cons_append, sameChunk]), ← List.cons_append, start,
        run_append left, isFirst, left, afterSeparators_append text, scanned, List.cons_append]
    · rw [lost, List.exists_mem_cons_iff, gap.1, ← afterSeparators_eq_nil]
      simp
  | case4 free c t other passed ih =>
    have single : isSeparator c = false := by simpa using other
    obtain ⟨remains, sameChunk, sameRest⟩ :=
      chunk_append_of_suffix begins ⟨before, split.symm⟩ (List.cons_ne_nil c t) rest
    obtain ⟨found, stillFree, scanned, stops, lost⟩ := ih (before ++ chunk (c :: t))
      (by rw [List.append_assoc, chunk_append_afterChunk, split]) (by simp)
    refine ⟨found, stillFree, ?_, stops, lost.trans (by simp [remains])⟩
    rw [List.cons_append, scan_passed single (by rwa [← List.cons_append, sameChunk]), ← List.cons_append, sameRest,
      scanned]

variable {c : Char} {t : Text} {position : Nat} {found : List Numeral} {stillFree : Bool}

/-- The run at the front is found exactly if the scan comes to it free. -/
theorem run_mem_scan_iff (other : isSeparator c = false) (numeric : IsNumeric (chunk (c :: t)))
    (stops : ∀ n ∈ found, n.stop ≤ position) :
    ⟨position, run (c :: t)⟩ ∈ found ++ scan (position + (c :: t).length) stillFree (c :: t) ↔ stillFree = true := by
  have nonempty : 0 < (run (c :: t)).length := by
    rw [run_eq, chunk_cons (by simp [other])]
    exact Nat.succ_pos _
  constructor
  · intro member
    rcases List.mem_append.mp member with earlier | later
    · have stop : position + (run (c :: t)).length ≤ position := stops _ earlier
      omega
    · by_contra taken
      rw [Bool.not_eq_true] at taken
      rw [taken, scan_taken other] at later
      have start : position + (t.length + 1) - t.length ≤ position := le_start_of_mem_scan later
      omega
  · rintro rfl
    rw [scan_numeric other numeric, Nat.add_sub_cancel]
    exact List.mem_append_right found List.mem_cons_self

end Scan

theorem IsRunBetween.exists_front {front x back : Text} (isRun : IsRunBetween front x back) :
    ∃ c t, x ++ back = c :: t ∧ isSeparator c = false ∧ IsNumeric (chunk (c :: t)) ∧ run (c :: t) = x := by
  obtain ⟨chunks, nonempty, numeric, spelled⟩ := isRun.chunks
  have ends := endsRun_of_last isRun.ends isRun.last
  have runs : IsRun x := spelled ▸ isRun_unwords nonempty numeric
  have own := runs.run_append ends
  have isNumeric := (runs back ends).1
  cases same : x ++ back with
  | nil =>
    rw [same] at isNumeric
    exact absurd isNumeric not_isNumeric_nil
  | cons c t =>
    rw [same] at own isNumeric
    cases separator : isSeparator c with
    | true => exact absurd isNumeric (not_isNumeric_chunk (t := c :: t) separator)
    | false => exact ⟨c, t, rfl, separator, isNumeric, own⟩

/-- A run of numeric chunks is found exactly if no numeral ends right before the separators in front of it. Of two runs
with nothing but separators between them, the second is therefore not found if the first is, however many separators
there are. -/
theorem run_found_iff {front x back : Text} (isRun : IsRunBetween front x back) :
    ((⟨front.length, x⟩ : Numeral) ∈ findAll (front ++ (x ++ back)) ↔
      ∀ n ∈ findAll (front ++ (x ++ back)), n.stop ≤ front.length → ∃ c ∈ front.drop n.stop, isSeparator c = false) ∧
    ∀ before first gap, front = before ++ (first ++ gap) → (∀ c ∈ gap, isSeparator c = true) →
      (⟨before.length, first⟩ : Numeral) ∈ findAll (front ++ (x ++ back)) →
        (⟨front.length, x⟩ : Numeral) ∉ findAll (front ++ (x ++ back)) := by
  obtain ⟨c, t, same, other, numeric, own⟩ := isRun.exists_front
  have text : endsChunk (c :: t) = false := other
  obtain ⟨found, stillFree, scanned, stops, lost⟩ :=
    exists_scan_append text isRun.begins isRun.first true [] front rfl fun _ => rfl
  have all : findAll (front ++ (x ++ back)) =
      found ++ scan (front.length + (c :: t).length) stillFree (c :: t) := by
    rw [findAll_eq, same, ← scanned, List.length_append]
  have free : (⟨front.length, x⟩ : Numeral) ∈ findAll (front ++ (x ++ back)) ↔ stillFree = true := by
    rw [all, ← own]
    exact run_mem_scan_iff other numeric stops
  have isFound : (⟨front.length, x⟩ : Numeral) ∈ findAll (front ++ (x ++ back)) ↔
      ∀ n ∈ findAll (front ++ (x ++ back)), n.stop ≤ front.length →
        ∃ c ∈ front.drop n.stop, isSeparator c = false := by
    rw [free]
    constructor
    · rintro rfl n member stop
      by_contra together
      have separators : ∀ c ∈ front.drop n.stop, isSeparator c = true := by simpa using together
      rcases List.mem_append.mp (all ▸ member) with earlier | later
      · exact absurd (lost.mpr (.inr ⟨n, earlier, separators⟩)) (by simp)
      · have start := le_start_of_mem_scan later
        have nonempty := (standsIn_of_mem_findAll member).slice.2.1
        omega
    · intro apart
      by_contra taken
      rcases lost.mp (by simpa using taken) with ⟨-, impossible⟩ | ⟨n, inside, separators⟩
      · cases impossible
      · obtain ⟨c, between, other⟩ := apart n (all ▸ List.mem_append_left _ inside) (stops n inside)
        rw [separators c between] at other
        cases other
  refine ⟨isFound, fun before first gap split separators firstFound later => ?_⟩
  have stop : (⟨before.length, first⟩ : Numeral).stop = (before ++ first).length := List.length_append.symm
  obtain ⟨c, inside, other⟩ := isFound.mp later _ firstFound (by rw [stop, split]; simp)
  rw [stop, split, ← List.append_assoc, List.drop_left] at inside
  rw [separators c inside] at other
  cases other

/-- Both spaces belong to `iki`. -/
theorem run_found_iff_two_spaces :
    IsRunBetween "iki  ".toList "üç".toList [] ∧
      (⟨0, "iki".toList⟩ : Numeral) ∈ findAll "iki  üç".toList ∧
      (⟨5, "üç".toList⟩ : Numeral) ∉ findAll "iki  üç".toList := by
  have isRun : IsRunBetween "iki  ".toList "üç".toList [] := by
    refine ⟨⟨["üç".toList], by decide, by decide, rfl⟩, by decide, rfl, ?_, fun _ _ absent => nomatch absent⟩
    intro earlier chunk split _ numeric
    -- what stands before the last space ends with a space
    have spaced : earlier ++ chunk = "iki ".toList :=
      (List.append_left_inj [' ']).mp (by rw [List.append_assoc, ← split]; rfl)
    have nonempty : chunk ≠ [] := fun empty => not_isNumeric_nil (empty ▸ numeric)
    have last : chunk.getLast? = some ' ' := by
      have whole := congrArg List.getLast? spaced
      rwa [List.getLast?_append_of_ne_nil _ nonempty] at whole
    exact absurd (numeric.isWhole ' ' (List.mem_of_getLast? last)) (by decide)
  have first : (⟨0, "iki".toList⟩ : Numeral) ∈ findAll "iki  üç".toList := by decide
  exact ⟨isRun, first, (run_found_iff isRun).2 [] "iki".toList "  ".toList rfl (by simp [isSeparator]) first⟩

end Numeral

end TurkishDates
