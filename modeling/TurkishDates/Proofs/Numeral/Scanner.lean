import TurkishDates.Proofs.Numeral.Chunks
import TurkishDates.Proofs.Numeral.Places

/-!
The search for numerals is a plain scan. It takes the run of numeric chunks wherever a numeric chunk is
free, which it is at the beginning of the text and behind a separator that no numeral has taken.
-/

namespace TurkishDates

namespace Numeral

open Shape

theorem length_afterChunk_lt {c : Char} {t : Text} (other : isSeparator c = false) :
    (afterChunk (c :: t)).length < (c :: t).length := by
  rw [afterChunk, List.dropWhile_cons_of_pos (by simp [other])]
  exact Nat.lt_succ_of_le (afterChunk_suffix t).length_le

theorem length_afterRun_lt {c : Char} {t : Text} (other : isSeparator c = false) :
    (afterRun (c :: t)).length < (c :: t).length :=
  Nat.lt_of_le_of_lt (afterJoined_suffix _).length_le (length_afterChunk_lt other)

/-- The numerals of `t`, when it is what remains of a text of `length` characters, and whether a chunk at
its front is free. The separators behind a numeral belong to it, so the next chunk is not free. -/
def scan (length : Nat) (free : Bool) : Text → List Numeral
  | [] => []
  | c :: t =>
      if isSeparator c then scan length true t
      else if free = true ∧ IsNumeric (chunk (c :: t)) then
        ⟨length - (c :: t).length, run (c :: t)⟩ ::
          scan length false (afterSeparators (afterRun (c :: t)))
      else scan length false (afterChunk (c :: t))
termination_by t => t.length
decreasing_by
  · exact Nat.lt_succ_self t.length
  · exact Nat.lt_of_le_of_lt (afterSeparators_suffix _).length_le
      (length_afterRun_lt (by simpa using ‹¬isSeparator c = true›))
  · exact length_afterChunk_lt (by simpa using ‹¬isSeparator c = true›)

theorem rests_separators_cons (c : Char) (t : Text) :
    separators.rests (c :: t) = if isSeparator c then separators.rests t ++ [t] else [] := by
  have round : (anyChar " ;:").rests (c :: t) = if isSeparator c then [t] else [] := rfl
  rw [separators, rests_plus, round]
  cases isSeparator c with
  | true =>
    rw [if_pos rfl, List.filter_cons_of_pos (by simp), List.filter_nil, List.flatMap_singleton, if_pos rfl]
  | false => rfl

theorem findSome?_rests_separators {β : Type} {next : Text → Option β}
    (settled : ∀ c t, isSeparator c = true →
      (next (afterSeparators t)).or (next (c :: t)) = next (afterSeparators t)) {c : Char} (t : Text)
    (separator : isSeparator c = true) :
    (separators.rests (c :: t)).findSome? next = next (afterSeparators t) := by
  induction t generalizing c with
  | nil =>
    rw [rests_separators_cons, if_pos separator]
    exact List.findSome?_singleton
  | cons d t ih =>
    rw [rests_separators_cons, if_pos separator, List.findSome?_append, List.findSome?_singleton]
    cases again : isSeparator d with
    | true =>
      rw [ih again, afterSeparators_cons again]
      exact settled d t again
    | false =>
      rw [rests_separators_cons, again, afterSeparators_of_not again]
      rfl

theorem read_closing {α : Type} (t : Marked α) :
    (Shape.alt separators .atEnd).read (fun rest => some (Found.mk [] rest)) t =
      if endsChunk (Marked.text t) then some ⟨[], t.left (afterSeparators (Marked.text t))⟩ else none := by
  rw [read_eq_findSome?, rests, List.findSome?_append]
  cases Marked.text t with
  | nil => rfl
  | cons c u =>
    cases separator : isSeparator c with
    | true =>
      rw [findSome?_rests_separators (fun c t separator => rfl) u separator, endsChunk_cons, separator,
        afterSeparators_cons separator]
      rfl
    | false =>
      rw [rests_separators_cons, separator, endsChunk_cons, separator]
      rfl

/-- The numeral at the front of what remains of a text of `length` characters, and the number of
characters left behind its separators. -/
def front? (length : Nat) (t : Text) : Option (Numeral × Nat) :=
  if IsNumeric (chunk t) then
    some (⟨length - t.length, run t⟩, (afterSeparators (afterRun t)).length)
  else none

theorem matchFront?_closed (t : Marked Unit) :
    closed.matchFront? t =
      if IsNumeric (chunk (Marked.text t)) then
        some ⟨[run (Marked.text t)], t.left (afterSeparators (afterRun (Marked.text t)))⟩
      else none := by
  let next (rest : Text) : Option (Found Unit) :=
    if endsChunk rest then some ⟨[Marked.before t (t.left rest)], t.left (afterSeparators rest)⟩ else none
  have reads : closed.matchFront? t = (body.rests (Marked.text t)).findSome? next := by
    show body.read (fun rest => ((Shape.alt separators .atEnd).read
      (fun rest => some (Found.mk [] rest)) rest).map fun found =>
        { found with kept := Marked.before t rest :: found.kept }) t = _
    rw [read_eq_findSome?]
    refine findSome?_congr_mem fun rest member => ?_
    have suffix := suffix_of_mem_rests member
    rw [read_closing, Marked.text_left suffix]
    cases ends : endsChunk rest with
    | true =>
      simp only [next, ends, if_true, Option.map_some]
      rw [Marked.left_left suffix (afterSeparators_suffix rest)]
    | false => simp [next, ends]
  have within (rest : Text) (inside : endsChunk rest = false) : next rest = none := by
    simp [next, inside]
  have border (rest : Text) (ends : endsChunk rest = true) : (next rest).isSome := by
    simp [next, ends]
  rw [reads, findSome?_rests_body within border]
  simp only [next, endsChunk_afterRun, if_true, Marked.before_left (afterRun_suffix _)]
  rfl

theorem beginning?_eq (length : Nat) (t : Marked Unit) :
    beginning? length t = front? length (Marked.text t) := by
  have suffix : afterSeparators (afterRun (Marked.text t)) <:+ Marked.text t :=
    (afterSeparators_suffix _).trans (afterRun_suffix _)
  rw [beginning?, matchFront?_closed, front?, Marked.length_text]
  by_cases numeric : IsNumeric (chunk (Marked.text t))
  · rw [if_pos numeric, if_pos numeric, ← Marked.length_left suffix]
  · rw [if_neg numeric, if_neg numeric]

theorem front?_of_endsChunk {length : Nat} {t : Text} (ends : endsChunk t = true) :
    front? length t = none := if_neg (not_isNumeric_chunk ends)

theorem drop_answers {α β : Type} (read : Marked α → Option β) (t : Marked α) (n : Nat) :
    (Marked.answers read t).drop n = Marked.answers read (t.drop n) := by
  induction t generalizing n with
  | nil => rw [Marked.answers, List.drop_nil, List.drop_nil, Marked.answers]
  | cons place t ih =>
    cases n with
    | zero => rfl
    | succ n => exact ih n

theorem left_answers {α β : Type} (read : Marked α → Option β) (t : Marked α) (rest : Text) :
    (Marked.answers read t).left rest = Marked.answers read (t.left rest) := by
  rw [Marked.left, Marked.length_answers, drop_answers, Marked.left]

theorem answerAt_answers (length : Nat) (t : Marked Unit) :
    Marked.answerAt none (Marked.answers (beginning? length) t) = front? length (Marked.text t) := by
  cases t with
  | nil => exact (front?_of_endsChunk endsChunk_nil).symm
  | cons place t => exact beginning?_eq length (place :: t)

theorem read_lead (length : Nat) (atStart : Bool) (t : Marked Unit) :
    (lead atStart).read (Marked.answerAt none) (Marked.answers (beginning? length) t) =
      ((lead atStart).rests (Marked.text t)).findSome? (front? length) := by
  rw [read_eq_findSome?, (Marked.remarks_answers _).text]
  refine findSome?_congr_mem fun rest member => ?_
  rw [left_answers, answerAt_answers, Marked.text_left (suffix_of_mem_rests member)]

theorem rests_lead_of_separator {length : Nat} {atStart : Bool} {c : Char} {t : Text}
    (separator : isSeparator c = true) :
    ((lead atStart).rests (c :: t)).findSome? (front? length) = front? length (afterSeparators t) := by
  have behind : (separators.rests (c :: t)).findSome? (front? length) =
      front? length (afterSeparators t) :=
    findSome?_rests_separators (fun d u isSeparator => by
      rw [front?_of_endsChunk (t := d :: u) isSeparator, Option.or_none]) t separator
  cases atStart with
  | false => exact behind
  | true =>
    have here : Shape.empty.rests (c :: t) = [c :: t] := by simp [Shape.empty, rests]
    rw [lead, if_pos rfl, rests, here, List.findSome?_append, List.findSome?_singleton,
      front?_of_endsChunk (t := c :: t) separator, Option.none_or, behind]

theorem rests_lead_of_not {length : Nat} {atStart : Bool} {c : Char} {t : Text}
    (other : isSeparator c = false) :
    ((lead atStart).rests (c :: t)).findSome? (front? length) =
      if atStart then front? length (c :: t) else none := by
  have nothing : separators.rests (c :: t) = [] := by rw [rests_separators_cons, other]; rfl
  cases atStart with
  | false =>
    rw [lead, if_neg Bool.false_ne_true, nothing]
    rfl
  | true =>
    have here : Shape.empty.rests (c :: t) = [c :: t] := by simp [Shape.empty, rests]
    rw [lead, if_pos rfl, rests, here, nothing, List.append_nil, List.findSome?_singleton, if_pos rfl]

theorem scan_separator {length : Nat} {free : Bool} {c : Char} {t : Text}
    (separator : isSeparator c = true) : scan length free (c :: t) = scan length true t := by
  rw [scan, if_pos separator]

theorem scan_numeric {length : Nat} {c : Char} {t : Text} (other : isSeparator c = false)
    (numeric : IsNumeric (chunk (c :: t))) :
    scan length true (c :: t) = ⟨length - (c :: t).length, run (c :: t)⟩ ::
      scan length false (afterSeparators (afterRun (c :: t))) := by
  rw [scan, if_neg (by simp [other]), if_pos ⟨rfl, numeric⟩]

@[simp] theorem scan_nil (length : Nat) (free : Bool) : scan length free [] = [] := by
  rw [scan]

theorem scan_passed {length : Nat} {free : Bool} {c : Char} {t : Text} (other : isSeparator c = false)
    (passed : ¬ (free = true ∧ IsNumeric (chunk (c :: t)))) :
    scan length free (c :: t) = scan length false (afterChunk (c :: t)) := by
  rw [scan, if_neg (by simp [other]), if_neg passed]

theorem scan_taken {length : Nat} {c : Char} {t : Text} (other : isSeparator c = false) :
    scan length false (c :: t) = scan length false t := by
  have chunkwise (u : Text) : scan length false u = scan length false (afterChunk u) := by
    cases u with
    | nil => rfl
    | cons d u =>
      cases separator : isSeparator d with
      | true => rw [afterChunk_of_endsChunk (t := d :: u) separator]
      | false => exact scan_passed separator (by simp)
  have same : afterChunk (c :: t) = afterChunk t :=
    afterChunk_append (x := [c]) fun d member => by rwa [List.mem_singleton.mp member]
  rw [chunkwise (c :: t), same, ← chunkwise t]

theorem scan_free {length : Nat} {t : Text} (words : ¬ IsNumeric (chunk t)) :
    scan length true t = scan length false t := by
  cases t with
  | nil => rw [scan_nil, scan_nil]
  | cons c t =>
    cases separator : isSeparator c with
    | true => rw [scan_separator separator, scan_separator separator]
    | false =>
      rw [scan_passed separator fun both => words both.2, scan_passed separator fun both => words both.2]

theorem scan_afterSeparators (length : Nat) (t : Text) :
    scan length true t = scan length true (afterSeparators t) := by
  induction t with
  | nil => rfl
  | cons c t ih =>
    cases separator : isSeparator c with
    | true => rw [scan_separator separator, afterSeparators_cons separator, ih]
    | false => rw [afterSeparators_of_not separator]

def scanOn (length : Nat) (t : Text) : Option (Numeral × Nat) → List Numeral
  | some (numeral, left) => numeral :: scan length false (t.drop (t.length - left))
  | none => scan length false t

theorem scanOn_front? {length : Nat} {r t : Text} (numeric : IsNumeric (chunk r))
    (suffix : afterSeparators (afterRun r) <:+ t) :
    scanOn length t (front? length r) = scan length true r := by
  have rest : t.drop (t.length - (afterSeparators (afterRun r)).length) = afterSeparators (afterRun r) :=
    (List.suffix_iff_eq_drop.mp suffix).symm
  cases r with
  | nil => exact absurd numeric not_isNumeric_nil
  | cons c r =>
    cases separator : isSeparator c with
    | true => exact absurd numeric (not_isNumeric_chunk (t := c :: r) separator)
    | false => rw [front?, if_pos numeric, scanOn, rest, scan_numeric separator numeric]

theorem scan_cons (length : Nat) (free : Bool) (c : Char) (t : Text) :
    scan length free (c :: t) =
      scanOn length t (((lead free).rests (c :: t)).findSome? (front? length)) := by
  cases separator : isSeparator c with
  | true =>
    rw [rests_lead_of_separator separator, scan_separator separator]
    by_cases numeric : IsNumeric (chunk (afterSeparators t))
    · -- the scan comes to the same chunk after the other separators
      have suffix : afterSeparators (afterRun (afterSeparators t)) <:+ t :=
        ((afterSeparators_suffix _).trans (afterRun_suffix _)).trans (afterSeparators_suffix t)
      rw [scanOn_front? numeric suffix, ← scan_afterSeparators]
    · have words : ¬ IsNumeric (chunk t) := by
        cases t with
        | nil => exact not_isNumeric_nil
        | cons d t =>
          cases again : isSeparator d with
          | true => exact not_isNumeric_chunk (t := d :: t) again
          | false => rwa [afterSeparators_of_not again] at numeric
      rw [front?, if_neg numeric, scanOn, scan_free words]
  | false =>
    rw [rests_lead_of_not separator]
    cases free with
    | false => exact scan_taken separator
    | true =>
      rw [if_pos rfl]
      by_cases numeric : IsNumeric (chunk (c :: t))
      · have shorter : (afterSeparators (afterRun (c :: t))).length < (c :: t).length :=
          Nat.lt_of_le_of_lt (afterSeparators_suffix _).length_le (length_afterRun_lt separator)
        have suffix : afterSeparators (afterRun (c :: t)) <:+ t :=
          List.suffix_of_suffix_length_le ((afterSeparators_suffix _).trans (afterRun_suffix _))
            (List.suffix_cons c t) (Nat.le_of_lt_succ shorter)
        rw [scanOn_front? numeric suffix]
      · rw [front?, if_neg numeric, scanOn, scan_free numeric, scan_taken separator]

theorem findFrom_taken (taken : Nat) (t : Marked (Thunk (Option (Numeral × Nat)))) :
    findFrom taken false t = findFrom 0 false (t.drop taken) := by
  induction t generalizing taken with
  | nil => rw [List.drop_nil, findFrom, findFrom]
  | cons place t ih =>
    cases taken with
    | zero => rfl
    | succ taken =>
      obtain ⟨c, mark⟩ := place
      rw [findFrom, List.drop_succ_cons, ih]

/-- The search goes on with the scan of what is left. The induction is on the characters left. -/
theorem findFrom_eq_scan (length : Nat) (atStart : Bool) (t : Marked Unit) :
    findFrom 0 atStart (Marked.answers (beginning? length) t) = scan length atStart (Marked.text t) := by
  induction size : t.length using Nat.strongRecOn generalizing atStart t with
  | ind n ih =>
    cases t with
    | nil => rw [Marked.answers, findFrom, Marked.text_nil, scan_nil]
    | cons place t =>
      obtain ⟨c, mark⟩ := place
      have reading := read_lead length atStart ((c, mark) :: t)
      have onward (passed : Nat) : findFrom 0 false (Marked.answers (beginning? length) (t.drop passed)) =
          scan length false ((Marked.text t).drop passed) := by
        have shorter : (t.drop passed).length < n := by
          rw [← size, List.length_cons, List.length_drop]
          omega
        rw [ih _ shorter false (t.drop passed) rfl, Marked.text, List.map_drop, Marked.text]
      rw [Marked.text_cons, scan_cons, ← Marked.text_cons (c, mark) t, ← reading, Marked.answers, findFrom]
      split
      next numeral left found =>
        rw [found, scanOn, findFrom_taken, drop_answers, Marked.length_answers, onward,
          Marked.length_text]
      next found =>
        rw [found, scanOn]
        exact onward 0

theorem findAll_eq (t : Text) : findAll t = scan t.length true t := by
  have found := findFrom_eq_scan t.length true (Marked.ofText t)
  rwa [Marked.text_ofText] at found

theorem StandsIn.slice {n : Numeral} {t : Text} (stands : n.StandsIn t) :
    n.text = (t.drop n.start).take (n.stop - n.start) ∧ n.start < n.stop ∧ n.stop ≤ t.length := by
  obtain ⟨front, back, rfl, placed, reads⟩ := stands
  have nonempty : n.text ≠ [] := by
    intro empty
    rw [empty] at reads
    cases readsNothing_of_reads reads
  have size : n.stop - n.start = n.text.length := by
    unfold stop
    omega
  refine ⟨?_, ?_, ?_⟩
  · rw [size, ← placed, List.append_assoc, List.drop_left, List.take_left]
  · exact Nat.lt_add_of_pos_right (List.length_pos_iff.mpr nonempty)
  · rw [stop, List.length_append, List.length_append, placed]
    exact Nat.le_add_right _ _

/-- The search for numerals is the scan. Each numeral is the part of the text between its start and its
stop, and the numerals come from left to right without overlapping. -/
theorem findAll_eq_scan (t : Text) :
    findAll t = scan t.length true t ∧
      (∀ n ∈ findAll t, n.text = (t.drop n.start).take (n.stop - n.start) ∧
        n.start < n.stop ∧ n.stop ≤ t.length) ∧
      (findAll t).Pairwise fun m n => m.stop ≤ n.start :=
  ⟨findAll_eq t, fun _ member => (standsIn_of_mem_findAll member).slice, pairwise_findAll t⟩

/-- The semicolon belongs to `iki`, so `üç` is not free. -/
theorem findAll_eq_scan_taken_separator :
    scan 14 true "iki;üç bin  üç".toList =
      [⟨0, "iki".toList⟩, ⟨7, "bin".toList⟩] :=
  (findAll_eq_scan "iki;üç bin  üç".toList).1.symm.trans (by decide)

end Numeral

end TurkishDates
