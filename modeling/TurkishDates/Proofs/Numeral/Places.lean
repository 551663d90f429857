import TurkishDates.Numeral.Search
import TurkishDates.Proofs.Pattern.Reading

/-!
Where the numerals of a text stand. Each is found at its place and reads as the body of a numeral, and
none begins before the one in front of it ends.
-/

namespace TurkishDates

theorem Marked.length_answers {α β : Type} (read : Marked α → Option β) (t : Marked α) :
    (answers read t).length = t.length := by
  rw [← length_text, (remarks_answers read).text, length_text]

theorem Marked.read_of_answerAt_answers {α β : Type} {read : Marked α → Option β} {t : Marked α}
    {answer : β} (answered : answerAt none (answers read t) = some answer) : read t = some answer := by
  cases t with
  | nil => cases answered
  | cons place t => exact answered

namespace Numeral

/-- The numeral is what the text has at its place, and reads as the body of a numeral there. -/
def StandsIn (n : Numeral) (t : Text) : Prop :=
  ∃ front back, t = front ++ n.text ++ back ∧ front.length = n.start ∧ body.Reads n.text back

theorem reads_of_beginning? {length : Nat} {t : Marked Unit} {n : Numeral} {left : Nat}
    (found : beginning? length t = some (n, left)) :
    ∃ back, Marked.text t = n.text ++ back ∧ body.Reads n.text back ∧ left ≤ back.length ∧
      n.start = length - t.length := by
  simp only [beginning?] at found
  split at found
  next text rest matched =>
    cases found
    obtain ⟨x, rfl, reads⟩ := Pattern.exists_reads_of_matchFront? matched
    obtain ⟨y, separated, later, same, spelled, bodyReads, -⟩ := reads
    obtain ⟨rfl, -⟩ := List.cons.inj same
    refine ⟨separated ++ Marked.text rest, ?_, bodyReads, ?_, rfl⟩
    · rw [Marked.text_append, spelled, List.append_assoc]
    · rw [List.length_append, Marked.length_text]
      omega
  next => cases found

/-- After what has to stand before a numeral, the marks tell the numeral that begins there. -/
theorem exists_beginning?_of_lead {length : Nat} {atStart : Bool} {t : Marked Unit}
    {answer : Numeral × Nat}
    (found : (lead atStart).read (Marked.answerAt none) (Marked.answers (beginning? length) t) =
      some answer) :
    ∃ x rest, t = x ++ rest ∧ beginning? length rest = some answer := by
  obtain ⟨x, marks, split, -, answered⟩ := (lead atStart).exists_reads_of_read found
  obtain ⟨y, rest, rfl, -, rfl⟩ := (Marked.remarks_answers _).exists_split split
  exact ⟨y, rest, rfl, Marked.read_of_answerAt_answers answered⟩

/-- The numerals found from a place on stand in the text behind the characters that are taken, and none
begins before the one in front of it ends. The induction is on the text from that place on. -/
theorem findFrom_spec {t : Text} (front rest : Marked Unit)
    (split : Marked.ofText t = front ++ rest) (taken : Nat) (atStart : Bool) :
    (∀ n ∈ findFrom taken atStart (Marked.answers (beginning? t.length) rest),
      n.StandsIn t ∧ front.length + taken ≤ n.start) ∧
    (findFrom taken atStart (Marked.answers (beginning? t.length) rest)).Pairwise
      fun m n => m.stop ≤ n.start := by
  induction rest generalizing front taken atStart with
  | nil => exact ⟨fun n absent => absurd absent List.not_mem_nil, List.Pairwise.nil⟩
  | cons place rest ih =>
    have split' : Marked.ofText t = (front ++ [place]) ++ rest := by simpa using split
    have later (taken' : Nat) := ih (front ++ [place]) split' taken' false
    simp only [List.length_append, List.length_singleton] at later
    cases taken with
    | succ taken =>
      obtain ⟨stand, apart⟩ := later taken
      refine ⟨fun n member => ⟨(stand n member).1, ?_⟩, apart⟩
      have behind := (stand n member).2
      omega
    | zero =>
      simp only [Marked.answers, findFrom]
      split
      next n left found =>
        obtain ⟨x, w, same, begins⟩ := exists_beginning?_of_lead (t := place :: rest) found
        obtain ⟨back, spelled, reads, few, start⟩ := reads_of_beginning? begins
        obtain ⟨stand, apart⟩ := later (rest.length - left)
        have placed : t = Marked.text (front ++ x) ++ n.text ++ back := calc
          t = Marked.text (front ++ place :: rest) := by rw [← split, Marked.text_ofText]
          _ = Marked.text (front ++ x) ++ Marked.text w := by
            rw [same, ← List.append_assoc, Marked.text_append]
          _ = _ := by rw [spelled, List.append_assoc]
        have whole := congrArg List.length placed
        have tail := congrArg List.length spelled
        have remaining := congrArg List.length same
        simp only [List.length_append, List.length_cons, Marked.length_text] at whole tail remaining
        rw [Marked.length_answers]
        constructor
        · intro m member
          rcases List.mem_cons.mp member with rfl | member
          · refine ⟨⟨_, back, placed, ?_, reads⟩, by omega⟩
            rw [Marked.length_text, List.length_append]
            omega
          · have behind := (stand m member).2
            exact ⟨(stand m member).1, by omega⟩
        · refine List.pairwise_cons.mpr ⟨fun m member => ?_, apart⟩
          have behind := (stand m member).2
          unfold stop
          omega
      next =>
        obtain ⟨stand, apart⟩ := later 0
        refine ⟨fun n member => ⟨(stand n member).1, ?_⟩, apart⟩
        have behind := (stand n member).2
        omega

theorem standsIn_of_mem_findAll {t : Text} {n : Numeral} (member : n ∈ findAll t) : n.StandsIn t :=
  ((findFrom_spec [] (Marked.ofText t) rfl 0 true).1 n member).1

theorem pairwise_findAll (t : Text) : (findAll t).Pairwise fun m n => m.stop ≤ n.start :=
  (findFrom_spec [] (Marked.ofText t) rfl 0 true).2

end Numeral

end TurkishDates
