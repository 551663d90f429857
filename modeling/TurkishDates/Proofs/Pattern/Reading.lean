import TurkishDates.Pattern.Basic

/-!
What a shape reads, apart from marks and preferences. `Shape.Reads` says which texts a shape can
read when a given text follows. Reading with a continuation always comes from such a text, and a
match of a pattern from such texts for all of its pieces.
-/

namespace TurkishDates

namespace Marked

@[simp] theorem text_nil {α : Type} : text ([] : Marked α) = [] := rfl

@[simp] theorem text_cons {α : Type} (place : Char × α) (t : Marked α) :
    text (place :: t) = place.1 :: text t := rfl

@[simp] theorem text_append {α : Type} (s t : Marked α) : text (s ++ t) = text s ++ text t :=
  List.map_append

@[simp] theorem length_text {α : Type} (t : Marked α) : (text t).length = t.length :=
  List.length_map _

@[simp] theorem text_ofText (t : Text) : text (ofText t) = t := by
  simp [text, ofText, Function.comp_def]

theorem before_append {α : Type} (x rest : Marked α) : before (x ++ rest) rest = text x := by
  simp [before]

end Marked

/-- One or more rounds in a row, each read in the text that the rounds before it leave. -/
inductive Rounds (reads : Text → Text → Prop) : Text → Text → Prop where
  | last {x rest : Text} (round : reads x rest) : Rounds reads x rest
  | next {x y rest : Text} (round : reads x (y ++ rest)) (later : Rounds reads y rest) :
      Rounds reads (x ++ y) rest

namespace Shape

/-- Whether the shape can read the first text when the second follows it. -/
def Reads : Shape → Text → Text → Prop
  | .word letters, x, _ => x = letters
  | .oneOf letters, x, _ => ∃ c ∈ letters, x = [c]
  | .atEnd, x, rest => x = [] ∧ rest = []
  | .seq first second, x, rest =>
      ∃ y z, x = y ++ z ∧ first.Reads y (z ++ rest) ∧ second.Reads z rest
  | .alt first second, x, rest => first.Reads x rest ∨ second.Reads x rest
  | .plus inner, x, rest => Rounds inner.Reads x rest

end Shape

namespace Marked

theorem eq_append_of_afterWord {α : Type} {letters : Text} {t rest : Marked α}
    (found : afterWord letters t = some rest) : ∃ x, t = x ++ rest ∧ text x = letters := by
  induction letters generalizing t with
  | nil =>
    simp only [afterWord, Option.some.injEq] at found
    exact ⟨[], by simp [found]⟩
  | cons letter letters ih =>
    cases t with
    | nil => simp [afterWord] at found
    | cons place t =>
      obtain ⟨c, mark⟩ := place
      simp only [afterWord] at found
      split at found
      next same =>
        obtain ⟨x, rfl, spelled⟩ := ih found
        exact ⟨(c, mark) :: x, by simp [same, spelled]⟩
      next => cases found

theorem rounds_of_readRun {α β : Type} {letters : List Char} {next : Marked α → Option β}
    {t : Marked α} {answer : β} (found : readRun letters next t = some answer) :
    ∃ x rest, t = x ++ rest ∧ Rounds (Shape.oneOf letters).Reads (text x) (text rest) ∧
      next rest = some answer := by
  induction t with
  | nil => simp [readRun] at found
  | cons place t ih =>
    obtain ⟨c, mark⟩ := place
    simp only [readRun] at found
    split at found
    next member =>
      have single (rest : Text) : (Shape.oneOf letters).Reads [c] rest :=
        ⟨c, by simpa using member, rfl⟩
      split at found
      next longer =>
        cases found
        obtain ⟨x, rest, rfl, rounds, accepted⟩ := ih longer
        exact ⟨(c, mark) :: x, rest, rfl, .next (single _) rounds, accepted⟩
      next => exact ⟨[(c, mark)], t, rfl, .last (single _), found⟩
    next => cases found

/-- A function that puts new marks on a text, each by what stands there and after it. -/
structure Remarks {α β : Type} (remark : Marked α → Marked β) : Prop where
  atEnd : remark [] = []
  atPlace : ∀ place t, ∃ mark, remark (place :: t) = (place.1, mark) :: remark t

theorem Remarks.text {α β : Type} {remark : Marked α → Marked β} (remarks : Remarks remark)
    (t : Marked α) : text (remark t) = text t := by
  induction t with
  | nil => rw [remarks.atEnd, text_nil, text_nil]
  | cons place t ih =>
    obtain ⟨mark, marked⟩ := remarks.atPlace place t
    rw [marked, text_cons, text_cons, ih]

theorem Remarks.exists_split {α β : Type} {remark : Marked α → Marked β} (remarks : Remarks remark)
    {t : Marked α} {x rest : Marked β} (split : remark t = x ++ rest) :
    ∃ y z, t = y ++ z ∧ Marked.text y = Marked.text x ∧ rest = remark z := by
  induction t generalizing x with
  | nil =>
    rw [remarks.atEnd] at split
    obtain ⟨rfl, rfl⟩ := List.append_eq_nil_iff.mp split.symm
    exact ⟨[], [], rfl, rfl, remarks.atEnd.symm⟩
  | cons place t ih =>
    cases x with
    | nil => exact ⟨[], place :: t, rfl, rfl, split.symm⟩
    | cons first x =>
      obtain ⟨mark, marked⟩ := remarks.atPlace place t
      rw [marked] at split
      obtain ⟨rfl, later⟩ := List.cons.inj split
      obtain ⟨y, z, rfl, spelled, remaining⟩ := ih later
      exact ⟨place :: y, z, rfl, by simp [spelled], remaining⟩

theorem remarks_answers {α β : Type} (read : Marked α → Option β) : Remarks (answers read) :=
  ⟨rfl, fun _ _ => ⟨_, rfl⟩⟩

theorem remarks_repetitions {α β : Type} (round : Marked (Thunk (Option β)) → Option β)
    (leave : Marked α → Option β) : Remarks (repetitions round leave) :=
  ⟨rfl, fun _ _ => ⟨_, rfl⟩⟩

end Marked

namespace Shape

/-- A first round at the front of a text whose other places are marked with the answers of further
rounds. The induction is on the text after that front: a round cannot stay where it begins, since the
mark there is `none`. -/
theorem rounds_of_first_round {α β : Type} {inner : Shape} {next : Marked α → Option β} {answer : β}
    (sound : ∀ t : Marked (Thunk (Option β)), inner.read (Marked.answerAt (next [])) t = some answer →
      ∃ x rest, t = x ++ rest ∧ inner.Reads (Marked.text x) (Marked.text rest) ∧
        Marked.answerAt (next []) rest = some answer)
    (c : Char) (mark : α) (t : Marked α)
    (found : inner.read (Marked.answerAt (next [])) ((c, Thunk.pure none) ::
      Marked.repetitions (inner.read (Marked.answerAt (next []))) next t) = some answer) :
    ∃ x rest, (c, mark) :: t = x ++ rest ∧ Rounds inner.Reads (Marked.text x) (Marked.text rest) ∧
      next rest = some answer := by
  induction size : t.length using Nat.strongRecOn generalizing c mark t with
  | ind size ih =>
    obtain ⟨x, rest, split, round, answered⟩ := sound _ found
    cases x with
    | nil =>
      rw [List.nil_append] at split
      rw [← split] at answered
      cases answered
    | cons first x =>
      obtain ⟨rfl, later⟩ := List.cons.inj split
      obtain ⟨y, z, rfl, spelled, rfl⟩ := (Marked.remarks_repetitions _ _).exists_split later
      rw [Marked.text_cons, ← spelled, (Marked.remarks_repetitions _ _).text] at round
      cases z with
      | nil => exact ⟨(c, mark) :: y, [], rfl, .last round, answered⟩
      | cons place z =>
        obtain ⟨d, other⟩ := place
        simp only [Marked.repetitions, Marked.answerAt, Thunk.get] at answered
        split at answered
        next again =>
          cases answered
          obtain ⟨w, rest, remaining, rounds, accepted⟩ :=
            ih z.length (by rw [← size]; simp; omega) d other z again rfl
          refine ⟨(c, mark) :: y ++ w, rest, by simp [remaining], ?_, accepted⟩
          rw [Marked.text_append]
          exact .next (by rw [← Marked.text_append, ← remaining]; exact round) rounds
        next => exact ⟨(c, mark) :: y, (d, other) :: z, rfl, .last round, answered⟩

/-- Runs of single characters are read by themselves, all other repetitions round by round. -/
theorem run_or_first_round_of_read_plus {inner : Shape} {α β : Type} {next : Marked α → Option β}
    {t : Marked α} {answer : β} (found : (Shape.plus inner).read next t = some answer) :
    (∃ letters, inner = .oneOf letters ∧ Marked.readRun letters next t = some answer) ∨
      ∃ c mark later, t = (c, mark) :: later ∧
        inner.read (Marked.answerAt (next [])) ((c, Thunk.pure none) ::
          Marked.repetitions (inner.read (Marked.answerAt (next []))) next later) = some answer := by
  by_cases single : ∃ letters, inner = .oneOf letters
  · obtain ⟨letters, rfl⟩ := single
    exact .inl ⟨letters, rfl, by simpa only [read] using found⟩
  · have compound (letters : List Char) (same : inner = .oneOf letters) : False :=
      single ⟨letters, same⟩
    cases t with
    | nil =>
      rw [read] at found
      · cases found
      · exact compound
    | cons place later =>
      obtain ⟨c, mark⟩ := place
      rw [read] at found
      · split at found
        next => exact .inr ⟨c, mark, later, rfl, found⟩
        next => cases found
      · exact compound

/-- An answer of the continuation comes from a text that the shape can read. -/
theorem exists_reads_of_read (shape : Shape) {α β : Type} {next : Marked α → Option β} {t : Marked α}
    {answer : β} (found : shape.read next t = some answer) :
    ∃ x rest, t = x ++ rest ∧ shape.Reads (Marked.text x) (Marked.text rest) ∧
      next rest = some answer := by
  induction shape generalizing α β next t answer with
  | word letters =>
    simp only [read] at found
    split at found
    next rest remaining =>
      obtain ⟨x, rfl, spelled⟩ := Marked.eq_append_of_afterWord remaining
      exact ⟨x, rest, rfl, spelled, found⟩
    next => cases found
  | oneOf letters =>
    cases t with
    | nil => simp [read] at found
    | cons place t =>
      obtain ⟨c, mark⟩ := place
      simp only [read] at found
      split at found
      next member => exact ⟨[(c, mark)], t, rfl, ⟨c, by simpa using member, rfl⟩, found⟩
      next => cases found
  | atEnd =>
    simp only [read] at found
    split at found
    next finished =>
      obtain rfl := List.isEmpty_iff.mp finished
      exact ⟨[], [], rfl, ⟨rfl, rfl⟩, found⟩
    next => cases found
  | seq first second ihFirst ihSecond =>
    simp only [read] at found
    obtain ⟨x, middle, rfl, firstReads, remaining⟩ := ihFirst found
    obtain ⟨y, rest, rfl, secondReads, accepted⟩ := ihSecond remaining
    refine ⟨x ++ y, rest, by simp, ⟨Marked.text x, Marked.text y, by simp, ?_, secondReads⟩, accepted⟩
    rw [← Marked.text_append]
    exact firstReads
  | alt first second ihFirst ihSecond =>
    simp only [read] at found
    split at found
    next preferred =>
      cases found
      obtain ⟨x, rest, split, reads, accepted⟩ := ihFirst preferred
      exact ⟨x, rest, split, .inl reads, accepted⟩
    next =>
      obtain ⟨x, rest, split, reads, accepted⟩ := ihSecond found
      exact ⟨x, rest, split, .inr reads, accepted⟩
  | plus inner ih =>
    rcases run_or_first_round_of_read_plus found with ⟨letters, rfl, run⟩ | ⟨c, mark, t, rfl, round⟩
    · exact Marked.rounds_of_readRun run
    · exact rounds_of_first_round (fun t found => ih found) c mark t round

end Shape

namespace Pattern

def PiecesRead : List Piece → List Text → Text → Text → Prop
  | [], kept, x, _ => kept = [] ∧ x = []
  | .skip shape :: pieces, kept, x, rest =>
      ∃ y z, x = y ++ z ∧ shape.Reads y (z ++ rest) ∧ PiecesRead pieces kept z rest
  | .keep shape :: pieces, kept, x, rest =>
      ∃ y z later, kept = y :: later ∧ x = y ++ z ∧ shape.Reads y (z ++ rest) ∧
        PiecesRead pieces later z rest

def Reads (pattern : Pattern) : List Text → Text → Text → Prop := PiecesRead pattern.pieces

theorem exists_piecesRead_of_readPieces {α : Type} {accept : Marked α → Bool} {pieces : List Piece}
    {t : Marked α} {found : Found α} (read : readPieces accept pieces t = some found) :
    ∃ x, t = x ++ found.rest ∧
      PiecesRead pieces found.kept (Marked.text x) (Marked.text found.rest) ∧
      accept found.rest = true := by
  induction pieces generalizing t found with
  | nil =>
    simp only [readPieces] at read
    split at read
    next accepted =>
      cases read
      exact ⟨[], rfl, ⟨rfl, rfl⟩, accepted⟩
    next => cases read
  | cons piece pieces ih =>
    cases piece with
    | skip shape =>
      obtain ⟨x, middle, rfl, first, later⟩ := shape.exists_reads_of_read read
      obtain ⟨y, rfl, others, accepted⟩ := ih later
      refine ⟨x ++ y, by simp, ⟨Marked.text x, Marked.text y, by simp, ?_, others⟩, accepted⟩
      rw [← Marked.text_append]
      exact first
    | keep shape =>
      obtain ⟨x, middle, rfl, first, later⟩ := shape.exists_reads_of_read read
      obtain ⟨inner, innerRead, rfl⟩ := Option.map_eq_some_iff.mp later
      obtain ⟨y, rfl, others, accepted⟩ := ih innerRead
      refine ⟨x ++ y, by simp, ⟨Marked.text x, Marked.text y, inner.kept, ?_, by simp, ?_, others⟩,
        accepted⟩
      · rw [Marked.before_append]
      · rw [← Marked.text_append]
        exact first

theorem reads_of_match? {pattern : Pattern} {t : Text} {kept : List Text}
    (matched : pattern.match? t = some kept) : pattern.Reads kept t [] := by
  obtain ⟨found, read, rfl⟩ := Option.map_eq_some_iff.mp matched
  obtain ⟨x, split, reads, finished⟩ := exists_piecesRead_of_readPieces read
  rw [List.isEmpty_iff.mp finished] at split reads
  rw [List.append_nil] at split
  rw [← split, Marked.text_ofText] at reads
  exact reads

theorem exists_reads_of_matchFront? {α : Type} {pattern : Pattern} {t : Marked α} {found : Found α}
    (matched : pattern.matchFront? t = some found) :
    ∃ x, t = x ++ found.rest ∧ pattern.Reads found.kept (Marked.text x) (Marked.text found.rest) := by
  obtain ⟨x, split, reads, -⟩ := exists_piecesRead_of_readPieces matched
  exact ⟨x, split, reads⟩

def shape (pattern : Pattern) : Shape :=
  pattern.pieces.foldr (fun
    | .skip shape | .keep shape => shape.seq) Shape.empty

theorem shape_reads_of_reads {pattern : Pattern} {kept : List Text} {x rest : Text}
    (reads : pattern.Reads kept x rest) : pattern.shape.Reads x rest := by
  obtain ⟨pieces⟩ := pattern
  simp only [Reads, shape] at reads ⊢
  induction pieces generalizing kept x with
  | nil => exact reads.2
  | cons piece pieces ih =>
    cases piece with
    | skip shape =>
      obtain ⟨y, z, rfl, first, others⟩ := reads
      exact ⟨y, z, rfl, first, ih others⟩
    | keep shape =>
      obtain ⟨y, z, later, -, rfl, first, others⟩ := reads
      exact ⟨y, z, rfl, first, ih others⟩

end Pattern

end TurkishDates
