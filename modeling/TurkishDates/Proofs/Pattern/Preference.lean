import Mathlib.Data.List.Basic
import TurkishDates.Proofs.Pattern.Reading

/-!
The readings of a shape in their order of preference. A reading is told by what it leaves of the text, so
a shape turns a text into the list of its rests. Reading with a continuation is asking the continuation
about these rests one after the other; marks are a way to ask it about no place twice.
-/

namespace TurkishDates

theorem findSome?_flatMap {α β γ : Type} (f : β → Option γ) (g : α → List β) (l : List α) :
    (l.flatMap g).findSome? f = l.findSome? fun a => (g a).findSome? f := by
  induction l with
  | nil => rfl
  | cons a l ih =>
    rw [List.flatMap_cons, List.findSome?_append, ih, List.findSome?_cons]
    cases (g a).findSome? f <;> rfl

theorem findSome?_congr_mem {α β : Type} {l : List α} {f g : α → Option β}
    (same : ∀ a ∈ l, f a = g a) : l.findSome? f = l.findSome? g := by
  induction l with
  | nil => rfl
  | cons a l ih =>
    rw [List.findSome?_cons, List.findSome?_cons, same a List.mem_cons_self,
      ih fun b member => same b (List.mem_cons_of_mem a member)]

theorem findSome?_filter {α β : Type} {l : List α} {f : α → Option β} {p : α → Bool}
    (silent : ∀ a ∈ l, p a = false → f a = none) : (l.filter p).findSome? f = l.findSome? f := by
  induction l with
  | nil => rfl
  | cons a l ih =>
    have later := ih fun b member => silent b (List.mem_cons_of_mem a member)
    cases kept : p a with
    | true => rw [List.filter_cons_of_pos kept, List.findSome?_cons, List.findSome?_cons, later]
    | false =>
      rw [List.filter_cons_of_neg (by simp [kept]), List.findSome?_cons,
        silent a List.mem_cons_self kept, later]

theorem findSome?_eq_of_mem {α β : Type} {l : List α} {f : α → Option β} {a : α} (member : a ∈ l)
    (silent : ∀ b ∈ l, b ≠ a → f b = none) : l.findSome? f = f a := by
  induction l with
  | nil => cases member
  | cons b l ih =>
    rw [List.findSome?_cons]
    by_cases same : b = a
    · subst same
      cases answered : f b with
      | some answer => rfl
      | none =>
        refine List.findSome?_eq_none_iff.mpr fun c inside => ?_
        by_cases same : c = b
        · rw [same, answered]
        · exact silent c (List.mem_cons_of_mem b inside) same
    · rw [silent b List.mem_cons_self same]
      exact ih ((List.mem_cons.mp member).resolve_left (Ne.symm same)) fun c inside =>
        silent c (List.mem_cons_of_mem b inside)

namespace Shape

/-- What any number of rounds leaves, more rounds preferred, in a text of at most `n` characters. A round
that reads nothing is given up. -/
def restsOfRounds (rests : Text → List Text) : Nat → Text → List Text
  | 0, _ => []
  | n + 1, t =>
      ((rests t).filter fun rest => rest.length < t.length).flatMap fun rest =>
        restsOfRounds rests n rest ++ [rest]

/-- What the readings of the shape leave of the text, the most preferred reading first. -/
def rests : Shape → Text → List Text
  | .word letters, t => if letters.isPrefixOf t then [t.drop letters.length] else []
  | .oneOf _, [] => []
  | .oneOf letters, c :: t => if letters.contains c then [t] else []
  | .atEnd, t => if t.isEmpty then [t] else []
  | .seq first second, t => (first.rests t).flatMap second.rests
  | .alt first second, t => first.rests t ++ second.rests t
  | .plus inner, t => restsOfRounds inner.rests t.length t

variable {rests : Text → List Text}

@[simp] theorem restsOfRounds_nil (n : Nat) : restsOfRounds rests n [] = [] := by
  cases n <;> simp [restsOfRounds]

theorem restsOfRounds_eq {m n : Nat} {t : Text} (long : t.length ≤ m) (long' : t.length ≤ n) :
    restsOfRounds rests m t = restsOfRounds rests n t := by
  induction m generalizing n t with
  | zero =>
    rw [List.length_eq_zero_iff.mp (Nat.le_zero.mp long), restsOfRounds_nil, restsOfRounds_nil]
  | succ m ih =>
    cases n with
    | zero =>
      rw [List.length_eq_zero_iff.mp (Nat.le_zero.mp long'), restsOfRounds_nil, restsOfRounds_nil]
    | succ n =>
      simp only [restsOfRounds]
      refine List.flatMap_congr fun rest member => ?_
      have shorter : rest.length < t.length := by simpa using (List.mem_filter.mp member).2
      exact congrArg (· ++ [rest]) (ih (by omega) (by omega))

theorem rests_plus (inner : Shape) (t : Text) :
    (plus inner).rests t = ((inner.rests t).filter fun rest => rest.length < t.length).flatMap fun rest =>
      (plus inner).rests rest ++ [rest] := by
  cases t with
  | nil => simp [Shape.rests]
  | cons c t =>
    simp only [Shape.rests, List.length_cons, restsOfRounds]
    refine List.flatMap_congr fun rest member => ?_
    have shorter : rest.length < t.length + 1 := by simpa using (List.mem_filter.mp member).2
    rw [restsOfRounds_eq (Nat.le_of_lt_succ shorter) (Nat.le_refl rest.length)]

theorem suffix_of_mem_rests {shape : Shape} {t rest : Text} (member : rest ∈ shape.rests t) :
    rest <:+ t := by
  induction shape generalizing t rest with
  | word letters =>
    simp only [Shape.rests] at member
    split at member
    · rw [List.mem_singleton.mp member]
      exact List.drop_suffix _ _
    · cases member
  | oneOf letters =>
    cases t with
    | nil => cases member
    | cons c t =>
      simp only [Shape.rests] at member
      split at member
      · rw [List.mem_singleton.mp member]
        exact List.suffix_cons c t
      · cases member
  | atEnd =>
    simp only [Shape.rests] at member
    split at member
    · obtain rfl := List.mem_singleton.mp member
      exact List.suffix_refl _
    · cases member
  | seq first second ihFirst ihSecond =>
    obtain ⟨middle, inFirst, inSecond⟩ := List.mem_flatMap.mp member
    exact (ihSecond inSecond).trans (ihFirst inFirst)
  | alt first second ihFirst ihSecond =>
    rcases List.mem_append.mp member with member | member
    · exact ihFirst member
    · exact ihSecond member
  | plus inner ih =>
    induction size : t.length using Nat.strongRecOn generalizing t with
    | ind size again =>
      rw [rests_plus] at member
      obtain ⟨middle, round, later⟩ := List.mem_flatMap.mp member
      obtain ⟨round, shorter⟩ := List.mem_filter.mp round
      have first := ih round
      rcases List.mem_append.mp later with later | last
      · exact (again middle.length (by simpa [← size] using shorter) later rfl).trans first
      · rwa [List.mem_singleton.mp last]

end Shape

namespace Marked

def left {α : Type} (t : Marked α) (rest : Text) : Marked α := t.drop (t.length - rest.length)

variable {α β : Type}

theorem text_left {t : Marked α} {rest : Text} (suffix : rest <:+ text t) : text (t.left rest) = rest := by
  rw [left, text, List.map_drop, ← length_text]
  exact (List.suffix_iff_eq_drop.mp suffix).symm

@[simp] theorem left_text (t : Marked α) : t.left (text t) = t := by
  rw [left, length_text, Nat.sub_self, List.drop_zero]

theorem length_left_le (t : Marked α) (rest : Text) : (t.left rest).length ≤ t.length := by
  rw [left, List.length_drop]
  exact Nat.sub_le _ _

theorem length_left {t : Marked α} {rest : Text} (suffix : rest <:+ text t) :
    (t.left rest).length = rest.length := by
  rw [← length_text, text_left suffix]

theorem before_left {t : Marked α} {rest : Text} (suffix : rest <:+ text t) :
    before t (t.left rest) = (text t).take ((text t).length - rest.length) := by
  rw [before, length_left suffix, length_text, text, List.map_take]
  rfl

theorem left_left {t : Marked α} {middle rest : Text} (first : middle <:+ text t)
    (second : rest <:+ middle) : (t.left middle).left rest = t.left rest := by
  have longest := first.length_le
  have longer := second.length_le
  rw [length_text] at longest
  simp only [left, List.length_drop, List.drop_drop]
  congr 1
  omega

theorem left_cons {place : Char × α} {t : Marked α} {rest : Text} (shorter : rest.length ≤ t.length) :
    left (place :: t) rest = t.left rest := by
  rw [left, List.length_cons, Nat.succ_sub shorter, List.drop_succ_cons, left]

theorem afterWord_eq (letters : Text) (t : Marked α) :
    afterWord letters t =
      if letters.isPrefixOf (text t) then some (t.left ((text t).drop letters.length)) else none := by
  induction letters generalizing t with
  | nil => simp [afterWord]
  | cons letter letters ih =>
    cases t with
    | nil => simp [afterWord]
    | cons place t =>
      obtain ⟨c, mark⟩ := place
      have shorter : ((text t).drop letters.length).length ≤ t.length := by simp
      simp only [afterWord, ih, text_cons, List.isPrefixOf_cons_cons, List.length_cons,
        List.drop_succ_cons, left_cons shorter]
      by_cases same : letter = c <;> simp [same]

theorem left_nil (rest : Text) : left ([] : Marked α) rest = [] := List.drop_nil

theorem readRun_eq (letters : List Char) (next : Marked α → Option β) (t : Marked α) :
    readRun letters next t =
      ((Shape.plus (.oneOf letters)).rests (text t)).findSome? fun rest => next (left t rest) := by
  induction t with
  | nil => rfl
  | cons place t ih =>
    obtain ⟨c, mark⟩ := place
    have whole : (text t).length = t.length := length_text t
    have here : next (left ((c, mark) :: t) (text t)) = next t := by
      rw [left_cons (Nat.le_of_eq whole), left_text]
    have later : ((Shape.plus (.oneOf letters)).rests (text t)).findSome?
        (fun rest => next (left ((c, mark) :: t) rest)) = readRun letters next t := by
      rw [ih]
      refine findSome?_congr_mem fun rest member => ?_
      have shorter := (Shape.suffix_of_mem_rests member).length_le
      rw [left_cons (whole ▸ shorter)]
    rw [Shape.rests_plus, readRun, text_cons, Shape.rests]
    split
    · rw [List.filter_cons_of_pos (by simp), List.filter_nil, List.flatMap_cons, List.flatMap_nil,
        List.append_nil, List.findSome?_append, later, List.findSome?_singleton, here]
      cases readRun letters next t <;> rfl
    · rfl

theorem drop_repetitions (round : Marked (Thunk (Option β)) → Option β) (leave : Marked α → Option β)
    (t : Marked α) (n : Nat) :
    (repetitions round leave t).drop n = repetitions round leave (t.drop n) := by
  induction t generalizing n with
  | nil => rw [repetitions, List.drop_nil, List.drop_nil, repetitions]
  | cons place t ih =>
    cases n with
    | zero => rfl
    | succ n => rw [repetitions, List.drop_succ_cons, List.drop_succ_cons, ih]

theorem left_repetitions (round : Marked (Thunk (Option β)) → Option β) (leave : Marked α → Option β)
    (t : Marked α) (rest : Text) :
    (repetitions round leave t).left rest = repetitions round leave (t.left rest) := by
  have long : (repetitions round leave t).length = t.length := by
    rw [← length_text, (remarks_repetitions round leave).text, length_text]
  rw [left, long, drop_repetitions, left]

end Marked

namespace Shape

variable {α β : Type} {inner : Shape} {next : Marked α → Option β}

/-- A first round at the front of a text whose other places are marked with what any number of rounds
finds from there on. A round that reads nothing meets the mark at the front, which is `none`. -/
theorem read_first_round
    (reads : ∀ t : Marked (Thunk (Option β)), inner.read (Marked.answerAt (next [])) t =
      (inner.rests (Marked.text t)).findSome? fun rest => Marked.answerAt (next []) (t.left rest))
    (c : Char) (mark : α) {t : Marked α}
    (marked : ∀ s : Marked α, s.length ≤ t.length →
      Marked.answerAt (next []) (Marked.repetitions (inner.read (Marked.answerAt (next []))) next s) =
        ((plus inner).rests (Marked.text s) ++ [Marked.text s]).findSome? fun rest =>
          next (s.left rest)) :
    inner.read (Marked.answerAt (next [])) ((c, Thunk.pure none) ::
        Marked.repetitions (inner.read (Marked.answerAt (next []))) next t) =
      ((plus inner).rests (c :: Marked.text t)).findSome? fun rest =>
        next (Marked.left ((c, mark) :: t) rest) := by
  have spelled : Marked.text ((c, Thunk.pure none) ::
      Marked.repetitions (inner.read (Marked.answerAt (next []))) next t) = c :: Marked.text t := by
    rw [Marked.text_cons, (Marked.remarks_repetitions _ _).text]
  have silent : ∀ rest ∈ inner.rests (c :: Marked.text t),
      decide (rest.length < (c :: Marked.text t).length) = false →
      Marked.answerAt (next []) (Marked.left ((c, Thunk.pure none) ::
        Marked.repetitions (inner.read (Marked.answerAt (next []))) next t) rest) = none := by
    intro rest member whole
    have same : rest = c :: Marked.text t :=
      (suffix_of_mem_rests member).eq_of_length_le (by simpa using whole)
    rw [same, ← spelled, Marked.left_text]
    rfl
  rw [reads, spelled, ← findSome?_filter silent, rests_plus, findSome?_flatMap]
  refine findSome?_congr_mem fun rest member => ?_
  obtain ⟨member, shorter⟩ := List.mem_filter.mp member
  have shorter : rest.length ≤ t.length := by
    have bound := of_decide_eq_true shorter
    rw [List.length_cons, Marked.length_text] at bound
    omega
  have suffix : rest <:+ Marked.text t :=
    List.suffix_of_suffix_length_le (suffix_of_mem_rests member) (List.suffix_cons c _)
      (by rwa [Marked.length_text])
  have long := (Marked.remarks_repetitions (inner.read (Marked.answerAt (next []))) next).text t
  rw [Marked.left_cons (by rwa [← Marked.length_text, long, Marked.length_text]),
    Marked.left_repetitions, marked (t.left rest) (Marked.length_left_le t rest),
    Marked.text_left suffix]
  refine findSome?_congr_mem fun last inside => ?_
  have later : last <:+ rest := by
    rcases List.mem_append.mp inside with inside | inside
    · exact suffix_of_mem_rests inside
    · obtain rfl := List.mem_singleton.mp inside
      exact List.suffix_refl _
  rw [Marked.left_left suffix later, Marked.left_cons (Nat.le_trans later.length_le shorter)]

/-- The marks of a repetition tell what any number of rounds finds, or the continuation where no round
more is read. The induction is on the text from a place on. -/
theorem answerAt_repetitions
    (reads : ∀ t : Marked (Thunk (Option β)), inner.read (Marked.answerAt (next [])) t =
      (inner.rests (Marked.text t)).findSome? fun rest => Marked.answerAt (next []) (t.left rest))
    (t : Marked α) :
    Marked.answerAt (next []) (Marked.repetitions (inner.read (Marked.answerAt (next []))) next t) =
      ((plus inner).rests (Marked.text t) ++ [Marked.text t]).findSome? fun rest =>
        next (t.left rest) := by
  induction size : t.length using Nat.strongRecOn generalizing t with
  | ind size ih =>
    rw [List.findSome?_append, List.findSome?_singleton, Marked.left_text]
    cases t with
    | nil => rfl
    | cons place t =>
      obtain ⟨c, mark⟩ := place
      have first := read_first_round reads c mark (t := t) fun s shorter =>
        ih s.length (by rw [← size, List.length_cons]; omega) s rfl
      rw [Marked.text_cons, ← first]
      simp only [Marked.repetitions, Marked.answerAt, Thunk.get]
      cases inner.read (Marked.answerAt (next [])) ((c, Thunk.pure none) ::
        Marked.repetitions (inner.read (Marked.answerAt (next []))) next t) <;> rfl

theorem read_plus_cons {c : Char} {mark : α} {t : Marked α} (compound : ∀ letters, inner ≠ .oneOf letters) :
    (plus inner).read next ((c, mark) :: t) =
      if (inner.read (fun _ => some ()) ((c, mark) :: t)).isSome then
        inner.read (Marked.answerAt (next [])) ((c, Thunk.pure none) ::
          Marked.repetitions (inner.read (Marked.answerAt (next []))) next t)
      else none := by
  rw [read]
  exact compound

/-- Reading a shape with a continuation is asking the continuation about the rests of the shape in their
order of preference. -/
theorem read_eq_findSome? (shape : Shape) {α β : Type} (next : Marked α → Option β) (t : Marked α) :
    shape.read next t = (shape.rests (Marked.text t)).findSome? fun rest => next (t.left rest) := by
  induction shape generalizing α β next t with
  | word letters =>
    simp only [read, Marked.afterWord_eq, rests]
    by_cases begins : letters.isPrefixOf (Marked.text t) = true
    · simp only [if_pos begins, List.findSome?_singleton]
    · simp only [if_neg begins, List.findSome?_nil]
  | oneOf letters =>
    cases t with
    | nil => rfl
    | cons place t =>
      obtain ⟨c, mark⟩ := place
      rw [read, Marked.text_cons, rests]
      split
      · rw [List.findSome?_singleton, Marked.left_cons (Nat.le_of_eq (Marked.length_text t)), Marked.left_text]
      · rfl
  | atEnd =>
    cases t with
    | nil => simp only [read, rests, Marked.text_nil, List.isEmpty_nil, if_true,
        List.findSome?_singleton, Marked.left_nil]
    | cons place t => rfl
  | seq first second ihFirst ihSecond =>
    rw [read, ihFirst, rests, findSome?_flatMap]
    refine findSome?_congr_mem fun middle member => ?_
    have suffix := suffix_of_mem_rests member
    rw [ihSecond, Marked.text_left suffix]
    refine findSome?_congr_mem fun rest inside => ?_
    rw [Marked.left_left suffix (suffix_of_mem_rests inside)]
  | alt first second ihFirst ihSecond =>
    rw [read, ihFirst, ihSecond, rests, List.findSome?_append]
    cases (first.rests (Marked.text t)).findSome? fun rest => next (t.left rest) <;> rfl
  | plus inner ih =>
    by_cases single : ∃ letters, inner = .oneOf letters
    · obtain ⟨letters, rfl⟩ := single
      rw [← Marked.readRun_eq, read]
    · have compound (letters : List Char) (same : inner = .oneOf letters) : False :=
        single ⟨letters, same⟩
      cases t with
      | nil =>
        rw [read]
        · rfl
        · exact compound
      | cons place t =>
        obtain ⟨c, mark⟩ := place
        have reads (s : Marked (Thunk (Option β))) : inner.read (Marked.answerAt (next [])) s =
            (inner.rests (Marked.text s)).findSome? fun rest =>
              Marked.answerAt (next []) (s.left rest) := ih _ s
        have first := read_first_round reads c mark (t := t) fun s _ => answerAt_repetitions reads s
        rw [read_plus_cons compound, first, ih, Marked.text_cons]
        split
        next => rfl
        next stuck =>
          have nothing : inner.rests (c :: Marked.text t) = [] := by
            cases found : inner.rests (c :: Marked.text t) with
            | nil => rfl
            | cons rest others =>
              rw [found, List.findSome?_cons] at stuck
              exact absurd rfl stuck
          rw [rests_plus, nothing]
          rfl

theorem exists_reads_of_mem_rests {shape : Shape} {t rest : Text} (member : rest ∈ shape.rests t) :
    ∃ x, t = x ++ rest ∧ shape.Reads x rest := by
  have suffix := suffix_of_mem_rests member
  let next (s : Marked Unit) : Option Unit := if Marked.text s = rest then some () else none
  have found : (shape.read next (Marked.ofText t)).isSome := by
    rw [read_eq_findSome?, List.findSome?_isSome_iff, Marked.text_ofText]
    refine ⟨rest, member, ?_⟩
    simp only [next]
    rw [Marked.text_left (by rwa [Marked.text_ofText]), if_pos rfl]
    rfl
  obtain ⟨answer, found⟩ := Option.isSome_iff_exists.mp found
  obtain ⟨x, s, split, reads, accepted⟩ := shape.exists_reads_of_read found
  have same : Marked.text s = rest := by
    by_contra different
    simp only [next, if_neg different] at accepted
    cases accepted
  refine ⟨Marked.text x, ?_, same ▸ reads⟩
  rw [← Marked.text_ofText t, split, Marked.text_append, same]

def readsNothing : Shape → Bool
  | .word letters => letters.isEmpty
  | .oneOf _ => false
  | .atEnd => true
  | .seq first second => first.readsNothing && second.readsNothing
  | .alt first second => first.readsNothing || second.readsNothing
  | .plus inner => inner.readsNothing

/-- Whether each round of a repetition reads something, so that no reading is given up. -/
def isSteady : Shape → Bool
  | .word _ | .oneOf _ | .atEnd => true
  | .seq first second | .alt first second => first.isSteady && second.isSteady
  | .plus inner => inner.isSteady && !inner.readsNothing

theorem readsNothing_of_reads {shape : Shape} {rest : Text} (reads : shape.Reads [] rest) :
    shape.readsNothing = true := by
  induction shape generalizing rest with
  | word letters => rw [← show [] = letters from reads]; rfl
  | oneOf letters =>
    obtain ⟨c, -, absurd⟩ := reads
    cases absurd
  | atEnd => rfl
  | seq first second ihFirst ihSecond =>
    obtain ⟨y, z, same, firstReads, secondReads⟩ := reads
    obtain ⟨rfl, rfl⟩ := List.append_eq_nil_iff.mp same.symm
    exact Bool.and_eq_true_iff.mpr ⟨ihFirst firstReads, ihSecond secondReads⟩
  | alt first second ihFirst ihSecond =>
    rcases reads with reads | reads
    · exact Bool.or_eq_true_iff.mpr (.inl (ihFirst reads))
    · exact Bool.or_eq_true_iff.mpr (.inr (ihSecond reads))
  | plus inner ih =>
    generalize empty : ([] : Text) = x at reads
    cases reads with
    | last round => exact ih (empty ▸ round)
    | next round later =>
      obtain ⟨rfl, -⟩ := List.append_eq_nil_iff.mp empty.symm
      exact ih round

theorem mem_rests_of_reads {shape : Shape} (steady : shape.isSteady = true) {x rest : Text}
    (reads : shape.Reads x rest) : rest ∈ shape.rests (x ++ rest) := by
  induction shape generalizing x rest with
  | word letters =>
    rw [show x = letters from reads, rests, if_pos (by simp), List.drop_left]
    exact List.mem_singleton_self rest
  | oneOf letters =>
    obtain ⟨c, member, rfl⟩ := reads
    rw [List.singleton_append, rests, if_pos (by simpa using member)]
    exact List.mem_singleton_self rest
  | atEnd =>
    obtain ⟨rfl, rfl⟩ := reads
    exact List.mem_singleton_self []
  | seq first second ihFirst ihSecond =>
    obtain ⟨steadyFirst, steadySecond⟩ := Bool.and_eq_true_iff.mp steady
    obtain ⟨y, z, rfl, firstReads, secondReads⟩ := reads
    rw [List.append_assoc]
    exact List.mem_flatMap.mpr ⟨z ++ rest, ihFirst steadyFirst firstReads,
      ihSecond steadySecond secondReads⟩
  | alt first second ihFirst ihSecond =>
    obtain ⟨steadyFirst, steadySecond⟩ := Bool.and_eq_true_iff.mp steady
    rcases reads with reads | reads
    · exact List.mem_append_left _ (ihFirst steadyFirst reads)
    · exact List.mem_append_right _ (ihSecond steadySecond reads)
  | plus inner ih =>
    obtain ⟨steadyInner, productive⟩ := Bool.and_eq_true_iff.mp steady
    have shorter {y left : Text} (round : inner.Reads y left) : left.length < (y ++ left).length := by
      have nonempty : y ≠ [] := by
        rintro rfl
        rw [readsNothing_of_reads round] at productive
        cases productive
      rw [List.length_append]
      exact Nat.lt_add_of_pos_left (List.length_pos_iff.mpr nonempty)
    have firstRound {y left last : Text} (round : inner.Reads y left)
        (later : last ∈ (plus inner).rests left ++ [left]) :
        last ∈ (plus inner).rests (y ++ left) := by
      rw [rests_plus]
      exact List.mem_flatMap.mpr ⟨left, List.mem_filter.mpr
        ⟨ih steadyInner round, decide_eq_true (shorter round)⟩, later⟩
    induction show Rounds inner.Reads x rest from reads with
    | last round => exact firstRound round (List.mem_append_right _ (List.mem_singleton_self _))
    | next round later again =>
      rw [List.append_assoc]
      exact firstRound round (List.mem_append_left _ (again later))

theorem mem_rests_iff {shape : Shape} (steady : shape.isSteady = true) {t rest : Text} :
    rest ∈ shape.rests t ↔ ∃ x, t = x ++ rest ∧ shape.Reads x rest := by
  constructor
  · exact exists_reads_of_mem_rests
  · rintro ⟨x, rfl, reads⟩
    exact mem_rests_of_reads steady reads

theorem read_text {α β : Type} (shape : Shape) (next : Text → Option β) (t : Marked α) :
    shape.read (fun rest => next (Marked.text rest)) t = (shape.rests (Marked.text t)).findSome? next := by
  rw [read_eq_findSome?]
  refine findSome?_congr_mem fun rest member => ?_
  rw [Marked.text_left (suffix_of_mem_rests member)]

theorem spells_iff {shape : Shape} (steady : shape.isSteady = true) {t : Text} :
    shape.spells t = true ↔ shape.Reads t [] := by
  have marks : (fun rest : Marked Unit => if rest.isEmpty then some () else none) =
      fun rest => if (Marked.text rest).isEmpty then some () else none := by
    funext rest
    rw [Marked.text, List.isEmpty_map]
  rw [spells, marks, read_text shape (fun rest => if rest.isEmpty then some () else none),
    List.findSome?_isSome_iff, Marked.text_ofText]
  constructor
  · rintro ⟨rest, member, accepted⟩
    obtain ⟨x, rfl, reads⟩ := exists_reads_of_mem_rests member
    cases rest with
    | nil => rwa [List.append_nil]
    | cons c rest => cases accepted
  · intro reads
    exact ⟨[], by simpa using mem_rests_of_reads steady reads, rfl⟩

end Shape

end TurkishDates
