import TurkishDates.Proofs.Pattern.Preference

/-!
What a shape has still to read after a letter. Reading one shape while others keep up with it leaves what
these have still to read, and nobody reads the same text as long as none of them may be done. The letters
of one place are read all at once, and what is left of the others is told for any of them.
-/

namespace TurkishDates

namespace Shape

def followedBy (first second : Shape) : Shape := if first = empty then second else first.seq second

/-- What may be left of the shape after one of the letters. -/
def residuals (letters : List Char) : Shape → List Shape
  | .word [] => []
  | .word (letter :: text) => if letters.contains letter then [.word text] else []
  | .oneOf others => if others.any letters.contains then [empty] else []
  | .atEnd => []
  | .seq first second =>
      (first.residuals letters).map (·.followedBy second) ++
        if first.readsNothing then second.residuals letters else []
  | .alt first second => first.residuals letters ++ second.residuals letters
  | .plus inner =>
      (inner.residuals letters).flatMap fun left => [left, left.followedBy (.plus inner)]

theorem reads_followedBy {first second : Shape} {y z rest : Text} (firstReads : first.Reads y (z ++ rest))
    (secondReads : second.Reads z rest) : (first.followedBy second).Reads (y ++ z) rest := by
  unfold followedBy
  split
  next done =>
    subst done
    rw [show y = [] from firstReads]
    exact secondReads
  next => exact ⟨y, z, rfl, firstReads, secondReads⟩

theorem exists_residual_of_rounds {inner : Shape} {letters : List Char} {c : Char}
    (ih : ∀ {x rest : Text}, inner.Reads (c :: x) rest → ∃ left ∈ inner.residuals letters, left.Reads x rest)
    {text rest : Text} (rounds : Rounds inner.Reads text rest) {x : Text} (split : text = c :: x) :
    ∃ left ∈ (plus inner).residuals letters, left.Reads x rest := by
  induction rounds with
  | last round =>
    obtain ⟨left, member, reads⟩ := ih (split ▸ round)
    exact ⟨left, List.mem_flatMap.mpr ⟨left, member, List.mem_cons_self⟩, reads⟩
  | @next y z rest round later again =>
    cases y with
    | nil => exact again split
    | cons d y =>
      obtain ⟨rfl, rfl⟩ := List.cons.inj split
      obtain ⟨left, member, reads⟩ := ih round
      exact ⟨left.followedBy (.plus inner), List.mem_flatMap.mpr ⟨left, member, by simp⟩,
        reads_followedBy reads later⟩

theorem exists_residual_of_reads {shape : Shape} {letters : List Char} {c : Char} (inside : c ∈ letters)
    {x rest : Text} (reads : shape.Reads (c :: x) rest) :
    ∃ left ∈ shape.residuals letters, left.Reads x rest := by
  induction shape generalizing x rest with
  | word text =>
    obtain rfl : c :: x = text := reads
    exact ⟨.word x, by simp [residuals, inside], rfl⟩
  | oneOf others =>
    obtain ⟨d, member, same⟩ := reads
    obtain ⟨rfl, rfl⟩ := List.cons.inj same
    have common : others.any letters.contains = true :=
      List.any_eq_true.mpr ⟨c, member, List.contains_iff_mem.mpr inside⟩
    exact ⟨empty, by simp [residuals, common], rfl⟩
  | atEnd => cases reads.1
  | seq first second ihFirst ihSecond =>
    obtain ⟨y, z, split, firstReads, secondReads⟩ := reads
    cases y with
    | nil =>
      rw [List.nil_append] at split
      obtain ⟨left, member, leftReads⟩ := ihSecond (split ▸ secondReads)
      have nothing := readsNothing_of_reads firstReads
      exact ⟨left, by simp [residuals, nothing, member], leftReads⟩
    | cons d y =>
      obtain ⟨rfl, rfl⟩ := List.cons.inj split
      obtain ⟨left, member, leftReads⟩ := ihFirst firstReads
      exact ⟨left.followedBy second, List.mem_append_left _ (List.mem_map_of_mem member),
        reads_followedBy leftReads secondReads⟩
  | alt first second ihFirst ihSecond =>
    rcases reads with firstReads | secondReads
    · obtain ⟨left, member, leftReads⟩ := ihFirst firstReads
      exact ⟨left, List.mem_append_left _ member, leftReads⟩
    · obtain ⟨left, member, leftReads⟩ := ihSecond secondReads
      exact ⟨left, List.mem_append_right _ member, leftReads⟩
  | plus inner ih => exact exists_residual_of_rounds ih reads rfl

/-- What may be left of the others once the shape has been read. A repetition has to leave nothing new after one
more round. -/
def remains : Shape → List Shape → Option (List Shape)
  | .word text, others => some (text.foldl (fun others c => others.flatMap (residuals [c])) others)
  | .oneOf letters, others => some (others.flatMap (residuals letters))
  | .atEnd, others => some others
  | .seq first second, others => do second.remains (← first.remains others)
  | .alt first second, others => do
      let lefts ← first.remains others
      return lefts ++ (← second.remains others).filter fun left => !lefts.contains left
  | .plus inner, others => do
      let once ← inner.remains others
      if (← inner.remains once) ⊆ once then some once else none

def AnyReads (shapes : List Shape) (x rest : Text) : Prop := ∃ shape ∈ shapes, shape.Reads x rest

theorem anyReads_foldl {others : List Shape} {x y rest : Text} (reads : AnyReads others (x ++ y) rest) :
    AnyReads (x.foldl (fun others c => others.flatMap (residuals [c])) others) y rest := by
  induction x generalizing others with
  | nil => exact reads
  | cons c x ih =>
    obtain ⟨other, member, otherReads⟩ := reads
    obtain ⟨left, isLeft, leftReads⟩ := exists_residual_of_reads (List.mem_singleton_self c) otherReads
    exact ih ⟨left, List.mem_flatMap.mpr ⟨other, member, isLeft⟩, leftReads⟩

theorem anyReads_of_rounds {inner : Shape} {once : List Shape} {rest' : Text}
    (again : ∀ {x rest y : Text}, inner.Reads x rest → AnyReads once (x ++ y) rest' → AnyReads once y rest')
    {x rest : Text} (rounds : Rounds inner.Reads x rest) {y : Text} (reads : AnyReads once (x ++ y) rest') :
    AnyReads once y rest' := by
  induction rounds with
  | last round => exact again round reads
  | next round later ih =>
    rw [List.append_assoc] at reads
    exact ih (again round reads)

/-- What the others read beyond the shape is read by what remains of them. -/
theorem anyReads_of_remains {shape : Shape} {others lefts : List Shape} (remained : shape.remains others = some lefts)
    {x rest y rest' : Text} (reads : shape.Reads x rest) (reads' : AnyReads others (x ++ y) rest') :
    AnyReads lefts y rest' := by
  induction shape generalizing others lefts x rest y with
  | word text =>
    obtain rfl := Option.some.inj remained
    obtain rfl : x = text := reads
    exact anyReads_foldl reads'
  | oneOf letters =>
    obtain rfl := Option.some.inj remained
    obtain ⟨c, inside, rfl⟩ := reads
    obtain ⟨other, member, otherReads⟩ := reads'
    obtain ⟨left, isLeft, leftReads⟩ := exists_residual_of_reads inside otherReads
    exact ⟨left, List.mem_flatMap.mpr ⟨other, member, isLeft⟩, leftReads⟩
  | atEnd =>
    obtain rfl := Option.some.inj remained
    rw [reads.1] at reads'
    exact reads'
  | seq first second ihFirst ihSecond =>
    obtain ⟨y, z, rfl, firstReads, secondReads⟩ := reads
    obtain ⟨middle, remainedFirst, remainedSecond⟩ := Option.bind_eq_some_iff.mp remained
    rw [List.append_assoc] at reads'
    exact ihSecond remainedSecond secondReads (ihFirst remainedFirst firstReads reads')
  | alt first second ihFirst ihSecond =>
    obtain ⟨leftsFirst, remainedFirst, remained⟩ := Option.bind_eq_some_iff.mp remained
    obtain ⟨leftsSecond, remainedSecond, remained⟩ := Option.bind_eq_some_iff.mp remained
    obtain rfl := Option.some.inj remained
    rcases reads with firstReads | secondReads
    · obtain ⟨left, member, leftReads⟩ := ihFirst remainedFirst firstReads reads'
      exact ⟨left, List.mem_append_left _ member, leftReads⟩
    · obtain ⟨left, member, leftReads⟩ := ihSecond remainedSecond secondReads reads'
      by_cases known : left ∈ leftsFirst
      · exact ⟨left, List.mem_append_left _ known, leftReads⟩
      · exact ⟨left, List.mem_append_right _ (List.mem_filter.mpr ⟨member, by simp [known]⟩), leftReads⟩
  | plus inner ih =>
    obtain ⟨once, remainedOnce, remained⟩ := Option.bind_eq_some_iff.mp remained
    obtain ⟨twice, remainedTwice, remained⟩ := Option.bind_eq_some_iff.mp remained
    split at remained
    next closed =>
      obtain rfl := Option.some.inj remained
      -- After the first round, what is left stays among the shapes of one round.
      have again {x rest y : Text} (round : inner.Reads x rest) (kept : AnyReads once (x ++ y) rest') :
          AnyReads once y rest' := by
        obtain ⟨left, member, leftReads⟩ := ih remainedTwice round kept
        exact ⟨left, closed member, leftReads⟩
      cases reads with
      | last round => exact ih remainedOnce round reads'
      | next round later =>
        rw [List.append_assoc] at reads'
        exact anyReads_of_rounds again later (ih remainedOnce round reads')
    next => cases remained

def isApartFrom (shape : Shape) (others : List Shape) : Bool :=
  (shape.remains others).any fun lefts => !lefts.any readsNothing

theorem not_reads_of_isApartFrom {shape other : Shape} {others : List Shape}
    (apart : shape.isApartFrom others = true) (member : other ∈ others) {x rest rest' : Text}
    (reads : shape.Reads x rest) : ¬other.Reads x rest' := by
  intro reads'
  obtain ⟨lefts, remained, unfinished⟩ := (Option.any_eq_true _ _).mp apart
  rw [← List.append_nil x] at reads'
  obtain ⟨left, isLeft, done⟩ := anyReads_of_remains remained reads ⟨other, member, reads'⟩
  rw [Bool.not_eq_true', ← Bool.not_eq_true, List.any_eq_true] at unfinished
  exact unfinished ⟨left, isLeft, readsNothing_of_reads done⟩

end Shape

theorem Pattern.match?_eq_none_of_isApartFrom {pattern : Pattern} {shape : Shape} {others : List Shape}
    (apart : shape.isApartFrom others = true) (member : pattern.shape ∈ others) {t rest : Text}
    (reads : shape.Reads t rest) : pattern.match? t = none := by
  cases matched : pattern.match? t with
  | none => rfl
  | some kept =>
    exact absurd (shape_reads_of_reads (reads_of_match? matched))
      (Shape.not_reads_of_isApartFrom apart member reads)

end TurkishDates
