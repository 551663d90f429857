import TurkishDates.Proofs.Pattern.Reading

/-!
Walking over what a shape reads. A walk goes from state to state with each character. From the states
in which a reading can begin, the shape tells those in which it can end, whatever it reads.
-/

namespace TurkishDates

namespace Shape

variable {State : Type}

theorem mem_of_rounds {step : State → Char → State} {reads : Text → Text → Prop} {once : List State}
    (again : ∀ {x rest : Text} {state : State}, reads x rest → state ∈ once →
      x.foldl step state ∈ once)
    {x rest : Text} (rounds : Rounds reads x rest) {state : State} (member : state ∈ once) :
    x.foldl step state ∈ once := by
  induction rounds generalizing state with
  | last round => exact again round member
  | next round later ih =>
    rw [List.foldl_append]
    exact ih (again round member)

variable [DecidableEq State]

/-- The states in which a reading can end. A repetition has to be back in them after one more round. -/
def ends (step : State → Char → State) : Shape → List State → Option (List State)
  | .word letters, states => some (states.map fun state => letters.foldl step state)
  | .oneOf letters, states => some (states.flatMap fun state => letters.map (step state)).eraseDups
  | .atEnd, states => some states
  | .seq first second, states => do second.ends step (← first.ends step states)
  | .alt first second, states => do
      return ((← first.ends step states) ++ (← second.ends step states)).eraseDups
  | .plus inner, states => do
      let once ← inner.ends step states
      if (← inner.ends step once) ⊆ once then some once else none

theorem mem_ends_of_reads {step : State → Char → State} {shape : Shape} {starts stops : List State}
    (ended : shape.ends step starts = some stops) {x rest : Text} (reads : shape.Reads x rest)
    {state : State} (member : state ∈ starts) : x.foldl step state ∈ stops := by
  induction shape generalizing starts stops x rest state with
  | word letters =>
    obtain rfl := Option.some.inj ended
    rw [show x = letters from reads]
    exact List.mem_map_of_mem member
  | oneOf letters =>
    obtain rfl := Option.some.inj ended
    obtain ⟨c, inside, rfl⟩ := reads
    rw [List.mem_eraseDups]
    exact List.mem_flatMap.mpr ⟨state, member, List.mem_map_of_mem inside⟩
  | atEnd =>
    obtain rfl := Option.some.inj ended
    rw [reads.1]
    exact member
  | seq first second ihFirst ihSecond =>
    obtain ⟨y, z, rfl, firstReads, secondReads⟩ := reads
    obtain ⟨middle, endedFirst, endedSecond⟩ := Option.bind_eq_some_iff.mp ended
    rw [List.foldl_append]
    exact ihSecond endedSecond secondReads (ihFirst endedFirst firstReads member)
  | alt first second ihFirst ihSecond =>
    obtain ⟨stopsFirst, endedFirst, ended⟩ := Option.bind_eq_some_iff.mp ended
    obtain ⟨stopsSecond, endedSecond, ended⟩ := Option.bind_eq_some_iff.mp ended
    obtain rfl := Option.some.inj ended
    rw [List.mem_eraseDups, List.mem_append]
    rcases reads with firstReads | secondReads
    · exact .inl (ihFirst endedFirst firstReads member)
    · exact .inr (ihSecond endedSecond secondReads member)
  | plus inner ih =>
    obtain ⟨once, endedOnce, ended⟩ := Option.bind_eq_some_iff.mp ended
    obtain ⟨twice, endedTwice, ended⟩ := Option.bind_eq_some_iff.mp ended
    split at ended
    next closed =>
      obtain rfl := Option.some.inj ended
      have again {x rest : Text} {state : State} (round : inner.Reads x rest)
          (inside : state ∈ once) : x.foldl step state ∈ once :=
        closed (ih endedTwice round inside)
      cases reads with
      | last round => exact ih endedOnce round member
      | next round later =>
        rw [List.foldl_append]
        exact mem_of_rounds again later (ih endedOnce round member)
    next => cases ended

end Shape

end TurkishDates
