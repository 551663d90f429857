import TurkishDates.Proofs.Tagging.Spans

/-!
Spans and runs. A run is a window as large as possible whose tokens all carry one value. The spans of a
sentence are its runs from left to right, placed by the characters and spaces in front of them, and each
token finds its value again in the span in which it lies.
-/

namespace TurkishDates

/-- A window and the value that its tokens carry. -/
structure Run where
  window : Window
  value : Denotation
deriving DecidableEq

namespace Run

abbrev start (run : Run) : Nat := run.window.start

abbrev stop (run : Run) : Nat := run.window.start + run.window.size

/-- From the token `n` on, the run cannot be made larger: its tokens carry the value, those next to it do
not. What stands before `n` plays no part. -/
structure IsMaximalFrom (n : Nat) (values : List (Option Denotation)) (run : Run) : Prop where
  behind : n ≤ run.start
  nonempty : run.start < run.stop
  carried : ∀ i, run.window.Covers i → values[i]? = some (some run.value)
  left : ∀ i, n ≤ i → i + 1 = run.start → values[i]? ≠ some (some run.value)
  right : values[run.stop]? ≠ some (some run.value)

abbrev IsMaximal (values : List (Option Denotation)) (run : Run) : Prop := run.IsMaximalFrom 0 values

variable {values : List (Option Denotation)} {run other : Run} {n i : Nat}

theorem IsMaximalFrom.covers_start (maximal : run.IsMaximalFrom n values) :
    run.window.Covers run.start := ⟨Nat.le_refl _, maximal.nonempty⟩

theorem IsMaximalFrom.stop_le (maximal : run.IsMaximalFrom n values) : run.stop ≤ values.length := by
  have last : run.window.Covers (run.stop - 1) := by
    have nonempty := maximal.nonempty
    unfold Window.Covers
    unfold start stop at *
    omega
  have inside : run.stop - 1 < values.length :=
    (List.getElem?_eq_some_iff.mp (maximal.carried _ last)).1
  omega

theorem IsMaximal.start_le (maximal : run.IsMaximal values) (maximal' : other.IsMaximal values)
    (covers : run.window.Covers i) (covers' : other.window.Covers i) (same : run.value = other.value) :
    run.start ≤ other.start := by
  by_contra later
  have next : run.start - 1 + 1 = run.start := by omega
  refine maximal.left (run.start - 1) (Nat.zero_le _) next ?_
  rw [same]
  apply maximal'.carried
  unfold start Window.Covers at *
  omega

theorem IsMaximal.stop_le_stop (maximal : run.IsMaximal values) (maximal' : other.IsMaximal values)
    (covers : run.window.Covers i) (covers' : other.window.Covers i) (same : run.value = other.value) :
    run.stop ≤ other.stop := by
  by_contra further
  apply maximal'.right
  rw [← same]
  apply maximal.carried
  unfold stop Window.Covers at *
  omega

theorem IsMaximal.eq_of_covers (maximal : run.IsMaximal values) (maximal' : other.IsMaximal values)
    (covers : run.window.Covers i) (covers' : other.window.Covers i) : run = other := by
  have same : run.value = other.value := by
    have carried := maximal.carried i covers
    rw [maximal'.carried i covers'] at carried
    simpa using carried.symm
  have starts : run.start = other.start := Nat.le_antisymm
    (maximal.start_le maximal' covers covers' same) (maximal'.start_le maximal covers' covers same.symm)
  have stops : run.stop = other.stop := Nat.le_antisymm
    (maximal.stop_le_stop maximal' covers covers' same)
    (maximal'.stop_le_stop maximal covers' covers same.symm)
  obtain ⟨⟨start, size⟩, value⟩ := run
  obtain ⟨⟨start', size'⟩, value'⟩ := other
  simp only [Run.start, Run.stop] at starts stops same
  rw [starts, same, show size = size' by omega]

def extendFirst (n : Nat) : List Run → List Run
  | [] => []
  | first :: rest => ⟨⟨n, first.window.size + 1⟩, first.value⟩ :: rest

def ofValues (n : Nat) : List (Option Denotation) → List Run
  | [] => []
  | none :: rest => ofValues (n + 1) rest
  | some value :: rest =>
      let later := ofValues (n + 1) rest
      if rest.head? = some (some value) then extendFirst n later else ⟨⟨n, 1⟩, value⟩ :: later

theorem exists_ofValues_eq_cons {value : Denotation} (first : values.head? = some (some value)) (n : Nat) :
    ∃ size rest, 1 ≤ size ∧ ofValues n values = ⟨⟨n, size⟩, value⟩ :: rest := by
  induction values generalizing n with
  | nil => cases first
  | cons head values ih =>
    obtain rfl : head = some value := by simpa using first
    rw [ofValues]
    split
    next same =>
      obtain ⟨size, rest, -, later⟩ := ih same (n + 1)
      exact ⟨size + 1, rest, by omega, by simp only [later, extendFirst]⟩
    next => exact ⟨1, _, by omega, rfl⟩

theorem pairwise_ofValues (n : Nat) (values : List (Option Denotation)) :
    (∀ run ∈ ofValues n values, n ≤ run.start) ∧
      (ofValues n values).Pairwise fun first second => first.stop ≤ second.start := by
  induction values generalizing n with
  | nil => exact ⟨fun run absent => absurd absent List.not_mem_nil, List.Pairwise.nil⟩
  | cons head values ih =>
    obtain ⟨behind, apart⟩ := ih (n + 1)
    have behind' : ∀ run ∈ ofValues (n + 1) values, n ≤ run.start := by
      intro run member
      exact Nat.le_of_succ_le (behind run member)
    cases head with
    | none => exact ⟨behind', apart⟩
    | some value =>
      rw [ofValues]
      split
      next same =>
        obtain ⟨size, rest, -, later⟩ := exists_ofValues_eq_cons same (n + 1)
        simp only [later, extendFirst] at behind' apart ⊢
        obtain ⟨first, apart⟩ := List.pairwise_cons.mp apart
        constructor
        · intro run member
          rcases List.mem_cons.mp member with rfl | member
          · exact Nat.le_refl n
          · exact behind' run (List.mem_cons_of_mem _ member)
        · refine List.pairwise_cons.mpr ⟨fun run member => ?_, apart⟩
          have before := first run member
          simp only [stop] at before ⊢
          omega
      next =>
        constructor
        · intro run member
          rcases List.mem_cons.mp member with rfl | member
          · exact Nat.le_refl n
          · exact behind' run member
        · exact List.pairwise_cons.mpr ⟨behind, apart⟩

/-- A run stays maximal when the token before the place is let in that does not carry its value. -/
theorem IsMaximalFrom.letIn (maximal : run.IsMaximalFrom (n + 1) values)
    (apart : n + 1 = run.start → values[n]? ≠ some (some run.value)) : run.IsMaximalFrom n values where
  behind := Nat.le_of_succ_le maximal.behind
  nonempty := maximal.nonempty
  carried := maximal.carried
  left i behind next := by
    rcases Nat.eq_or_lt_of_le behind with rfl | later
    · exact apart next
    · exact maximal.left i later next
  right := maximal.right

theorem IsMaximalFrom.takeIn {size : Nat} {value : Denotation}
    (maximal : (⟨⟨n + 1, size⟩, value⟩ : Run).IsMaximalFrom (n + 1) values)
    (carries : values[n]? = some (some value)) :
    (⟨⟨n, size + 1⟩, value⟩ : Run).IsMaximalFrom n values where
  behind := Nat.le_refl n
  nonempty := Nat.lt_add_of_pos_right (Nat.succ_pos size)
  carried i covers := by
    by_cases first : i = n
    · rw [first]
      exact carries
    · apply maximal.carried
      unfold Window.Covers at covers ⊢
      simp only at covers ⊢
      omega
  left i behind next := by
    simp only [start] at next
    omega
  right := by
    have right := maximal.right
    simp only [stop] at right ⊢
    rwa [Nat.add_right_comm, Nat.add_assoc] at right

/-- The runs found are maximal. The induction is on the tokens from `n` on; the token before them
matters only to a run that begins with the first of them. -/
theorem isMaximalFrom_of_mem_ofValues {rest : List (Option Denotation)}
    (remaining : values.drop n = rest) (member : run ∈ ofValues n rest) :
    run.IsMaximalFrom n values := by
  induction rest generalizing n run with
  | nil => cases member
  | cons head rest ih =>
    have here : values[n]? = some head := by rw [← List.head?_drop, remaining, List.head?_cons]
    have remaining' : values.drop (n + 1) = rest := by
      rw [← List.tail_drop, remaining, List.tail_cons]
    have next : values[n + 1]? = rest.head? := by rw [← List.head?_drop, remaining']
    cases head with
    | none =>
      refine (ih remaining' member).letIn fun _ same => ?_
      rw [here] at same
      cases same
    | some value =>
      rw [ofValues] at member
      split at member
      next same =>
        obtain ⟨size, others, sized, later⟩ := exists_ofValues_eq_cons same (n + 1)
        have first := ih remaining' (by rw [later]; exact List.mem_cons_self)
        rw [later, extendFirst] at member
        rcases List.mem_cons.mp member with rfl | member
        · exact first.takeIn here
        · have inside : run ∈ ofValues (n + 1) rest := by
            rw [later]
            exact List.mem_cons_of_mem _ member
          refine (ih remaining' inside).letIn fun begins => ?_
          have apart := (pairwise_ofValues (n + 1) rest).2
          rw [later] at apart
          have before := (List.pairwise_cons.mp apart).1 run member
          simp only [stop] at before
          omega
      next different =>
        rcases List.mem_cons.mp member with rfl | member
        · exact {
            behind := Nat.le_refl n
            nonempty := Nat.lt_succ_self n
            carried := fun i covers => by
              obtain rfl : i = n := by
                unfold Window.Covers at covers
                simp only at covers
                omega
              exact here
            left := fun i behind next => by
              simp only [start] at next
              omega
            right := fun same => different (next.symm.trans same) }
        · have maximal := ih remaining' member
          refine maximal.letIn fun begins same => different ?_
          rw [here] at same
          have carried := maximal.carried (n + 1) (begins ▸ maximal.covers_start)
          rw [next] at carried
          rw [carried]
          exact same.symm

theorem exists_covers_of_getElem? {value : Denotation} (carries : values[i]? = some (some value))
    (n : Nat) : ∃ run ∈ ofValues n values, run.window.Covers (n + i) := by
  induction values generalizing n i with
  | nil => cases carries
  | cons head values ih =>
    cases i with
    | zero =>
      have first : (head :: values).head? = some (some value) := carries
      obtain ⟨size, rest, sized, found⟩ := exists_ofValues_eq_cons first n
      rw [found]
      refine ⟨_, List.mem_cons_self, Nat.le_refl n, ?_⟩
      simp only
      omega
    | succ i =>
      obtain ⟨run, member, covers⟩ := ih (by simpa using carries) (n + 1)
      have covers' : run.window.Covers (n + (i + 1)) := by
        rwa [Nat.add_comm i, ← Nat.add_assoc]
      cases head with
      | none => exact ⟨run, member, covers'⟩
      | some first =>
        rw [ofValues]
        split
        next same =>
          obtain ⟨size, rest, -, later⟩ := exists_ofValues_eq_cons same (n + 1)
          rw [later] at member ⊢
          rcases List.mem_cons.mp member with rfl | member
          · refine ⟨_, List.mem_cons_self, ?_⟩
            unfold Window.Covers at covers' ⊢
            simp only at covers' ⊢
            omega
          · exact ⟨run, List.mem_cons_of_mem _ member, covers'⟩
        next => exact ⟨run, List.mem_cons_of_mem _ member, covers'⟩

theorem mem_ofValues_iff : run ∈ ofValues 0 values ↔ run.IsMaximal values := by
  constructor
  · exact isMaximalFrom_of_mem_ofValues rfl
  · intro maximal
    have carried := maximal.carried _ maximal.covers_start
    obtain ⟨other, member, covers⟩ := exists_covers_of_getElem? carried 0
    rw [Nat.zero_add] at covers
    have maximal' : other.IsMaximal values := isMaximalFrom_of_mem_ofValues rfl member
    rwa [maximal.eq_of_covers maximal' maximal.covers_start covers]

theorem getElem?_eq_some_some_iff {value : Denotation} :
    values[i]? = some (some value) ↔
      ∃ run ∈ ofValues 0 values, run.window.Covers i ∧ run.value = value := by
  constructor
  · intro carries
    obtain ⟨run, member, covers⟩ := exists_covers_of_getElem? carries 0
    rw [Nat.zero_add] at covers
    have carried := (mem_ofValues_iff.mp member).carried i covers
    rw [carries] at carried
    exact ⟨run, member, covers, by simpa using carried.symm⟩
  · rintro ⟨run, member, covers, rfl⟩
    exact (mem_ofValues_iff.mp member).carried i covers

end Run

end TurkishDates
