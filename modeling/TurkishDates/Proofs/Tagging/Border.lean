import TurkishDates.Proofs.Tagging.Writing

/-!
Tokens on two sides of a border that no expression crosses. The windows of each side find in the tags
what they would find if that side stood alone, and write nothing on the other side.
-/

namespace TurkishDates

namespace Window

def moveBy (window : Window) (n : Nat) : Window := { window with start := window.start + n }

def EndsBy (window : Window) (n : Nat) : Prop := window.start + window.size ≤ n

instance (window : Window) (n : Nat) : Decidable (window.EndsBy n) :=
  inferInstanceAs (Decidable (_ ≤ n))

section

variable {α : Type} {left right : List α} {window : Window}

theorem slice_append_left (fits : window.EndsBy left.length) :
    ((left ++ right).drop window.start).take window.size =
      (left.drop window.start).take window.size := by
  unfold EndsBy at fits
  rw [List.drop_append_of_le_length (by omega), List.take_append_of_le_length]
  rw [List.length_drop]
  omega

theorem slice_append_right :
    ((left ++ right).drop (window.moveBy left.length).start).take (window.moveBy left.length).size =
      (right.drop window.start).take window.size := by
  simp only [moveBy]
  rw [Nat.add_comm, ← List.drop_drop, List.drop_left]

end

theorem filter_endsBy_all (n m : Nat) :
    ((all (n + m)).filter fun window => window.EndsBy n) = all n := by
  apply eq_all ((pairwise_all _).filter _)
  intro window
  rw [List.mem_filter, mem_all, decide_eq_true_eq, EndsBy]
  omega

theorem filter_start_all (n m : Nat) :
    ((all (n + m)).filter fun window => n ≤ window.start) = (all m).map (·.moveBy n) := by
  have ascending : ((all m).map (·.moveBy n)).Pairwise Precedes := by
    rw [List.pairwise_map]
    refine (pairwise_all m).imp fun before => ?_
    rcases before with smaller | ⟨same, left⟩
    · exact .inl smaller
    · exact .inr ⟨same, Nat.add_lt_add_right left n⟩
  refine ((pairwise_all _).filter _).eq_of_mem_iff ascending fun window => ?_
  rw [List.mem_filter, mem_all, decide_eq_true_eq, List.mem_map]
  constructor
  · rintro ⟨⟨sized, fits⟩, behind⟩
    refine ⟨⟨window.start - n, window.size⟩, mem_all.mpr ⟨sized, ?_⟩, ?_⟩
    · show window.start - n + window.size ≤ m
      omega
    · rw [moveBy, Nat.sub_add_cancel behind]
  · rintro ⟨original, member, rfl⟩
    obtain ⟨sized, fits⟩ := mem_all.mp member
    refine ⟨⟨sized, ?_⟩, Nat.le_add_left n original.start⟩
    show original.start + n + original.size ≤ n + m
    omega

end Window

namespace Tagging

variable {resolver : Resolver} {policy : OverlapPolicy}

section

variable {tags tags' : List Tag} {window : Window}

theorem isOpen_append_left (fits : window.EndsBy tags.length) :
    isOpen policy (tags ++ tags') window = isOpen policy tags window := by
  simp only [isOpen, overlaps, Window.slice_append_left fits]

theorem isOpen_append_right :
    isOpen policy (tags ++ tags') (window.moveBy tags.length) = isOpen policy tags' window := by
  simp only [isOpen, overlaps, Window.slice_append_right]
  rfl

theorem write_append_left (fits : window.EndsBy tags.length) (value : Denotation) :
    write (tags ++ tags') window value = write tags window value ++ tags' := by
  unfold Window.EndsBy at fits
  simp only [write, List.append_assoc]
  rw [List.take_append_of_le_length (by omega), List.drop_append_of_le_length fits]

theorem write_append_right (value : Denotation) :
    write (tags ++ tags') (window.moveBy tags.length) value = tags ++ write tags' window value := by
  simp only [write, Window.moveBy]
  rw [Nat.add_comm window.start tags.length, List.take_length_add_append, Nat.add_assoc,
    List.drop_length_add_append]
  simp only [List.append_assoc]

end

section

variable {left right : List Text} {tags tags' : List Tag} {window : Window}

theorem denotation?_append_left (fits : window.EndsBy left.length) :
    resolver.denotation? (left ++ right) window = resolver.denotation? left window := by
  unfold Resolver.denotation? Window.text
  rw [Window.slice_append_left fits]

theorem denotation?_append_right :
    resolver.denotation? (left ++ right) (window.moveBy left.length) =
      resolver.denotation? right window := by
  unfold Resolver.denotation? Window.text
  rw [Window.slice_append_right]

theorem visit_append_left (same : tags.length = left.length) (fits : window.EndsBy left.length) :
    visit resolver policy (left ++ right) (tags ++ tags') window =
      visit resolver policy left tags window ++ tags' := by
  have fits' : window.EndsBy tags.length := same ▸ fits
  simp only [visit, writes?, isOpen_append_left fits', denotation?_append_left fits]
  split
  · rfl
  · exact write_append_left fits' _

theorem visit_append_right (same : tags.length = left.length) :
    visit resolver policy (left ++ right) (tags ++ tags') (window.moveBy left.length) =
      tags ++ visit resolver policy right tags' window := by
  simp only [visit, writes?, denotation?_append_right]
  rw [← same, isOpen_append_right]
  split
  · rfl
  · exact write_append_right _

theorem visit_of_silent (silent : resolver.denotation? left window = none) :
    visit resolver policy left tags window = tags := by
  simp only [visit, writes?, silent, ite_self]

end

/-- A sweep over windows none of which writes across the border sweeps over the windows of each side.
The induction is on all windows together, since those of the two sides take turns. -/
theorem foldl_visit_append {left right : List Text} {windows rightWindows : List Window}
    (sized : ∀ window ∈ windows, 1 ≤ window.size)
    (apart : ∀ window ∈ windows, ¬window.EndsBy left.length → window.start < left.length →
      resolver.denotation? (left ++ right) window = none)
    (moved : (windows.filter fun window => left.length ≤ window.start) =
      rightWindows.map (·.moveBy left.length))
    {tags tags' : List Tag} (same : tags.length = left.length) :
    windows.foldl (visit resolver policy (left ++ right)) (tags ++ tags') =
      (windows.filter fun window => window.EndsBy left.length).foldl
          (visit resolver policy left) tags ++
        rightWindows.foldl (visit resolver policy right) tags' := by
  induction windows generalizing rightWindows tags tags' with
  | nil =>
    obtain rfl := List.map_eq_nil_iff.mp moved.symm
    rfl
  | cons window windows ih =>
    have size := sized window List.mem_cons_self
    have sized' : ∀ other ∈ windows, 1 ≤ other.size := by
      intro other member
      exact sized other (List.mem_cons_of_mem window member)
    have apart' : ∀ other ∈ windows, ¬other.EndsBy left.length → other.start < left.length →
        resolver.denotation? (left ++ right) other = none := by
      intro other member
      exact apart other (List.mem_cons_of_mem window member)
    rw [List.filter_cons] at moved ⊢
    rw [List.foldl_cons]
    by_cases fits : window.EndsBy left.length
    · have before : ¬left.length ≤ window.start := by
        unfold Window.EndsBy at fits
        omega
      rw [if_neg (by simpa using before)] at moved
      rw [if_pos (by simpa using fits), List.foldl_cons, visit_append_left same fits]
      exact ih sized' apart' moved (by rw [length_visit (same ▸ fits), same])
    · rw [if_neg (by simpa using fits)]
      by_cases behind : left.length ≤ window.start
      · rw [if_pos (by simpa using behind)] at moved
        obtain ⟨original, later, rfl, rfl, others⟩ := List.map_eq_cons_iff.mp moved.symm
        rw [visit_append_right same, List.foldl_cons]
        exact ih sized' apart' others.symm same
      · rw [if_neg (by simpa using behind)] at moved
        rw [visit_of_silent (apart window List.mem_cons_self fits (Nat.lt_of_not_le behind))]
        exact ih sized' apart' moved same

/-- When no window across the border denotes anything, each side is tagged as if it stood alone. -/
theorem tags_append {left right : List Text}
    (apart : ∀ window : Window, ¬window.EndsBy left.length → window.start < left.length →
      resolver.denotation? (left ++ right) window = none) :
    (ofTokens resolver.resolve policy (left ++ right)).tags =
      (ofTokens resolver.resolve policy left).tags ++
        (ofTokens resolver.resolve policy right).tags := by
  have sized (window : Window) (member : window ∈ Window.all (left.length + right.length)) :
      1 ≤ window.size := by
    obtain ⟨sized, -⟩ := Window.mem_all.mp member
    omega
  have split : alone resolver (left ++ right) = alone resolver left ++ alone resolver right :=
    List.map_append
  have same : (alone resolver left).length = left.length := List.length_map _
  rw [tags_ofTokens, tags_ofTokens, tags_ofTokens, List.length_append, split,
    foldl_visit_append sized (fun window _ => apart window)
      (Window.filter_start_all left.length right.length) same,
    Window.filter_endsBy_all]

end Tagging

end TurkishDates
