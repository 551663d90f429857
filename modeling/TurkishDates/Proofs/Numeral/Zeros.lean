import Mathlib.Algebra.Ring.Int.Defs
import Mathlib.Data.List.DropRight
import TurkishDates.Proofs.Numeral.Scales

/-!
Zeros among the parts of a number. A zero is a multiple of a thousand, so it is taken for a scale: the units in
front of it are multiplied by it and lost, a bare scale behind it is not counted, and hundreds in front of it no longer
count at the scale behind. Only right behind another scale it adds nothing whatever follows.

The parts are taken one step after the other. What stands in front plays no part in a step as long as its last part is
a scale, except that a bare scale is counted only where nothing stands in front.
-/

namespace TurkishDates

namespace PlaceValue

open Arithmetic

/-- What one step adds to the value, if anything, and the scale and the parts that it leaves. -/
structure Step (α : Type) where
  gain : Option α
  scale : Nat
  rest : List Int

section Steps

variable {α : Type} [Arithmetic α]

def Step.onto (total : α) (step : Step α) : α := step.gain.elim total (add total)

def step (α : Type) [Arithmetic α] (scale : Nat) (part : Int) (before : List Int) : Step α :=
  let units := before.takeWhile fun p => !isHundreds p
  if isThousands part then
    if isZero (sum units : α) then
      ⟨if before.head?.all (fun p => !isHundreds p) then some (ofInt part) else none, tens part, before⟩
    else ⟨some (mul (sum units) (ofInt part)), tens part, before.dropWhile fun p => !isHundreds p⟩
  else if isHundreds part then
    match units.head? with
    | none => ⟨some (mul (ofInt part) (tenPower α scale)), scale, before⟩
    | some factor => ⟨some (mul (mul (ofInt factor) (ofInt 100)) (tenPower α scale)), scale, before.tail⟩
  else ⟨some (ofInt part), scale, before⟩

theorem addParts_cons (total : α) (scale : Nat) (part : Int) (before : List Int) :
    addParts total scale (part :: before) =
      addParts ((step α scale part before).onto total) (step α scale part before).scale
        (step α scale part before).rest := by
  rw [addParts.eq_def]
  simp only [step]
  cases thousands : isThousands part with
  | true =>
    cases zero : isZero (sum (before.takeWhile fun p => !isHundreds p) : α) with
    | true =>
      cases before with
      | nil => simp [Step.onto]
      | cons previous before => cases other : isHundreds previous <;> simp [Step.onto, other]
    | false => simp [Step.onto]
  | false =>
    cases hundreds : isHundreds part with
    | true =>
      cases before with
      | nil => simp [Step.onto]
      | cons previous before => cases other : isHundreds previous <;> simp [Step.onto, other]
    | false => simp [Step.onto]

theorem length_rest_step (scale : Nat) (part : Int) (before : List Int) :
    (step α scale part before).rest.length ≤ before.length := by
  unfold step
  simp only
  split
  · split
    · exact Nat.le_refl _
    · exact (List.dropWhile_suffix _).length_le
  · split
    · split
      · exact Nat.le_refl _
      · exact (List.tail_suffix before).length_le
    · exact Nat.le_refl _

variable {more : List Int}

theorem units_append (closed : IsClosed more) (before : List Int) :
    (before ++ more).takeWhile (fun p => !isHundreds p) = before.takeWhile (fun p => !isHundreds p) ∧
      (before ++ more).dropWhile (fun p => !isHundreds p) = before.dropWhile (fun p => !isHundreds p) ++ more := by
  induction before with
  | nil =>
    cases more with
    | nil => exact ⟨rfl, rfl⟩
    | cons part more =>
      have first := isHundreds_of_isThousands (closed part rfl)
      exact ⟨List.takeWhile_cons_of_neg (by simp [first]), List.dropWhile_cons_of_neg (by simp [first])⟩
  | cons part before ih =>
    obtain ⟨taken, dropped⟩ := ih
    rw [List.cons_append]
    cases other : isHundreds part with
    | true => simp [other]
    | false => simp [other, taken, dropped]

theorem step_append (zero : isZero (ofInt 0 : α) = true) (nonempty : more ≠ []) (closed : IsClosed more)
    (scale : Nat) (part : Int) (before : List Int) :
    step α scale part (before ++ more) =
      ⟨if before = [] ∧ isThousands part = true then none else (step α scale part before).gain,
        (step α scale part before).scale, (step α scale part before).rest ++ more⟩ := by
  obtain ⟨taken, dropped⟩ := units_append closed before
  obtain ⟨first, others, rfl⟩ := List.exists_cons_of_ne_nil nonempty
  have hundreds := isHundreds_of_isThousands (closed first rfl)
  have nothing : isZero (sum [] : α) = true := zero
  unfold step
  rw [taken, dropped]
  cases before with
  | nil => cases thousands : isThousands part <;> cases isHundreds part <;> simp [nothing, hundreds]
  | cons previous before =>
    simp only [List.cons_append, List.head?_cons, reduceCtorEq, false_and, if_false, List.tail_cons]
    split
    · split <;> rfl
    · split
      · split <;> rfl
      · rfl

/-- What stands in front of parts makes no difference to their steps, as long as its last part is a scale. -/
theorem addParts_append_congr (zero : isZero (ofInt 0 : α) = true) {more' : List Int} (nonempty : more ≠ [])
    (nonempty' : more' ≠ []) (closed : IsClosed more) (closed' : IsClosed more')
    (same : ∀ (total : α) (scale : Nat), addParts total scale more = addParts total scale more')
    (total : α) (scale : Nat) (parts : List Int) :
    addParts total scale (parts ++ more) = addParts total scale (parts ++ more') := by
  induction size : parts.length using Nat.strongRecOn generalizing total scale parts with
  | ind n ih =>
    cases parts with
    | nil => exact same total scale
    | cons part before =>
      have shorter := length_rest_step (α := α) scale part before
      have fewer : (step α scale part before).rest.length < n := by
        rw [List.length_cons] at size
        omega
      rw [List.cons_append, List.cons_append, addParts_cons, addParts_cons, step_append zero nonempty closed,
        step_append zero nonempty' closed']
      exact ih _ fewer _ _ _ rfl

end Steps

section Whole

variable {more : List Int}

theorem sum_eq (parts : List Int) : (sum parts : Int) = parts.sum := by
  have folded (total : Int) :
      parts.foldl (fun total part => add total (ofInt part)) total = total + parts.sum := by
    induction parts generalizing total with
    | nil => exact (Int.add_zero total).symm
    | cons part parts ih => rw [List.foldl_cons, ih, List.sum_cons, ← Int.add_assoc]; rfl
  rw [sum, folded]
  exact Int.zero_add _

theorem onto_eq (total : Int) (step : Step Int) : step.onto total = total + step.gain.getD 0 := by
  obtain ⟨gain, _, _⟩ := step
  cases gain with
  | none => exact (Int.add_zero total).symm
  | some amount => rfl

/-- In exact arithmetic the steps add up, whatever there is already. -/
theorem addParts_total (total : Int) (scale : Nat) (parts : List Int) :
    addParts total scale parts = total + addParts 0 scale parts := by
  induction size : parts.length using Nat.strongRecOn generalizing total scale parts with
  | ind n ih =>
    cases parts with
    | nil => rw [addParts_nil, addParts_nil, Int.add_zero]
    | cons part before =>
      have shorter := length_rest_step (α := Int) scale part before
      have fewer : (step Int scale part before).rest.length < n := by
        rw [List.length_cons] at size
        omega
      rw [addParts_cons, addParts_cons 0, ih _ fewer _ _ _ rfl, ih _ fewer (Step.onto 0 _) _ _ rfl, onto_eq,
        onto_eq]
      omega

def scaleOf (part? : Option Int) : Int := (part?.filter isThousands).getD 0

theorem scaleOf_cons {part : Int} (other : isHundreds part = false) (before : List Int) :
    scaleOf (part :: before).getLast? = scaleOf before.getLast? := by
  cases before with
  | nil => exact congrArg (Option.getD · 0) (Option.filter_some_neg (by simp [isThousands_of_isHundreds other]))
  | cons previous before => rw [List.getLast?_cons_cons]

theorem scaleOf_dropWhile (parts : List Int) :
    scaleOf (parts.dropWhile fun p => !isHundreds p).getLast? = scaleOf parts.getLast? := by
  induction parts with
  | nil => rfl
  | cons part parts ih =>
    cases other : isHundreds part with
    | true => rw [List.dropWhile_cons_of_neg (by simp [other])]
    | false => rw [List.dropWhile_cons_of_pos (by simp [other]), ih, scaleOf_cons other]

theorem scaleOf_rest_step (scale : Nat) (part : Int) {before : List Int} (nonempty : before ≠ []) :
    scaleOf (step Int scale part before).rest.getLast? = scaleOf (part :: before).getLast? := by
  obtain ⟨previous, before, rfl⟩ := List.exists_cons_of_ne_nil nonempty
  rw [List.getLast?_cons_cons]
  unfold step
  simp only
  split
  · split
    · rfl
    · exact scaleOf_dropWhile _
  · split
    · split
      next => rfl
      next factor found =>
        have other : isHundreds previous = false := by
          cases hundreds : isHundreds previous with
          | false => rfl
          | true => simp [hundreds] at found
        exact (scaleOf_cons other before).symm
    · rfl

theorem step_last (scale : Nat) (part : Int) :
    (step Int scale part []).rest = [] ∧
      (isThousands part = true → (step Int scale part []).gain = some part) := by
  have nothing : isZero (sum [] : Int) = true := rfl
  unfold step
  cases thousands : isThousands part with
  | true =>
    simp only [List.takeWhile_nil, nothing, if_true]
    exact ⟨trivial, fun _ => rfl⟩
  | false => cases hundreds : isHundreds part <;> simp

/-- Parts behind a scale are valued as they are for themselves, but for a bare scale. -/
theorem addParts_append (nonempty : more ≠ []) (closed : IsClosed more) (total : Int) (scale : Nat)
    (parts : List Int) :
    addParts total scale (parts ++ more) =
      addParts total scale parts - scaleOf parts.getLast? + addParts 0 0 more := by
  induction size : parts.length using Nat.strongRecOn generalizing total scale parts with
  | ind n ih =>
    cases parts with
    | nil =>
      rw [List.nil_append, addParts_total, addParts_closed closed 0, addParts_nil]
      exact congrArg (· + _) (Int.sub_zero total).symm
    | cons part before =>
      have shorter := length_rest_step (α := Int) scale part before
      have fewer : (step Int scale part before).rest.length < n := by
        rw [List.length_cons] at size
        omega
      rw [List.cons_append, addParts_cons, addParts_cons, step_append rfl nonempty closed]
      simp only
      rw [ih _ fewer _ _ _ rfl, onto_eq, onto_eq]
      by_cases last : before = []
      · obtain ⟨left, bare⟩ := step_last scale part
        rw [last, left, addParts_nil, addParts_nil, List.getLast?_singleton, List.getLast?_nil]
        cases thousands : isThousands part with
        | true =>
          rw [if_pos ⟨rfl, rfl⟩, bare thousands, scaleOf, scaleOf, Option.filter_some_pos thousands]
          simp
        | false =>
          rw [if_neg (by simp), scaleOf, scaleOf, Option.filter_some_neg (by simp [thousands])]
          rfl
      · rw [if_neg fun both => last both.1, scaleOf_rest_step scale part last]

theorem addParts_units {units : List Int} (other : ∀ part ∈ units, isHundreds part = false) (scale : Nat)
    (more : List Int) : (addParts 0 scale (units ++ more) : Int) = units.sum + addParts 0 scale more := by
  induction units with
  | nil => exact (Int.zero_add _).symm
  | cons part units ih =>
    obtain ⟨here, later⟩ := List.forall_mem_cons.mp other
    rw [List.cons_append, addParts_other (isThousands_of_isHundreds here) here, addParts_total, ih later,
      List.sum_cons, Int.add_assoc]
    exact congrArg (· + _) (Int.zero_add part)

/-- The units that parts end with, behind the last multiple of a hundred. -/
def lastUnits (parts : List Int) : List Int := parts.rtakeWhile fun p => !isHundreds p

def withoutLastUnits (parts : List Int) : List Int := parts.rdropWhile fun p => !isHundreds p

theorem placeValue_lastUnits (parts : List Int) :
    (placeValue parts : Int) = (lastUnits parts).sum + placeValue (withoutLastUnits parts) := by
  have units : ∀ part ∈ parts.reverse.takeWhile (fun p => !isHundreds p), isHundreds part = false := by
    intro part member
    simpa using List.mem_takeWhile_imp member
  have split := addParts_units units 0 (parts.reverse.dropWhile fun p => !isHundreds p)
  rw [List.takeWhile_append_dropWhile] at split
  rw [placeValue, placeValue, lastUnits, withoutLastUnits, List.rtakeWhile, List.rdropWhile, List.reverse_reverse,
    List.sum_reverse]
  exact split

/-- A zero takes the units in front of it with it. -/
theorem placeValue_zero_last (parts : List Int) :
    (placeValue (parts ++ [0]) : Int) = placeValue (withoutLastUnits parts) := by
  have zero : isThousands 0 = true ∧ tens 0 = 0 := by decide
  have units : (sum (parts.reverse.takeWhile fun p => !isHundreds p) : Int) = (lastUnits parts).sum := by
    rw [sum_eq, lastUnits, List.rtakeWhile, List.sum_reverse]
  rw [placeValue, List.reverse_append, List.reverse_singleton, List.singleton_append, addParts_cons, onto_eq, step]
  simp only [zero, units, if_true]
  split
  next cancelled =>
    have none : (lastUnits parts).sum = 0 := eq_of_beq cancelled
    have value := placeValue_lastUnits parts
    rw [none, Int.zero_add] at value
    rw [← value, placeValue]
    split <;> rfl
  next =>
    rw [placeValue, withoutLastUnits, List.rdropWhile, List.reverse_reverse]
    show addParts (0 + (lastUnits parts).sum * 0) 0 _ = addParts 0 0 _
    rw [Int.mul_zero, Int.add_zero]

def EndsInScale (parts : List Int) : Prop := ∃ scale ∈ parts.getLast?, isThousands scale = true

theorem EndsInScale.exists_reverse {parts : List Int} (ends : EndsInScale parts) :
    ∃ scale earlier, parts.reverse = scale :: earlier ∧ IsClosed (scale :: earlier) := by
  obtain ⟨scale, last, thousands⟩ := ends
  have first : parts.reverse.head? = some scale := by
    rw [List.head?_reverse]
    exact last
  obtain ⟨earlier, reversed⟩ := List.head?_eq_some_iff.mp first
  exact ⟨scale, earlier, reversed, fun part member => Option.some.inj member ▸ thousands⟩

theorem placeValue_append {parts : List Int} (ends : EndsInScale parts) (more : List Int) :
    (placeValue (parts ++ more) : Int) = placeValue parts + placeValue more - scaleOf more.head? := by
  obtain ⟨scale, earlier, reversed, closed⟩ := ends.exists_reverse
  have split := addParts_append (List.cons_ne_nil scale earlier) closed 0 0 more.reverse
  rw [List.getLast?_reverse] at split
  rw [placeValue, placeValue, placeValue, List.reverse_append, reversed]
  show addParts (0 : Int) 0 _ = addParts 0 0 _ + addParts 0 0 _ - _
  omega

theorem placeValue_zero_behind_scale {α : Type} [Arithmetic α] (zero : isZero (ofInt 0 : α) = true)
    {before : List Int} (ends : EndsInScale before) (after : List Int) :
    (placeValue (before ++ 0 :: after) : α) = placeValue (before ++ after) := by
  obtain ⟨scale, earlier, reversed, closed⟩ := ends.exists_reverse
  have zeroes : IsClosed (0 :: scale :: earlier) := fun part member => by
    rw [← Option.some.inj member]
    rfl
  rw [placeValue, placeValue, List.reverse_append, List.reverse_append, List.reverse_cons, List.append_assoc,
    List.singleton_append, reversed]
  refine addParts_append_congr zero (List.cons_ne_nil _ _) (List.cons_ne_nil _ _) zeroes closed ?_ _ _ _
  intro total scale'
  rw [addParts_scale_covered rfl (isHundreds_of_isThousands (closed scale rfl)) zero]
  exact addParts_closed closed scale'

/-- A zero loses the units in front of it and a bare scale behind it, and what is in front of it counts on its own. So at
the beginning it adds nothing exactly if no scale but zero follows it, and at the end exactly if the units before it
cancel; right behind a scale it adds nothing, in any arithmetic. -/
theorem placeValue_insert_zero (before after : List Int) :
    ((placeValue (before ++ 0 :: after) : Int) =
      placeValue (withoutLastUnits before) + placeValue after - scaleOf after.head?) ∧
    ((placeValue (0 :: after) : Int) = placeValue after ↔ scaleOf after.head? = 0) ∧
    ((placeValue (before ++ [0]) : Int) = placeValue before ↔ (lastUnits before).sum = 0) ∧
    (EndsInScale before → ∀ {α : Type} [Arithmetic α], isZero (ofInt 0 : α) = true →
      (placeValue (before ++ 0 :: after) : α) = placeValue (before ++ after)) := by
  have value (before : List Int) : (placeValue (before ++ 0 :: after) : Int) =
      placeValue (withoutLastUnits before) + placeValue after - scaleOf after.head? := by
    rw [List.append_cons, placeValue_append ⟨0, List.getLast?_concat, rfl⟩, placeValue_zero_last]
  refine ⟨value before, ?_, ?_, fun ends _ _ zero => placeValue_zero_behind_scale zero ends after⟩
  · have first := value []
    have nothing : (placeValue (withoutLastUnits []) : Int) = 0 := addParts_nil
    rw [List.nil_append, nothing] at first
    omega
  · have whole := placeValue_lastUnits before
    rw [placeValue_zero_last]
    omega

theorem placeValue_insert_zero_five :
    (placeValue [5, 0] : Int) = 0 ∧ (placeValue [5] : Int) = 5 ∧
      (placeValue [5, 1000, 0, 3, 100] : Int) = placeValue [5, 1000, 3, 100] := by
  refine ⟨?_, by decide +kernel, ?_⟩
  · exact (placeValue_insert_zero [5] []).1.trans (by decide +kernel)
  · exact (placeValue_insert_zero [5, 1000] [3, 100]).2.2.2 ⟨1000, rfl, rfl⟩ rfl

end Whole

end PlaceValue

end TurkishDates
