import Mathlib.Algebra.Ring.Nat
import TurkishDates.Numeral.PlaceValue

/-!
The place value of groups of three digits. Each group stands before its scale, a power of a thousand, and
is added at that scale, whatever is there already. The arithmetic has to be exact on whole numbers as
large as the result, as that of binary floating-point numbers is up to `2 ^ 53`.
-/

namespace TurkishDates

open Arithmetic

/-- Whether sums and products are right as long as neither they nor what they are made of exceed the bound.
Nothing is said of larger numbers: in binary floating point they may be infinite, and zero times infinity is no
number. -/
structure Arithmetic.IsExact (α : Type) [Arithmetic α] (bound : Nat) : Prop where
  add : ∀ a b : Nat, a + b ≤ bound → add (ofInt a) (ofInt b : α) = ofInt (a + b : Nat)
  mul : ∀ a b : Nat, a ≤ bound → b ≤ bound → a * b ≤ bound → mul (ofInt a) (ofInt b : α) = ofInt (a * b : Nat)
  isZero : ∀ a : Nat, a ≤ bound → isZero (ofInt a : α) = (a == 0)

/-- Whole numbers of any size, with the quotient cut off. -/
instance : Arithmetic Int where
  ofInt n := n
  add := (· + ·)
  sub := (· - ·)
  mul := (· * ·)
  div := Int.tdiv
  isZero n := n == 0

theorem Arithmetic.isExact_int (bound : Nat) : IsExact Int bound where
  add a b _ := (Int.natCast_add a b).symm
  mul a b _ _ _ := (Int.natCast_mul a b).symm
  isZero a _ := by
    show ((a : Int) == 0) = (a == 0)
    rw [Bool.eq_iff_iff, beq_iff_eq, beq_iff_eq, Int.natCast_eq_zero]

variable {α : Type} [Arithmetic α] {bound : Nat}

theorem Arithmetic.IsExact.mul_of_pos (exact : IsExact α bound) {a b : Nat} (positive : 0 < a ∧ 0 < b)
    (small : a * b ≤ bound) : Arithmetic.mul (ofInt a) (ofInt b : α) = ofInt (a * b : Nat) :=
  exact.mul a b (Nat.le_trans (Nat.le_mul_of_pos_right a positive.2) small)
    (Nat.le_trans (Nat.le_mul_of_pos_left b positive.1) small) small

theorem Arithmetic.mul_pow_halves {M : Type} [Monoid M] (done base : M) (n : Nat) :
    done * base ^ (n % 2) * (base * base) ^ (n / 2) = done * base ^ n := by
  rw [← pow_two, ← pow_mul, mul_assoc, ← pow_add, Nat.mod_add_div]

theorem Arithmetic.IsExact.squarings (exact : IsExact α bound) (n done base : Nat)
    (positive : 0 < done ∧ 0 < base) (small : done * base ^ n ≤ bound) :
    Arithmetic.squarings (ofInt done) (ofInt base) n = (ofInt (done * base ^ n : Nat) : α) := by
  induction n using Nat.strongRecOn generalizing done base with
  | ind n ih =>
    have lowest : (if n % 2 = 1 then Arithmetic.mul (ofInt done) (ofInt base) else ofInt done : α) =
        ofInt (done * base ^ (n % 2) : Nat) := by
      have bit : done * base ^ (n % 2) ≤ bound :=
        Nat.le_trans (Nat.mul_le_mul_left done (Nat.pow_le_pow_right positive.2 (Nat.mod_le n 2))) small
      rcases Nat.mod_two_eq_zero_or_one n with even | odd
      · rw [even, if_neg (by decide), Nat.pow_zero, Nat.mul_one]
      · rw [odd, Nat.pow_one] at bit ⊢
        rw [if_pos rfl, exact.mul_of_pos positive bit]
    have power := mul_pow_halves done base n
    rw [Arithmetic.squarings, lowest]
    by_cases last : n / 2 = 0
    · rw [last, Nat.pow_zero, Nat.mul_one] at power
      rw [dif_pos last, power]
    · have square : base * base ≤ bound := by
        have two : base * base ≤ base ^ n := by
          rw [← Nat.pow_two]
          exact Nat.pow_le_pow_right positive.2 (by omega)
        exact Nat.le_trans (Nat.le_trans two (Nat.le_mul_of_pos_left _ positive.1)) small
      have halves := ih (n / 2) (by omega) (done * base ^ (n % 2)) (base * base)
        ⟨Nat.mul_pos positive.1 (Nat.pow_pos positive.2), Nat.mul_pos positive.2 positive.2⟩
        (by rwa [power])
      rw [dif_neg last, exact.mul_of_pos ⟨positive.2, positive.2⟩ square, halves, power]

theorem Arithmetic.IsExact.tenPower (exact : IsExact α bound) {n : Nat} (small : 10 ^ n ≤ bound) :
    Arithmetic.tenPower α n = ofInt (10 ^ n : Nat) := by
  have powers := exact.squarings n 1 10 ⟨by decide, by decide⟩ (by rwa [Nat.one_mul])
  rwa [Nat.one_mul] at powers

namespace PlaceValue

def digitParts (unit digit : Nat) : List Int := if digit = 0 then [] else [(unit * digit : Nat)]

/-- The parts of a digit that counts hundreds: a lone hundred for one, two parts for the others. -/
def hundredParts (digit : Nat) : List Int :=
  if digit = 0 then [] else if digit = 1 then [100] else [(digit : Nat), 100]

def lowParts (group : Nat) : List Int := digitParts 10 (group / 10 % 10) ++ digitParts 1 (group % 10)

def groupParts (group : Nat) : List Int := hundredParts (group / 100) ++ lowParts group

def scaleParts (scale group : Nat) : List Int :=
  if group = 0 then [] else groupParts group ++ [((10 ^ scale : Nat) : Int)]

/-- How hundreds are spelled: not at all, by a lone hundred, or by a hundred behind its digit. -/
inductive Hundreds where
  | none
  | lone
  | times (digit : Nat) (positive : digit ≠ 0) (single : digit < 10)

namespace Hundreds

def digit : Hundreds → Nat
  | none => 0
  | lone => 1
  | times digit _ _ => digit

def parts : Hundreds → List Int
  | none => []
  | lone => [100]
  | times digit _ _ => [(digit : Nat), 100]

end Hundreds

structure Group where
  hundreds : Hundreds
  ten : Fin 10
  unit : Fin 10

namespace Group

def lowNumber (group : Group) : Nat := 10 * group.ten + group.unit

def number (group : Group) : Nat := group.hundreds.digit * 100 + group.lowNumber

def low (group : Group) : List Int := digitParts 10 group.ten ++ digitParts 1 group.unit

def parts (group : Group) : List Int := group.hundreds.parts ++ group.low

end Group

theorem exists_hundreds {digit : Nat} (single : digit < 10) :
    ∃ hundreds : Hundreds, hundreds.digit = digit ∧ hundreds.parts = hundredParts digit := by
  unfold hundredParts
  split
  next zero => exact ⟨.none, zero.symm, rfl⟩
  next nonzero =>
    split
    next one => exact ⟨.lone, one.symm, rfl⟩
    next => exact ⟨.times digit nonzero single, rfl, rfl⟩

theorem exists_group {number : Nat} (short : number < 1000) :
    ∃ group : Group, group.number = number ∧ group.parts = groupParts number := by
  obtain ⟨hundreds, digit, parts⟩ := exists_hundreds (show number / 100 < 10 by omega)
  refine ⟨⟨hundreds, ⟨number / 10 % 10, by omega⟩, ⟨number % 10, by omega⟩⟩, ?_, ?_⟩
  · simp only [Group.number, Group.lowNumber, digit]
    omega
  · rw [Group.parts, parts, groupParts, lowParts, Group.low]

/-- Whether parts are written from the last to the first and end in front of a scale, or there are none. -/
def IsClosed (before : List Int) : Prop := ∀ part ∈ before.head?, isThousands part = true

theorem isClosed_nil : IsClosed [] := fun _ absent => nomatch absent

theorem isHundreds_of_isThousands {part : Int} (thousands : isThousands part = true) :
    isHundreds part = true := by
  simp only [isThousands, isHundreds, beq_iff_eq] at thousands ⊢
  have divides : (1000 : Int) ∣ part := Int.dvd_of_tmod_eq_zero thousands
  exact Int.tmod_eq_zero_of_dvd (Int.dvd_trans (by decide) divides)

section Equations

variable {total : α} {scale : Nat} {part : Int} {before : List Int}

theorem addParts_nil : addParts total scale [] = total := by
  rw [addParts]

theorem addParts_scale_times (thousands : isThousands part = true)
    (group : isZero (sum (before.takeWhile fun p => !isHundreds p) : α) = false) :
    addParts total scale (part :: before) =
      addParts (add total (mul (sum (before.takeWhile fun p => !isHundreds p)) (ofInt part))) (tens part)
        (before.dropWhile fun p => !isHundreds p) := by
  rw [addParts.eq_def]
  simp only [thousands, group, if_true, Bool.not_false]

theorem addParts_scale_alone (thousands : isThousands part = true)
    (nothing : isZero (sum [] : α) = true) :
    addParts total scale [part] = addParts (add total (ofInt part)) (tens part) [] := by
  rw [addParts.eq_def]
  simp [thousands, nothing]

theorem addParts_scale_covered (thousands : isThousands part = true) {previous : Int}
    (hundreds : isHundreds previous = true) (nothing : isZero (sum [] : α) = true) :
    addParts total scale (part :: previous :: before) =
      addParts total (tens part) (previous :: before) := by
  rw [addParts.eq_def]
  simp [thousands, hundreds, nothing]

theorem addParts_hundreds_alone (below : isThousands part = false) (hundreds : isHundreds part = true)
    (alone : ∀ previous ∈ before.head?, isHundreds previous = true) :
    addParts total scale (part :: before) =
      addParts (add total (mul (ofInt part) (tenPower α scale))) scale before := by
  rw [addParts.eq_def]
  cases before with
  | nil => simp [below, hundreds]
  | cons previous before => simp [below, hundreds, alone previous rfl]

theorem addParts_hundreds_times (below : isThousands part = false) (hundreds : isHundreds part = true)
    {previous : Int} (other : isHundreds previous = false) :
    addParts total scale (part :: previous :: before) =
      addParts (add total (mul (mul (ofInt previous) (ofInt 100)) (tenPower α scale))) scale before := by
  rw [addParts.eq_def]
  simp [below, hundreds, other]

theorem addParts_other (below : isThousands part = false) (other : isHundreds part = false) :
    addParts total scale (part :: before) = addParts (add total (ofInt part)) scale before := by
  rw [addParts.eq_def]
  simp [below, other]

/-- Parts that are closed open their own scale first. -/
theorem addParts_closed (closed : IsClosed before) (scale' : Nat) :
    addParts total scale before = addParts total scale' before := by
  cases before with
  | nil => rw [addParts_nil, addParts_nil]
  | cons part before =>
    rw [addParts.eq_def, addParts.eq_def total scale']
    simp only [closed part rfl, if_true]

end Equations

/-- The hundreds of a group count at the scale opened last. -/
theorem addParts_hundreds (exact : IsExact α bound) {total scale : Nat} {before : List Int}
    (closed : IsClosed before) (hundreds : Hundreds) (power : 10 ^ scale ≤ bound)
    (small : total + hundreds.digit * 100 * 10 ^ scale ≤ bound) :
    addParts (ofInt total) scale (hundreds.parts.reverse ++ before) =
      addParts (ofInt (total + hundreds.digit * 100 * 10 ^ scale : Nat) : α) scale before := by
  have hundred : isThousands 100 = false ∧ isHundreds 100 = true := by decide
  have whole : hundreds.digit * 100 * 10 ^ scale ≤ bound := Nat.le_trans (Nat.le_add_left _ _) small
  cases hundreds with
  | none => simp [Hundreds.parts, Hundreds.digit]
  | lone =>
    rw [Hundreds.digit, Nat.one_mul] at whole small
    have alone := fun previous member => isHundreds_of_isThousands (closed previous member)
    rw [Hundreds.parts, Hundreds.digit, List.reverse_singleton, List.singleton_append,
      addParts_hundreds_alone hundred.1 hundred.2 alone, exact.tenPower power, Nat.one_mul]
    rw [show (100 : Int) = (100 : Nat) from rfl, exact.mul_of_pos ⟨by decide, Nat.pow_pos (by decide)⟩ whole,
      exact.add total _ small]
  | times digit positive single =>
    have others : ∀ digit < 10, digit ≠ 0 → isHundreds (digit : Nat) = false := by decide
    rw [Hundreds.digit] at whole small
    have product : digit * 100 ≤ bound :=
      Nat.le_trans (Nat.le_mul_of_pos_right _ (Nat.pow_pos (by decide))) whole
    have nonzero : 0 < digit := Nat.pos_of_ne_zero positive
    show addParts (ofInt total) scale (100 :: (digit : Int) :: before) = _
    rw [addParts_hundreds_times hundred.1 hundred.2 (others digit single positive), exact.tenPower power]
    rw [show (100 : Int) = (100 : Nat) from rfl, exact.mul_of_pos ⟨nonzero, by decide⟩ product,
      exact.mul _ _ product power whole, exact.add total _ small, Hundreds.digit]

theorem reverse_digitParts (unit digit : Nat) : (digitParts unit digit).reverse = digitParts unit digit := by
  unfold digitParts
  split <;> rfl

theorem Group.reverse_low (group : Group) : group.low.reverse = digitParts 1 group.unit ++ digitParts 10 group.ten := by
  rw [low, List.reverse_append, reverse_digitParts, reverse_digitParts]

theorem isHundreds_of_mem_digitParts {unit digit : Nat} (single : digit < 10) (units : unit = 1 ∨ unit = 10) :
    ∀ part ∈ digitParts unit digit, isHundreds part = false := by
  have checked : ∀ unit ∈ [1, 10], ∀ digit < 10, ∀ part ∈ digitParts unit digit, isHundreds part = false := by
    decide
  exact checked unit (by simpa using units) digit single

theorem isThousands_of_isHundreds {part : Int} (below : isHundreds part = false) :
    isThousands part = false := by
  cases thousands : isThousands part with
  | false => rfl
  | true =>
    rw [isHundreds_of_isThousands thousands] at below
    cases below

theorem foldl_digitParts (exact : IsExact α bound) {total unit digit : Nat}
    (small : total + unit * digit ≤ bound) :
    (digitParts unit digit).foldl (fun total part => add total (ofInt part)) (ofInt total : α) =
      ofInt (total + unit * digit : Nat) := by
  unfold digitParts
  split
  next zero => rw [zero]; rfl
  next => exact exact.add total _ small

theorem sum_reverse_low (exact : IsExact α bound) {group : Group} (small : group.lowNumber ≤ bound) :
    (sum group.low.reverse : α) = ofInt group.lowNumber := by
  have value : 0 + 1 * group.unit + 10 * group.ten = group.lowNumber := by
    rw [Group.lowNumber]
    omega
  rw [sum, group.reverse_low, List.foldl_append]
  rw [show (0 : Int) = (0 : Nat) from rfl, foldl_digitParts exact (by omega),
    foldl_digitParts exact (by omega), value]

theorem addParts_digitParts (exact : IsExact α bound) {total scale unit digit : Nat} {before : List Int}
    (single : digit < 10) (units : unit = 1 ∨ unit = 10) (small : total + unit * digit ≤ bound) :
    addParts (ofInt total) scale (digitParts unit digit ++ before) =
      addParts (ofInt (total + unit * digit : Nat) : α) scale before := by
  have below := isHundreds_of_mem_digitParts single units
  unfold digitParts at below ⊢
  split
  next zero => rw [zero]; rfl
  next nonzero =>
    rw [if_neg nonzero] at below
    have other := below _ (List.mem_singleton_self _)
    rw [List.singleton_append, addParts_other (isThousands_of_isHundreds other) other,
      exact.add total _ small]

theorem addParts_group (exact : IsExact α bound) {total : Nat} {before : List Int} (closed : IsClosed before)
    (group : Group) (small : total + group.number ≤ bound) (positive : 0 < bound) :
    addParts (ofInt total) 0 (group.parts.reverse ++ before) =
      addParts (ofInt (total + group.number : Nat) : α) 0 before := by
  have value : total + 1 * group.unit + 10 * group.ten + group.hundreds.digit * 100 * 10 ^ 0 =
      total + group.number := by
    rw [Group.number, Group.lowNumber]
    omega
  rw [Group.parts, List.reverse_append, group.reverse_low, List.append_assoc, List.append_assoc,
    addParts_digitParts exact group.unit.isLt (.inl rfl) (by omega),
    addParts_digitParts exact group.ten.isLt (.inr rfl) (by omega),
    addParts_hundreds exact closed _ positive (by omega), value]

theorem addParts_groupParts (exact : IsExact α bound) {total number : Nat} {before : List Int}
    (closed : IsClosed before) (short : number < 1000) (small : total + number ≤ bound) (positive : 0 < bound) :
    addParts (ofInt total) 0 ((groupParts number).reverse ++ before) =
      addParts (ofInt (total + number : Nat) : α) 0 before := by
  obtain ⟨group, rfl, same⟩ := exists_group short
  rw [← same]
  exact addParts_group exact closed group small positive

theorem isHundreds_of_mem_low (group : Group) : ∀ part ∈ group.low.reverse, isHundreds part = false := by
  intro part member
  rcases List.mem_append.mp (List.mem_reverse.mp member) with ten | one
  · exact isHundreds_of_mem_digitParts group.ten.isLt (.inr rfl) part ten
  · exact isHundreds_of_mem_digitParts group.unit.isLt (.inl rfl) part one

theorem Hundreds.exists_reverse {hundreds : Hundreds} (nonzero : hundreds.digit ≠ 0) :
    ∃ earlier, hundreds.parts.reverse = 100 :: earlier := by
  cases hundreds with
  | none => exact absurd rfl nonzero
  | lone => exact ⟨[], rfl⟩
  | times digit positive single => exact ⟨[(digit : Int)], rfl⟩

theorem isHundreds_of_head? (hundreds : Hundreds) {before : List Int} (closed : IsClosed before) :
    ∀ part ∈ (hundreds.parts.reverse ++ before).head?, isHundreds part = true := by
  intro part member
  cases hundreds with
  | none => exact isHundreds_of_isThousands (closed part member)
  | lone =>
    rw [← Option.some.inj member]
    decide
  | times digit positive single =>
    rw [← Option.some.inj member]
    decide

/-- Whether parts add an amount to the value behind whatever is closed, and keep it closed. -/
structure Counts (α : Type) [Arithmetic α] (bound : Nat) (parts : List Int) (amount : Nat) : Prop where
  closed : ∀ {before : List Int}, IsClosed before → IsClosed (parts.reverse ++ before)
  adds : ∀ {total : Nat} {before : List Int}, IsClosed before → total + amount ≤ bound →
    addParts (ofInt total) 0 (parts.reverse ++ before) = addParts (ofInt (total + amount : Nat) : α) 0 before

namespace Counts

theorem nil : Counts α bound [] 0 := ⟨fun closed => closed, fun _ _ => rfl⟩

theorem append {first second : List Int} {amount next : Nat} (counts : Counts α bound first amount)
    (later : Counts α bound second next) : Counts α bound (first ++ second) (amount + next) where
  closed closed := by
    rw [List.reverse_append, List.append_assoc]
    exact later.closed (counts.closed closed)
  adds {total before} closed small := by
    rw [List.reverse_append, List.append_assoc, later.adds (counts.closed closed) (by omega),
      counts.adds closed (by omega), Nat.add_assoc, Nat.add_comm next]

theorem flatMap {ι : Type} {entries : List ι} {parts : ι → List Int} {amount : ι → Nat}
    (each : ∀ entry ∈ entries, Counts α bound (parts entry) (amount entry)) :
    Counts α bound (entries.flatMap parts) (entries.map amount).sum := by
  induction entries with
  | nil => exact nil
  | cons entry entries ih =>
    obtain ⟨here, later⟩ := List.forall_mem_cons.mp each
    rw [List.flatMap_cons, List.map_cons, List.sum_cons]
    exact here.append (ih later)

variable {parts : List Int} {amount : Nat}

theorem isClosed_reverse (counts : Counts α bound parts amount) : IsClosed parts.reverse := by
  have closed := counts.closed isClosed_nil
  rwa [List.append_nil] at closed

theorem addParts_reverse (counts : Counts α bound parts amount) {total : Nat} (small : total + amount ≤ bound) :
    addParts (ofInt total) 0 parts.reverse = (ofInt (total + amount : Nat) : α) := by
  have adds := counts.adds isClosed_nil small
  rwa [List.append_nil, addParts_nil] at adds

end Counts

theorem counts_group (exact : IsExact α bound) (group : Group) (nonzero : group.number ≠ 0) {scale : Nat}
    (isScale : isThousands (10 ^ scale : Nat) = true ∧ tens (10 ^ scale : Nat) = scale) :
    Counts α bound (group.parts ++ [((10 ^ scale : Nat) : Int)]) (group.number * 10 ^ scale) where
  closed _ := by
    rw [List.reverse_append]
    intro part member
    rw [← Option.some.inj member]
    exact isScale.1
  adds {total before} closed small := by
    have heads := isHundreds_of_head? group.hundreds closed
    have low := isHundreds_of_mem_low group
    generalize hundreds : group.hundreds.parts.reverse ++ before = tail at heads
    have stops : tail.takeWhile (fun p => !isHundreds p) = [] ∧ tail.dropWhile (fun p => !isHundreds p) = tail := by
      cases tail with
      | nil => exact ⟨rfl, rfl⟩
      | cons part tail =>
        have first := heads part rfl
        exact ⟨List.takeWhile_cons_of_neg (by simp [first]), List.dropWhile_cons_of_neg (by simp [first])⟩
    have taken : (group.low.reverse ++ tail).takeWhile (fun p => !isHundreds p) = group.low.reverse := by
      rw [List.takeWhile_append_of_pos fun part member => by simp [low part member], stops.1,
        List.append_nil]
    have dropped : (group.low.reverse ++ tail).dropWhile (fun p => !isHundreds p) = tail := by
      rw [List.dropWhile_append_of_pos fun part member => by simp [low part member], stops.2]
    have power : 10 ^ scale ≤ bound := by
      have once := Nat.le_mul_of_pos_left (10 ^ scale) (Nat.pos_of_ne_zero nonzero)
      omega
    have split : group.number * 10 ^ scale =
        group.lowNumber * 10 ^ scale + group.hundreds.digit * 100 * 10 ^ scale := by
      rw [Group.number, Nat.add_mul, Nat.add_comm]
    have rest : group.lowNumber ≤ bound := by
      have once := Nat.le_mul_of_pos_right group.lowNumber (Nat.pow_pos (n := scale) (show 0 < 10 by decide))
      omega
    rw [List.reverse_append, List.reverse_singleton, List.singleton_append, Group.parts, List.reverse_append,
      List.cons_append, List.append_assoc, hundreds]
    by_cases full : group.lowNumber = 0
    · -- nothing multiplies the scale itself: its hundreds come next and count at it
      have nothing : isZero (sum [] : α) = true := exact.isZero 0 (Nat.zero_le _)
      have noLow : group.low = [] := by
        rw [Group.lowNumber] at full
        rw [Group.low, show group.ten.val = 0 by omega, show group.unit.val = 0 by omega]
        rfl
      have hundredsOnly : group.number * 10 ^ scale = group.hundreds.digit * 100 * 10 ^ scale := by
        rw [split, full, Nat.zero_mul, Nat.zero_add]
      have digit : group.hundreds.digit ≠ 0 := by
        rw [Group.number, full] at nonzero
        omega
      obtain ⟨earlier, first⟩ := Hundreds.exists_reverse digit
      rw [first, List.cons_append] at hundreds
      rw [noLow, List.reverse_nil, List.nil_append, ← hundreds,
        addParts_scale_covered isScale.1 (by decide) nothing, ← List.cons_append, ← first, isScale.2,
        addParts_hundreds exact closed _ power (by omega), ← hundredsOnly]
      exact addParts_closed closed 0
    · have times : isZero (sum ((group.low.reverse ++ tail).takeWhile fun p => !isHundreds p) : α) = false := by
        rw [taken, sum_reverse_low exact rest, exact.isZero _ rest]
        simpa using full
      rw [addParts_scale_times isScale.1 times, taken, dropped, sum_reverse_low exact rest,
        exact.mul _ _ rest power (by omega), exact.add _ _ (by omega), isScale.2, ← hundreds,
        addParts_hundreds exact closed _ power (by omega), Nat.add_assoc, ← split]
      exact addParts_closed closed 0

theorem counts_scaleParts (exact : IsExact α bound) {scale number : Nat} (short : number < 1000)
    (isScale : isThousands (10 ^ scale : Nat) = true ∧ tens (10 ^ scale : Nat) = scale) :
    Counts α bound (scaleParts scale number) (number * 10 ^ scale) := by
  unfold scaleParts
  split
  next zero =>
    rw [zero, Nat.zero_mul]
    exact .nil
  next nonzero =>
    obtain ⟨group, rfl, same⟩ := exists_group short
    rw [← same]
    exact counts_group exact group nonzero isScale

/-- A scale without a group is added when nothing stands in front of it, and is lost behind another one. -/
theorem addParts_bare_scale (exact : IsExact α bound) (scale : Nat) {total : Nat} {before : List Int}
    (closed : IsClosed before) (isScale : isThousands (10 ^ scale : Nat) = true)
    (small : total + 10 ^ scale ≤ bound) :
    addParts (ofInt total) 0 ((10 ^ scale : Nat) :: before) =
      addParts (ofInt (if before = [] then total + 10 ^ scale else total : Nat) : α) 0 before := by
  have nothing : isZero (sum [] : α) = true := exact.isZero 0 (Nat.zero_le _)
  cases before with
  | nil => rw [if_pos rfl, addParts_scale_alone isScale nothing, exact.add _ _ small, addParts_nil, addParts_nil]
  | cons previous before =>
    have hundreds := isHundreds_of_isThousands (closed previous rfl)
    rw [if_neg (List.cons_ne_nil previous before), addParts_scale_covered isScale hundreds nothing]
    exact addParts_closed closed 0

/-- A group that is not zero, in front of a power of a thousand: `bin`, `milyon`, `milyar`, `trilyon` or
`katrilyon`. -/
structure Scaled where
  group : Group
  nonzero : group.number ≠ 0
  power : Nat
  named : 1 ≤ power ∧ power ≤ 5

namespace Scaled

def parts (scaled : Scaled) : List Int := scaled.group.parts ++ [((1000 ^ scaled.power : Nat) : Int)]

def amount (scaled : Scaled) : Nat := scaled.group.number * 1000 ^ scaled.power

theorem counts (exact : IsExact α bound) (scaled : Scaled) : Counts α bound scaled.parts scaled.amount := by
  have scales : ∀ power ≤ 5, 1 ≤ power →
      isThousands (10 ^ (3 * power) : Nat) = true ∧ tens (10 ^ (3 * power) : Nat) = 3 * power := by
    decide
  have counts := counts_group exact scaled.group scaled.nonzero (scales scaled.power scaled.named.2 scaled.named.1)
  rwa [Nat.pow_mul] at counts

end Scaled

/-- Groups before their scales and a last group add up, in whatever order the scales come. -/
theorem placeValue_scaled_groups (exact : IsExact α (2 ^ 53)) {scaled : List Scaled} {last : Group}
    (small : (scaled.map Scaled.amount).sum + last.number ≤ 2 ^ 53) :
    placeValue (scaled.flatMap Scaled.parts ++ last.parts) =
      (ofInt ((scaled.map Scaled.amount).sum + last.number : Nat) : α) := by
  have counts : Counts α (2 ^ 53) (scaled.flatMap Scaled.parts) (scaled.map Scaled.amount).sum :=
    .flatMap fun entry _ => entry.counts exact
  have zero : (ofInt 0 : α) = ofInt (0 : Nat) := rfl
  rw [placeValue, List.reverse_append, zero,
    addParts_group exact counts.isClosed_reverse last (by omega) (by decide),
    counts.addParts_reverse (by omega)]
  congr 2
  omega

theorem placeValue_scaled_groups_hundreds :
    (placeValue [1, 100, 20, 1000000, 100, 1000, 5, 100, 7] : Int) = ofInt (120100507 : Nat) := by
  let million : Scaled := ⟨⟨.times 1 (by decide) (by decide), 2, 0⟩, by decide, 2, by decide⟩
  let thousand : Scaled := ⟨⟨.lone, 0, 0⟩, by decide, 1, by decide⟩
  let last : Group := ⟨.times 5 (by decide) (by decide), 0, 7⟩
  have parts : [million, thousand].flatMap Scaled.parts ++ last.parts =
      [1, 100, 20, 1000000, 100, 1000, 5, 100, 7] := by decide
  have total : ([million, thousand].map Scaled.amount).sum + last.number = 120100507 := by decide
  rw [← parts, ← total]
  exact placeValue_scaled_groups (isExact_int _) (by decide)

end PlaceValue

end TurkishDates
