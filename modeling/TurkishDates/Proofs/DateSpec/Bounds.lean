import TurkishDates.DateSpec

/-!
Numbers between bounds, and computations that only fail for known causes. A computation meets a list of
causes and a property when each of its failures is in the list and its value has the property; causes
of computations one after the other add up.
-/

namespace TurkishDates

structure Bounds where
  low : Int
  high : Int
deriving DecidableEq, Repr

namespace Bounds

instance : Membership Int Bounds := ⟨fun bounds n => bounds.low ≤ n ∧ n ≤ bounds.high⟩

instance : Neg Bounds := ⟨fun bounds => ⟨-bounds.high, -bounds.low⟩⟩

instance : Add Bounds := ⟨fun first second => ⟨first.low + second.low, first.high + second.high⟩⟩

def only (n : Int) : Bounds := ⟨n, n⟩

def words : Bounds := ⟨leastWord, greatestWord⟩

def isWithin (inner outer : Bounds) : Bool := outer.low ≤ inner.low && inner.high ≤ outer.high

theorem mem_iff {n : Int} {bounds : Bounds} : n ∈ bounds ↔ bounds.low ≤ n ∧ n ≤ bounds.high := Iff.rfl

theorem mem_only (n : Int) : n ∈ only n := ⟨Int.le_refl n, Int.le_refl n⟩

theorem neg_mem {n : Int} {bounds : Bounds} (inside : n ∈ bounds) : -n ∈ -bounds :=
  ⟨Int.neg_le_neg inside.2, Int.neg_le_neg inside.1⟩

theorem add_mem {m n : Int} {first second : Bounds} (inFirst : m ∈ first) (inSecond : n ∈ second) :
    m + n ∈ first + second :=
  ⟨Int.add_le_add inFirst.1 inSecond.1, Int.add_le_add inFirst.2 inSecond.2⟩

theorem mem_of_isWithin {n : Int} {inner outer : Bounds} (within : inner.isWithin outer = true)
    (inside : n ∈ inner) : n ∈ outer := by
  simp only [isWithin, Bool.and_eq_true, decide_eq_true_eq] at within
  exact ⟨Int.le_trans within.1 inside.1, Int.le_trans inside.2 within.2⟩

theorem fitsWord_iff {n : Int} : fitsWord n = true ↔ n ∈ words := by
  simp only [fitsWord, Bool.and_eq_true, decide_eq_true_eq, mem_iff, words]

end Bounds

/-- Whether the computation only fails for one of the causes, and its value has the property. -/
def Meets {α : Type} (causes : List BuildError) (holds : α → Prop) : Except BuildError α → Prop
  | .ok value => holds value
  | .error cause => cause ∈ causes

/-- The cause of a failure, unless something makes sure that there is none. -/
def causeUnless (sure : Bool) (cause : BuildError) : List BuildError := if sure then [] else [cause]

theorem bind_eq_ok_iff {α β : Type} {x : Except BuildError α} {next : α → Except BuildError β} {answer : β} :
    (x >>= next) = .ok answer ↔ ∃ value, x = .ok value ∧ next value = .ok answer := by
  cases x with
  | error cause =>
    constructor
    · intro absurdly
      cases absurdly
    · intro ⟨value, absurdly, _⟩
      cases absurdly
  | ok value =>
    constructor
    · intro answered
      exact ⟨value, rfl, answered⟩
    · intro ⟨_, same, answered⟩
      cases same
      exact answered

namespace Meets

variable {α β : Type} {causes later : List BuildError} {holds : α → Prop} {result : β → Prop}

theorem bind {x : Except BuildError α} {next : α → Except BuildError β} (first : Meets causes holds x)
    (rest : ∀ value, holds value → Meets later result (next value)) :
    Meets (causes ++ later) result (x >>= next) := by
  cases x with
  | error cause => exact List.mem_append_left later first
  | ok value =>
    have after := rest value first
    change Meets (causes ++ later) result (next value)
    cases computed : next value with
    | error cause =>
      rw [computed] at after
      exact List.mem_append_right causes after
    | ok answer =>
      rw [computed] at after
      exact after

theorem weaken {x : Except BuildError α} {property : α → Prop} (meets : Meets causes holds x)
    (known : causes ⊆ later) (implies : ∀ value, holds value → property value) :
    Meets later property x := by
  cases x with
  | error cause => exact known meets
  | ok value => exact implies value meets

theorem and_of_ok {x : Except BuildError α} {property : α → Prop} (meets : Meets causes holds x)
    (more : ∀ value, x = .ok value → property value) :
    Meets causes (fun value => holds value ∧ property value) x := by
  cases x with
  | error cause => exact meets
  | ok value => exact ⟨meets, more value rfl⟩

theorem exists_ok {x : Except BuildError α} (meets : Meets causes holds x) (never : causes = []) :
    ∃ value, x = .ok value := by
  cases x with
  | error cause =>
    rw [Meets, never] at meets
    cases meets
  | ok value => exact ⟨value, rfl⟩

end Meets

theorem mem_causeUnless {sure : Bool} {cause : BuildError} (unsure : sure ≠ true) :
    cause ∈ causeUnless sure cause := by
  simp [causeUnless, unsure]

theorem meets_of_fitsWord {n : Int} {bounds : Bounds} (inside : n ∈ bounds) (cause : BuildError) :
    Meets (causeUnless (bounds.isWithin .words) cause) (· ∈ bounds)
      (if fitsWord n then .ok n else .error cause) := by
  split
  · exact inside
  next tooLarge =>
    apply mem_causeUnless
    intro within
    exact tooLarge (Bounds.fitsWord_iff.mpr (Bounds.mem_of_isWithin within inside))

theorem DateSpec.found_eq_ok_iff {α : Type} {cause : BuildError} {option : Option α} {value : α} :
    DateSpec.found cause option = .ok value ↔ option = some value := by
  cases option with
  | none => simp [DateSpec.found]
  | some found => simp [DateSpec.found]

theorem found_meets {α : Type} {option : Option α} {holds : α → Prop} {sure : Bool} (cause : BuildError)
    (right : ∀ value, option = some value → holds value) (known : sure = true → option.isSome = true) :
    Meets (causeUnless sure cause) holds (DateSpec.found cause option) := by
  cases option with
  | some value => exact right value rfl
  | none =>
    apply mem_causeUnless
    intro isSure
    cases known isSure

end TurkishDates
