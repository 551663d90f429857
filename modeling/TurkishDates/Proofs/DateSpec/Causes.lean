import TurkishDates.Proofs.Calendar.MonthShift
import TurkishDates.Proofs.Calendar.Range
import TurkishDates.Proofs.DateSpec.Bounds
import TurkishDates.Proofs.DateSpec.Uses

/-!
The causes that a description can fail for. They are computed from its fields and the years that the
reference may lie in, with bounds on every number on the way, and building fails for no other cause when
each group that is read has a text that can be read.
-/

namespace TurkishDates

def GroupUse.bounds (use : GroupUse) : Bounds :=
  match use.table with
  | none => ⟨0, greatestWord⟩
  | some .weekdays => ⟨0, 6⟩
  | some .months => ⟨1, 12⟩

namespace Capture

def signedBounds (source : Capture) : Bounds :=
  if source.negated then -source.use.bounds else source.use.bounds

def bounds (source : Capture) : Bounds := source.signedBounds + .only source.offset

/-- Digits may spell a number that is too large; otherwise only negating and moving it can fail. -/
def causes (source : Capture) : List BuildError :=
  causeUnless source.names.isSome .numberTooLarge ++
    (causeUnless (source.signedBounds.isWithin .words) .overflow ++
      causeUnless (source.bounds.isWithin .words) .numberTooLarge)

end Capture

namespace Field

/-- Bounds of the value, when the value that an unset field takes is within the given ones. -/
def bounds (unset : Bounds) : Field → Bounds
  | .unset | .lastDay => unset
  | .literal value => .only value
  | .capture source => source.bounds

def causes : Field → List BuildError
  | .unset | .literal _ => []
  | .capture source => source.causes
  | .lastDay => [.misplacedLastDay]

end Field

namespace DateSpec

theorem weekdayOffset?_of_mem : ∀ name ∈ weekdayNames,
    (weekdayOffset? name).any (fun offset => 0 ≤ offset && offset ≤ 6) = true := by
  decide

theorem monthNumber?_of_mem : ∀ name ∈ monthNames,
    (monthNumber? name).any (fun number => 1 ≤ number && number ≤ 12) = true := by
  decide

theorem found_meets_of_any {option : Option Int} {low high : Int}
    (known : option.any (fun n => low ≤ n && n ≤ high) = true) (error : BuildError) :
    Meets [] (· ∈ (⟨low, high⟩ : Bounds)) (found error option) := by
  cases option with
  | none => cases known
  | some n =>
    simp only [Option.any_some, Bool.and_eq_true, decide_eq_true_eq] at known
    exact known

def lookUp (table : Option NameTable) (text : Text) : Except BuildError Int :=
  match table with
  | none => readNumeral text
  | some .weekdays => found .unknownName (weekdayOffset? text)
  | some .months => found .unknownName (monthNumber? text)

theorem lookUp_meets {use : GroupUse} {text : Text} (admitted : use.Admits text) :
    Meets (causeUnless use.table.isSome .numberTooLarge) (· ∈ use.bounds) (lookUp use.table text) := by
  obtain ⟨group, table⟩ := use
  cases table with
  | none =>
    simp only [lookUp, readNumeral, Numeral.readNumber_of_isDigits admitted]
    by_cases fits : fitsWord (digitsValue text) = true
    · rw [if_pos fits]
      have small := Bounds.fitsWord_iff.mp fits
      exact ⟨Int.natCast_nonneg _, small.2⟩
    · rw [if_neg fits]
      exact List.mem_singleton_self _
  | some table =>
    cases table with
    | weekdays => exact found_meets_of_any (weekdayOffset?_of_mem text admitted) .unknownName
    | months => exact found_meets_of_any (monthNumber?_of_mem text admitted) .unknownName

variable {captures : Captures}

theorem readCapture_eq {source : Capture} {text : Text}
    (group : captures.group? source.group = some text) :
    readCapture captures source = (lookUp source.names text >>= fun value =>
      (if source.negated then word (-value) else .ok value) >>= fun signed =>
        checked (signed + source.offset)) := by
  obtain ⟨index, names, negated, offset⟩ := source
  simp only [readCapture, show captures.group? index = some text from group]
  rcases names with _ | _ | _ <;> cases negated <;> rfl

theorem readCapture_meets {source : Capture} (met : source.use.IsMet captures) :
    Meets source.causes (· ∈ source.bounds) (readCapture captures source) := by
  obtain ⟨text, group, admitted⟩ := met
  rw [readCapture_eq group]
  apply (lookUp_meets admitted).bind
  intro value inside
  have signed : Meets (causeUnless (source.signedBounds.isWithin .words) .overflow)
      (· ∈ source.signedBounds) (if source.negated then word (-value) else .ok value) := by
    unfold Capture.signedBounds
    split
    · exact meets_of_fitsWord (Bounds.neg_mem inside) .overflow
    · exact inside
  apply signed.bind
  intro signed inside
  exact meets_of_fitsWord (Bounds.add_mem inside (Bounds.mem_only _)) .numberTooLarge

/-- A number within bounds that stay words is negated and moved like any whole number. -/
theorem readCapture_of_lookUp {source : Capture} {text : Text}
    (group : captures.group? source.group = some text) (admitted : source.use.Admits text) {n : Int}
    (read : lookUp source.names text = .ok n) (signed : source.signedBounds.isWithin .words = true)
    (moved : source.bounds.isWithin .words = true) :
    readCapture captures source = .ok ((if source.negated then -n else n) + source.offset) := by
  have inside : n ∈ source.use.bounds := by
    have meets := lookUp_meets admitted
    rw [show lookUp source.use.table text = .ok n from read] at meets
    exact meets
  have inSigned : (if source.negated then -n else n) ∈ source.signedBounds := by
    unfold Capture.signedBounds
    split
    · exact Bounds.neg_mem inside
    · exact inside
  have inMoved := Bounds.add_mem inSigned (Bounds.mem_only source.offset)
  have signedFits := Bounds.fitsWord_iff.mpr (Bounds.mem_of_isWithin signed inSigned)
  have movedFits := Bounds.fitsWord_iff.mpr (Bounds.mem_of_isWithin moved inMoved)
  rw [readCapture_eq group, read]
  cases negated : source.negated with
  | true =>
    simp only [negated, if_true] at signedFits movedFits ⊢
    change (word (-n) >>= fun signed => checked (signed + source.offset)) = _
    rw [word, if_pos signedFits]
    exact if_pos movedFits
  | false =>
    simp only [negated, Bool.false_eq_true, if_false] at movedFits ⊢
    exact if_pos movedFits

theorem valueOf_meets {field : Field} (met : ∀ source ∈ field.sources, source.use.IsMet captures)
    {unset : Int} {bounds : Bounds} (inside : unset ∈ bounds) :
    Meets field.causes (· ∈ field.bounds bounds) (valueOf captures unset field) := by
  cases field with
  | unset => exact inside
  | literal value => exact Bounds.mem_only value
  | capture source => exact readCapture_meets (met source List.mem_cons_self)
  | lastDay => exact List.mem_singleton_self _

end DateSpec

end TurkishDates
