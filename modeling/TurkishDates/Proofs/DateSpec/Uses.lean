import TurkishDates.DateSpec
import TurkishDates.Proofs.Numeral.Numeric

/-!
What a description reads of the captures. A number is read from a group as digits, or looked up in a
table of names, and nothing else of the captures matters.
-/

namespace TurkishDates

def NameTable.names : NameTable → List Text
  | .weekdays => weekdayNames
  | .months => monthNames

/-- A group that is read, and the table that its text is looked up in; digits where there is none. -/
structure GroupUse where
  group : Nat
  table : Option NameTable
deriving DecidableEq, Repr

namespace GroupUse

def Admits (use : GroupUse) (text : Text) : Prop :=
  match use.table with
  | none => Numeral.IsDigits text
  | some table => text ∈ table.names

def IsMet (use : GroupUse) (captures : Captures) : Prop :=
  ∃ text, captures.group? use.group = some text ∧ use.Admits text

end GroupUse

def Capture.use (source : Capture) : GroupUse := ⟨source.group, source.names⟩

def Field.sources : Field → List Capture
  | .capture source => [source]
  | .unset | .literal _ | .lastDay => []

namespace DateSpec

def fields (spec : DateSpec) : List Field :=
  [spec.year, spec.month, spec.day, spec.hour, spec.minute, spec.second, spec.yearShift,
    spec.monthShift, spec.weekShift, spec.dayShift, spec.hourShift, spec.minuteShift,
    spec.secondShift, spec.weekday]

def sources (spec : DateSpec) : List Capture := spec.fields.flatMap Field.sources

variable {spec : DateSpec} {captures other : Captures}

theorem mem_sources {field : Field} (member : field ∈ spec.fields) {source : Capture}
    (inField : source ∈ field.sources) : source ∈ spec.sources :=
  List.mem_flatMap.mpr ⟨field, member, inField⟩

theorem valueOf_congr {field : Field}
    (same : ∀ source ∈ field.sources, other.group? source.group = captures.group? source.group)
    (unset : Int) : valueOf other unset field = valueOf captures unset field := by
  cases field with
  | capture source =>
    have group := same source List.mem_cons_self
    simp only [valueOf, readCapture, group]
  | unset | literal | lastDay => rfl

theorem build_congr
    (same : ∀ source ∈ spec.sources, other.group? source.group = captures.group? source.group)
    (reference : Moment) : spec.build other reference = spec.build captures reference := by
  have value (field : Field) (member : field ∈ spec.fields) (unset : Int) :
      valueOf other unset field = valueOf captures unset field :=
    valueOf_congr (fun source inField => same source (mem_sources member inField)) unset
  have day (year month : Int) :
      dayOf spec other reference.date year month = dayOf spec captures reference.date year month := by
    unfold dayOf
    split
    · rfl
    · exact value spec.day (by simp [fields]) _
  have shift (year month : Int) : applyMonthShift other spec.monthShift year month =
      applyMonthShift captures spec.monthShift year month := by
    unfold applyMonthShift
    split
    · rfl
    · rw [value spec.monthShift (by simp [fields])]
  have weekday : weekdayShift spec other reference = weekdayShift spec captures reference := by
    unfold weekdayShift
    split
    · rfl
    · rw [value spec.weekday (by simp [fields])]
  simp only [build, anchor, yearAndMonth, day, shift, weekday,
    value spec.year (by simp [fields]), value spec.month (by simp [fields]),
    value spec.yearShift (by simp [fields]), value spec.hour (by simp [fields]),
    value spec.minute (by simp [fields]), value spec.second (by simp [fields]),
    value spec.weekShift (by simp [fields]), value spec.dayShift (by simp [fields]),
    value spec.hourShift (by simp [fields]), value spec.minuteShift (by simp [fields]),
    value spec.secondShift (by simp [fields])]

end DateSpec

end TurkishDates
