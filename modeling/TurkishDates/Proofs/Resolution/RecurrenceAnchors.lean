import TurkishDates.Proofs.Resolution.Recurrences

/-!
The anchors of recurrences. They are captured texts that nothing is built from, so an anchor is what the pattern of its
rule can keep: the name of a weekday or of a month, and the digits of a day as the pattern admits them.
-/

namespace TurkishDates

def RecurrenceUnit.HasAnchor (anchor : Text) : RecurrenceUnit → Prop
  | .week => anchor ∈ weekdayNames
  | .month => Numeral.IsDigits anchor ∧ 1 ≤ digitsValue anchor ∧ digitsValue anchor ≤ 31
  | .year => anchor ∈ monthNames

instance (unit : RecurrenceUnit) (anchor : Text) : Decidable (unit.HasAnchor anchor) :=
  match unit with
  | .week => inferInstanceAs (Decidable (anchor ∈ weekdayNames))
  | .month => inferInstanceAs (Decidable (Numeral.IsDigits anchor ∧ 1 ≤ digitsValue anchor ∧ digitsValue anchor ≤ 31))
  | .year => inferInstanceAs (Decidable (anchor ∈ monthNames))

def strayDays : List Text :=
  ["0", "00", "32", "33", "34", "35", "36", "37", "38", "39"].map String.toList

/-- The recurrences that the action of a rule may denote, when they are finitely many. -/
def Rule.recurrences? (rule : Rule) : Option (List (RecurrenceUnit × Text)) :=
  match rule.action with
  | .recurrence unit (.fixed anchor) => some [(unit, anchor)]
  | .recurrence unit (.group (i + 1)) =>
      (rule.pattern.keptShapes[i]?.bind Shape.texts?).map fun anchors => anchors.map (unit, ·)
  | _ => none

theorem Rule.mem_recurrences {rule : Rule} {expression : Text} {captures : Captures} {reference : Moment}
    (matched : rule.match? expression = some captures) {unit : RecurrenceUnit} {anchor : Text}
    (denoted : rule.action.denote captures reference = .ok (.recurrence unit anchor))
    {recurrences : List (RecurrenceUnit × Text)} (known : rule.recurrences? = some recurrences) :
    (unit, anchor) ∈ recurrences := by
  unfold recurrences? at known
  split at known
  next fixedUnit fixedAnchor action =>
    rw [action] at denoted
    cases denoted
    cases known
    exact List.mem_singleton_self _
  next groupUnit i action =>
    obtain ⟨anchors, texts, rfl⟩ := Option.map_eq_some_iff.mp known
    obtain ⟨shape, piece, listed⟩ := Option.bind_eq_some_iff.mp texts
    obtain ⟨text, rest, captured, reads⟩ := Rule.exists_reads_of_match? matched piece
    rw [action] at denoted
    simp only [Action.denote, captured] at denoted
    cases denoted
    exact List.mem_map_of_mem (Shape.mem_texts?_of_reads listed reads)
  next => cases known

theorem recurrences_of_mem_recurrenceRules : ∀ rule ∈ Grammar.recurrenceRules,
    rule.recurrences?.any (fun recurrences => recurrences.all fun (unit, anchor) =>
      unit.HasAnchor anchor || (unit = .month && anchor ∈ strayDays)) = true := by
  decide

theorem match?_everyDayOfMonth_of_mem_strayDays : ∀ anchor ∈ strayDays,
    ¬RecurrenceUnit.month.HasAnchor anchor ∧
      Grammar.everyDayOfMonth.match? (normalize ("her ay ".toList ++ anchor)) =
        some ⟨"her ay ".toList ++ anchor, [some anchor]⟩ := by
  decide

/-- Whatever an expression is, at any time and with any fallback: a recurrence that it denotes is anchored at a weekday,
a day of the month or a month, as its unit says, but for ten numbers that are no days of any month. Each of these is an
anchor, too. -/
theorem recurrence_anchors_but_stray_days (reference : Moment) (fallback : Option Fallback) :
    let value (t : Text) := ((⟨grammar, reference, fallback⟩ : Resolver).resolve t).value
    (∀ (t : Text) (unit : RecurrenceUnit) (anchor : Text), value t = some (.recurrence unit anchor) →
      (unit.HasAnchor anchor ↔ ¬(unit = .month ∧ anchor ∈ strayDays))) ∧
    ∀ anchor ∈ strayDays, value ("her ay ".toList ++ anchor) = some (.recurrence .month anchor) := by
  intro value
  constructor
  · intro t unit anchor resolved
    obtain ⟨rule, recurs, captures, matched⟩ := exists_match?_of_recurrence resolved
    obtain ⟨unit', anchor', always⟩ := exists_recurrence_of_match? recurs matched
    obtain ⟨denoted, resolved'⟩ := always reference fallback
    obtain ⟨rfl, rfl⟩ := Denotation.recurrence.inj (Option.some.inj (resolved.symm.trans resolved'))
    obtain ⟨recurrences, known, valid⟩ :=
      (Option.any_eq_true _ _).mp (recurrences_of_mem_recurrenceRules rule recurs)
    have anchored : unit.HasAnchor anchor ∨ unit = .month ∧ anchor ∈ strayDays := by
      simpa using List.all_eq_true.mp valid (unit, anchor) (Rule.mem_recurrences matched denoted known)
    refine ⟨?_, anchored.resolve_right⟩
    rintro valid ⟨rfl, stray⟩
    exact (match?_everyDayOfMonth_of_mem_strayDays anchor stray).1 valid
  · intro anchor stray
    obtain ⟨-, matched⟩ := match?_everyDayOfMonth_of_mem_strayDays anchor stray
    have recurs : Grammar.everyDayOfMonth ∈ Grammar.recurrenceRules := by simp [Grammar.recurrenceRules]
    obtain ⟨unit, anchor', always⟩ := exists_recurrence_of_match? recurs matched
    obtain ⟨denoted, resolved⟩ := always reference fallback
    have own : Denotation.recurrence .month anchor = .recurrence unit anchor' := Except.ok.inj denoted
    exact resolved.trans (congrArg some own.symm)

theorem recurrence_anchors_but_stray_days_thirty_five :
    let reference : Timestamp := ⟨secondsPerDay * Date.dayNumber ⟨2021, 6, 15⟩ + 43200, by decide⟩
    let value (t : Text) := ((⟨grammar, reference, none⟩ : Resolver).resolve t).value
    value "her ayın 31inde".toList = some (.recurrence .month "31".toList) ∧
      RecurrenceUnit.month.HasAnchor "31".toList ∧
      value "her ay 35".toList = some (.recurrence .month "35".toList) ∧
      ¬RecurrenceUnit.month.HasAnchor "35".toList := by
  intro reference value
  obtain ⟨anchored, strays⟩ := recurrence_anchors_but_stray_days reference none
  have resolved : value "her ayın 31inde".toList = some (.recurrence .month "31".toList) := by decide
  have proper : ¬(RecurrenceUnit.month = .month ∧ "31".toList ∈ strayDays) := by decide
  have stray : "35".toList ∈ strayDays := by decide
  have occurs : value "her ay 35".toList = some (.recurrence .month "35".toList) := strays "35".toList stray
  exact ⟨resolved, (anchored _ .month _ resolved).mpr proper, occurs,
    mt (anchored _ .month _ occurs).mp (not_not.mpr ⟨rfl, stray⟩)⟩

end TurkishDates
