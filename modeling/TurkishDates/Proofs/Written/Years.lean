import TurkishDates.Proofs.DateSpec.Timeless
import TurkishDates.Proofs.Resolution.OnlyRule

/-!
Dates that are written with a year. What a rule for such dates matches is matched by no rule that looks at
the reference, so it denotes the same span at any time, or nothing at any time.
-/

namespace TurkishDates

def yearRules : List Rule :=
  [Grammar.dayMonthYear, Grammar.monthYear, Grammar.numericDate, Grammar.numericDateRange,
    Grammar.dayMonthYearToDayMonthYear, Grammar.dayToDayMonthYear, Grammar.dayMonthYearToDayMonth,
    Grammar.dayMonthToDayMonthYear, Grammar.wholeYear]

namespace Action

def isFixedSpan : Action → Bool
  | .span start stop => start.isTimeless && stop.isTimeless
  | .instant _ | .recurrence _ _ => false

theorem denote_of_isFixedSpan {action : Action} (fixed : action.isFixedSpan = true) (captures : Captures)
    (reference other : Moment) :
    action.denote captures reference = action.denote captures other ∧
      ∀ value, action.denote captures reference = .ok value → ∃ start stop, value = .span start stop := by
  cases action with
  | instant time => cases fixed
  | recurrence unit anchor => cases fixed
  | span start stop =>
    obtain ⟨startFixed, stopFixed⟩ := Bool.and_eq_true _ _ |>.mp fixed
    constructor
    · simp only [denote, DateSpec.build_eq_of_isTimeless startFixed captures reference other,
        DateSpec.build_eq_of_isTimeless stopFixed captures reference other]
    · intro value denoted
      simp only [denote, bind_eq_ok_iff] at denoted
      obtain ⟨first, -, last, -, same⟩ := denoted
      exact ⟨first, last, (Except.ok.inj same).symm⟩

end Action

/-- The patterns of the other rules: those that look at the reference, and those for recurrences. -/
def unfixedShapes : List Shape :=
  (grammar.filter fun rule => !rule.action.isFixedSpan).map fun rule => rule.pattern.shape

theorem isApartFrom_of_mem_yearRules : ∀ rule ∈ yearRules,
    rule.pattern.shape.isApartFrom unfixedShapes = true := by
  decide +kernel

variable {expression : Text}

theorem isFixedSpan_of_match? {rule : Rule} (written : rule ∈ yearRules) {captures : Captures}
    (matched : rule.match? expression = some captures) {other : Rule} (member : other ∈ grammar)
    {captures' : Captures} (matched' : other.match? expression = some captures') :
    other.action.isFixedSpan = true := by
  cases fixed : other.action.isFixedSpan with
  | true => rfl
  | false =>
    have listed : other.pattern.shape ∈ unfixedShapes :=
      List.mem_map_of_mem (List.mem_filter.mpr ⟨member, by rw [fixed]; rfl⟩)
    have none := Rule.match?_eq_none_of_reads (isApartFrom_of_mem_yearRules rule written)
      (Rule.reads_of_match? matched) listed
    rw [none] at matched'
    cases matched'

namespace Resolver

theorem tryInTurn_of_isFixedSpan {rules grammar grammar' : List Rule}
    (fixed : ∀ rule ∈ rules, ∀ captures, rule.match? expression = some captures →
      rule.action.isFixedSpan = true) (reference other : Moment) :
    let resolution := (⟨grammar, reference, none⟩ : Resolver).tryInTurn expression rules
    (⟨grammar', other, none⟩ : Resolver).tryInTurn expression rules = resolution ∧
      (resolution.value = none ∨ ∃ start stop, resolution.value = some (.span start stop)) := by
  induction rules with
  | nil => exact ⟨rfl, .inl rfl⟩
  | cons rule rules ih =>
    obtain ⟨here, later⟩ := List.forall_mem_cons.mp fixed
    obtain ⟨same, kind⟩ := ih later
    simp only [tryInTurn]
    cases matched : rule.match? expression with
    | none => exact ⟨same, kind⟩
    | some captures =>
      obtain ⟨denotedAlike, spans⟩ := Action.denote_of_isFixedSpan (here captures matched) captures reference other
      simp only [← denotedAlike]
      cases denoted : rule.action.denote captures reference with
      | error cause => exact ⟨by simp only [same], kind⟩
      | ok value =>
        obtain ⟨start, stop, rfl⟩ := spans value denoted
        exact ⟨rfl, .inr ⟨start, stop, rfl⟩⟩

end Resolver

/-- A text that a rule for written years matches, once its numerals are written out, has the same resolution at any
two times: the same span, or nothing both times. -/
theorem written_year_ignores_reference : ∀ rule ∈ yearRules, ∀ (t : Text) (captures : Captures),
    rule.match? (normalize t) = some captures → ∀ reference other : Moment,
      let resolution := (⟨grammar, reference, none⟩ : Resolver).resolve t
      (⟨grammar, other, none⟩ : Resolver).resolve t = resolution ∧
        (resolution.value = none ∨ ∃ start stop, resolution.value = some (.span start stop)) := by
  intro rule written t captures matched reference other
  simp only [Resolver.resolve_eq_byRules, byRules]
  apply Resolver.tryInTurn_of_isFixedSpan
  intro matching member captures' matched'
  exact isFixedSpan_of_match? written matched member matched'

theorem written_year_ignores_reference_range :
    let t : Text := "28 Ocak 2005 ve 31 Mart arası".toList
    let captures : Captures := ⟨"28 ocak 2005 ve 31 mart arası".toList,
      ["28", "ocak", "2005", "31", "mart"].map fun text => some text.toList⟩
    let january : Timestamp := ⟨secondsPerDay * Date.dayNumber ⟨2021, 1, 15⟩, by decide⟩
    let june : Timestamp := ⟨secondsPerDay * Date.dayNumber ⟨1999, 6, 30⟩, by decide⟩
    let start : Timestamp := ⟨secondsPerDay * Date.dayNumber ⟨2005, 1, 28⟩, by decide⟩
    let stop : Timestamp := ⟨secondsPerDay * Date.dayNumber ⟨2005, 4, 1⟩ - 1, by decide⟩
    Grammar.dayMonthYearToDayMonth ∈ yearRules ∧
      Grammar.dayMonthYearToDayMonth.match? (normalize t) = some captures ∧
      (⟨grammar, june, none⟩ : Resolver).resolve t = (⟨grammar, january, none⟩ : Resolver).resolve t ∧
      ((⟨grammar, june, none⟩ : Resolver).resolve t).value = some (.span start stop) := by
  intro t captures january june start stop
  have written : Grammar.dayMonthYearToDayMonth ∈ yearRules := by simp [yearRules]
  have matched : Grammar.dayMonthYearToDayMonth.match? (normalize t) = some captures := by decide
  have resolved : ((⟨grammar, january, none⟩ : Resolver).resolve t).value = some (.span start stop) := by decide
  obtain ⟨same, -⟩ := written_year_ignores_reference Grammar.dayMonthYearToDayMonth written t captures matched
    january june
  exact ⟨written, matched, same, (congrArg Resolution.value same).trans resolved⟩

end TurkishDates
