import TurkishDates.Proofs.DateSpec.Order
import TurkishDates.Proofs.Grammar.Captures

/-!
Spans that are anchored at one date, or at the reference, do not end before they begin. Only ranges
between two written dates or months can, and two rules that count from a day or a month of the year.
-/

namespace TurkishDates

def Action.isOrdered : Action → Bool
  | .span start stop => start.precedes stop
  | .instant _ | .recurrence _ _ => true

/-- The rules whose spans may end before they begin: those with two written ends, and those that count back
from a month of the year or forward from a day of it. -/
def twoEndedRules : List String :=
  ["<day> <month> - <day> <month>", "dd.mm.yyyy - dd.mm.yyyy",
    "<day> <month> <year> - <day> <month> <year>", "<day> - <day> <month> <year>",
    "<day> - <day> <month>", "<day> <month> <year> - <day> <month>",
    "<day> <month> - <day> <month> <year>", "between <month> and <month>", "since <day> <month>",
    "last <n> months of the year"]

theorem isOrdered_of_mem_grammar : ∀ rule ∈ grammar, rule.name ∉ twoEndedRules →
    rule.action.isOrdered = true := by
  decide

/-- Whatever any other rule of the grammar matches, and whatever the reference is: a span that it denotes does
not end before it begins. -/
theorem single_anchor_spans_ordered : ∀ rule ∈ grammar, rule.name ∉ twoEndedRules →
    ∀ (expression : Text) (captures : Captures), rule.match? expression = some captures →
      ∀ (reference : Moment) (start stop : Timestamp),
        rule.action.denote captures reference = .ok (.span start stop) →
          start.seconds ≤ stop.seconds := by
  intro rule member other expression captures matched reference first last denoted
  have ordered := isOrdered_of_mem_grammar rule member other
  have met := isMet_of_match? member matched
  cases action : rule.action with
  | instant time =>
    rw [action, Action.denote] at denoted
    obtain ⟨t, -, absurdly⟩ := bind_eq_ok_iff.mp denoted
    cases absurdly
  | recurrence unit anchor =>
    rw [action] at denoted
    cases anchor with
    | fixed anchor => cases denoted
    | group index =>
      obtain ⟨t, -, absurdly⟩ := bind_eq_ok_iff.mp denoted
      cases absurdly
  | span start stop =>
    rw [action] at denoted ordered met
    simp only [Action.denote, bind_eq_ok_iff] at denoted
    obtain ⟨t, built, t', built', same⟩ := denoted
    cases same
    have metSpec (spec : DateSpec) (inAction : spec ∈ (Action.span start stop).specs) :
        spec.IsMet captures := fun source inSpec => met source.use (Action.mem_uses inAction inSpec)
    exact DateSpec.build_le (metSpec start (by simp [Action.specs])) (metSpec stop (by simp [Action.specs]))
      ordered built built'

/-- In January the winter that began in the year before. -/
theorem single_anchor_spans_ordered_winter :
    let expression : Text := "geçen kış".toList
    let reference : Timestamp := ⟨secondsPerDay * Date.dayNumber ⟨2021, 1, 15⟩, by decide⟩
    let start : Timestamp := ⟨secondsPerDay * Date.dayNumber ⟨2020, 12, 1⟩, by decide⟩
    let stop : Timestamp := ⟨secondsPerDay * Date.dayNumber ⟨2021, 3, 1⟩ - 1, by decide⟩
    Grammar.winter ∈ grammar ∧ Grammar.winter.name ∉ twoEndedRules ∧
      Grammar.winter.match? expression = some ⟨expression, []⟩ ∧
      Grammar.winter.action.denote ⟨expression, []⟩ reference = .ok (.span start stop) ∧
      start.seconds ≤ stop.seconds := by
  intro expression reference start stop
  have member : Grammar.winter ∈ grammar := by simp [grammar, Grammar.spanRules]
  have other : Grammar.winter.name ∉ twoEndedRules := by decide
  have matched : Grammar.winter.match? expression = some ⟨expression, []⟩ := rfl
  have denoted : Grammar.winter.action.denote ⟨expression, []⟩ reference = .ok (.span start stop) := by
    decide
  exact ⟨member, other, matched, denoted, single_anchor_spans_ordered Grammar.winter member other expression
    ⟨expression, []⟩ matched reference start stop denoted⟩

end TurkishDates
