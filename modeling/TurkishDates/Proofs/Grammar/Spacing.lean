import TurkishDates.Grammar.Table
import TurkishDates.Proofs.Pattern.Walk
import TurkishDates.Proofs.Text.Spacing

/-!
No rule of the grammar matches an expression with a space at an end or two spaces in a row.
-/

namespace TurkishDates

/-- Each pattern leads from a gap to the end of a word, whatever it reads. -/
theorem ends_of_mem_grammar : ∀ rule ∈ grammar,
    rule.pattern.shape.ends Spot.step [.gap] = some [.word] := by
  decide +kernel

theorem isTight_of_match? {rule : Rule} (member : rule ∈ grammar) {expression : Text}
    {captures : Captures} (matched : rule.match? expression = some captures) :
    expression.IsTight := by
  obtain ⟨kept, found, -⟩ := Option.map_eq_some_iff.mp matched
  have reads := Pattern.shape_reads_of_reads (Pattern.reads_of_match? found)
  have arrived := Shape.mem_ends_of_reads (ends_of_mem_grammar rule member) reads
    (List.mem_singleton_self Spot.gap)
  exact List.mem_singleton.mp arrived

end TurkishDates
