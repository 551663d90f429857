import TurkishDates.Grammar.Table
import TurkishDates.Proofs.DateSpec.Building
import TurkishDates.Proofs.Pattern.Kept

/-!
The captures of a match can always be read. Each group that an action reads is a kept piece of its
pattern, and the shape of the piece reads nothing but names or digits, as the action needs them. So an
action fails for a number that is too large, or for a time that does not exist, and for nothing else.
-/

namespace TurkishDates

/-- The table that the anchor of a recurrence is a name of. The day of a month is digits. -/
def RecurrenceUnit.anchorTable : RecurrenceUnit → Option NameTable
  | .week => some .weekdays
  | .month => none
  | .year => some .months

namespace Action

def specs : Action → List DateSpec
  | .instant time => [time]
  | .span start stop => [start, stop]
  | .recurrence _ _ => []

def uses : Action → List GroupUse
  | .recurrence unit (.group index) => [⟨index, unit.anchorTable⟩]
  | action => action.specs.flatMap fun spec => spec.sources.map Capture.use

def causes (action : Action) (years : Bounds) : List BuildError :=
  action.specs.flatMap fun spec => spec.causes years

variable {action : Action} {captures other : Captures}

theorem mem_uses {spec : DateSpec} (built : spec ∈ action.specs) {source : Capture}
    (member : source ∈ spec.sources) : source.use ∈ action.uses := by
  have listed : source.use ∈ action.specs.flatMap fun spec => spec.sources.map Capture.use :=
    List.mem_flatMap.mpr ⟨spec, built, List.mem_map_of_mem member⟩
  cases action with
  | instant time => exact listed
  | span start stop => exact listed
  | recurrence unit anchor => cases built

theorem denote_congr (same : ∀ use ∈ action.uses, other.group? use.group = captures.group? use.group)
    (reference : Moment) : action.denote other reference = action.denote captures reference := by
  have built (spec : DateSpec) (member : spec ∈ action.specs) :
      spec.build other reference = spec.build captures reference :=
    DateSpec.build_congr (fun source inSpec => same source.use (mem_uses member inSpec)) reference
  cases action with
  | instant time => simp only [denote, built time List.mem_cons_self]
  | span start stop =>
    simp only [denote, built start List.mem_cons_self,
      built stop (List.mem_cons_of_mem start List.mem_cons_self)]
  | recurrence unit anchor =>
    cases anchor with
    | fixed anchor => rfl
    | group index =>
      have group := same ⟨index, unit.anchorTable⟩ List.mem_cons_self
      simp only at group
      simp only [denote, group]

theorem denote_meets (met : ∀ use ∈ action.uses, use.IsMet captures) {reference : Moment}
    {years : Bounds} (inYears : reference.date.year ∈ years) :
    Meets (action.causes years) (fun _ => True) (action.denote captures reference) := by
  have built (spec : DateSpec) (member : spec ∈ action.specs) :
      Meets (spec.causes years) (fun _ => True) (spec.build captures reference) :=
    DateSpec.build_meets (fun source inSpec => met source.use (mem_uses member inSpec)) inYears
  cases action with
  | instant time =>
    apply (built time List.mem_cons_self).bind
    intro t _
    trivial
  | span start stop =>
    apply (built start List.mem_cons_self).bind
    intro first _
    apply (built stop (List.mem_cons_of_mem start List.mem_cons_self)).bind
    intro last _
    trivial
  | recurrence unit anchor =>
    cases anchor with
    | fixed anchor => trivial
    | group index =>
      obtain ⟨text, group, -⟩ := met ⟨index, unit.anchorTable⟩ List.mem_cons_self
      simp only at group
      simp only [denote, group]
      trivial

theorem exists_denote_span_iff {start stop : DateSpec} {captures : Captures} {reference : Moment} :
    (∃ value, (Action.span start stop).denote captures reference = .ok value) ↔
      (∃ first, start.build captures reference = .ok first) ∧
        ∃ last, stop.build captures reference = .ok last := by
  have ends : (Action.span start stop).denote captures reference =
      (start.build captures reference >>= fun first =>
        stop.build captures reference >>= fun last => .ok (.span first last)) := rfl
  simp only [ends, bind_eq_ok_iff]
  constructor
  · intro ⟨_, first, begun, last, ended, _⟩
    exact ⟨⟨first, begun⟩, last, ended⟩
  · intro ⟨⟨first, begun⟩, last, ended⟩
    exact ⟨.span first last, first, begun, last, ended, rfl⟩

end Action

def Rule.Decides (rule : Rule) (expression : Text) (reference : Moment) : Prop :=
  ∃ captures value, rule.match? expression = some captures ∧
    rule.action.denote captures reference = .ok value

def Shape.suits (shape : Shape) (table : Option NameTable) : Bool :=
  match table with
  | none => shape.readsRuns isDigit
  | some table => shape.texts?.any fun texts => texts.all table.names.contains

def Pattern.provides (pattern : Pattern) (use : GroupUse) : Bool :=
  match use.group with
  | 0 => false
  | i + 1 => pattern.keptShapes[i]?.any fun shape => shape.suits use.table

theorem GroupUse.admits_of_suits {use : GroupUse} {shape : Shape} (suited : shape.suits use.table = true)
    {text rest : Text} (reads : shape.Reads text rest) : use.Admits text := by
  obtain ⟨group, table⟩ := use
  cases table with
  | none => exact Shape.run_of_readsRuns suited reads
  | some table =>
    obtain ⟨texts, known, all⟩ := (Option.any_eq_true _ _).mp suited
    have listed := List.all_eq_true.mp all text (Shape.mem_texts?_of_reads known reads)
    exact List.contains_iff_mem.mp listed

theorem Rule.exists_reads_of_match? {rule : Rule} {expression : Text} {captures : Captures}
    (matched : rule.match? expression = some captures) {i : Nat} {shape : Shape}
    (piece : rule.pattern.keptShapes[i]? = some shape) :
    ∃ text rest, captures.group? (i + 1) = some text ∧ shape.Reads text rest := by
  obtain ⟨kept, found, rfl⟩ := Option.map_eq_some_iff.mp matched
  obtain ⟨text, rest, there, reads⟩ := Pattern.exists_reads_of_keptShapes (Pattern.reads_of_match? found) piece
  exact ⟨text, rest, by simp [Captures.group?, there], reads⟩

theorem Rule.isMet_of_provides {rule : Rule} {use : GroupUse} (provided : rule.pattern.provides use = true)
    {expression : Text} {captures : Captures} (matched : rule.match? expression = some captures) :
    use.IsMet captures := by
  obtain ⟨group, table⟩ := use
  cases group with
  | zero => cases provided
  | succ i =>
    obtain ⟨shape, piece, suited⟩ := (Option.any_eq_true _ _).mp provided
    obtain ⟨text, rest, captured, reads⟩ := Rule.exists_reads_of_match? matched piece
    exact ⟨text, captured, GroupUse.admits_of_suits suited reads⟩

/-- Each group that an action reads is a kept piece of its pattern, of the kind that the action needs. -/
theorem provides_of_mem_uses : ∀ rule ∈ grammar, ∀ use ∈ rule.action.uses,
    rule.pattern.provides use = true := by
  decide

theorem isMet_of_match? {rule : Rule} (member : rule ∈ grammar) {expression : Text} {captures : Captures}
    (matched : rule.match? expression = some captures) :
    ∀ use ∈ rule.action.uses, use.IsMet captures :=
  fun use used => Rule.isMet_of_provides (provides_of_mem_uses rule member use used) matched

theorem isMet_of_mem_specs {rule : Rule} (member : rule ∈ grammar) {expression : Text} {captures : Captures}
    (matched : rule.match? expression = some captures) {spec : DateSpec} (built : spec ∈ rule.action.specs) :
    spec.IsMet captures :=
  fun source inSpec => isMet_of_match? member matched source.use (Action.mem_uses built inSpec)

/-- What an action of the grammar can fail for: digits that are no word of 64 bits, and dates, times of day or
sums that do not exist. -/
def possibleCauses : List BuildError := [.numberTooLarge, .noSuchDate, .noSuchTime, .outOfRange]

theorem causes_of_mem_grammar : ∀ rule ∈ grammar,
    rule.action.causes DateSpec.representableYears ⊆ possibleCauses := by
  decide

/-- Whatever a rule of the grammar matches, each group that its action reads took part with a name or
digits, as they are needed there, and no other group matters. So a group that is missing, a number that is
none and a name that is unknown are no causes of a failure. -/
theorem captures_usable : ∀ rule ∈ grammar, ∀ (expression : Text) (captures : Captures),
    rule.match? expression = some captures →
      (∀ use ∈ rule.action.uses, use.IsMet captures) ∧
      (∀ other : Captures,
        (∀ use ∈ rule.action.uses, other.group? use.group = captures.group? use.group) →
          ∀ reference, rule.action.denote other reference = rule.action.denote captures reference) ∧
      ∀ (reference : Moment) (cause : BuildError),
        rule.action.denote captures reference = .error cause → cause ∈ possibleCauses := by
  intro rule member expression captures matched
  have met := isMet_of_match? member matched
  refine ⟨met, fun other same reference => Action.denote_congr same reference, ?_⟩
  intro reference cause failed
  have meets : Meets (rule.action.causes DateSpec.representableYears) (fun _ => True)
      (rule.action.denote captures reference) := Action.denote_meets met reference.year_bounds
  rw [failed] at meets
  exact causes_of_mem_grammar rule member meets

theorem captures_usable_written_range :
    let expression : Text := "28 ocak 2005 ve 31 mart 2006 arası".toList
    let captures : Captures :=
      ⟨expression, ["28", "ocak", "2005", "31", "mart", "2006"].map fun text => some text.toList⟩
    Grammar.dayMonthYearToDayMonthYear ∈ grammar ∧
      Grammar.dayMonthYearToDayMonthYear.match? expression = some captures ∧
      (⟨5, some .months⟩ : GroupUse).IsMet captures := by
  intro expression captures
  have member : Grammar.dayMonthYearToDayMonthYear ∈ grammar := by simp [grammar, Grammar.spanRules]
  have matched : Grammar.dayMonthYearToDayMonthYear.match? expression = some captures := rfl
  obtain ⟨met, -⟩ :=
    captures_usable Grammar.dayMonthYearToDayMonthYear member expression captures matched
  exact ⟨member, matched, met ⟨5, some .months⟩ (by decide)⟩

theorem causes_subset_of_mem_specs {action : Action} {spec : DateSpec} (built : spec ∈ action.specs)
    (years : Bounds) : spec.causes years ⊆ action.causes years :=
  fun _ member => List.mem_flatMap.mpr ⟨spec, built, member⟩

theorem isWithin_words_of_mem_sources : ∀ rule ∈ grammar, ∀ spec ∈ rule.action.specs,
    ∀ source ∈ spec.sources,
      source.signedBounds.isWithin .words = true ∧ source.bounds.isWithin .words = true := by
  decide

/-- No unchecked arithmetic on the way to what an action denotes leaves the words of 64 bits, however many digits
were matched. The sum of a year and the years it is moved by may: it is checked, and too large a sum is reported as a
number that is too large. A number that could be read is negated and moved as a whole number is. -/
theorem arithmetic_stays_within_words : ∀ rule ∈ grammar, ∀ (expression : Text) (captures : Captures),
    rule.match? expression = some captures → ∀ reference : Moment,
      rule.action.denote captures reference ≠ .error .overflow ∧
      ∀ spec ∈ rule.action.specs,
        spec.build captures reference ≠ .error .overflow ∧
        spec.yearAndMonth captures reference.date ≠ .error .overflow ∧
        spec.weekdayShift captures reference ≠ .error .overflow ∧
        ∀ source ∈ spec.sources, ∃ text, captures.group? source.group = some text ∧
          ∀ n, DateSpec.lookUp source.names text = .ok n →
            DateSpec.readCapture captures source =
              .ok ((if source.negated then -n else n) + source.offset) := by
  intro rule member expression captures matched reference
  have met := isMet_of_match? member matched
  have possible := causes_of_mem_grammar rule member
  have never {causes : List BuildError} (known : causes ⊆ possibleCauses) {α : Type} {holds : α → Prop}
      {x : Except BuildError α} (meets : Meets causes holds x) : x ≠ .error .overflow := by
    intro overflows
    rw [overflows] at meets
    exact absurd (known meets) (by decide)
  refine ⟨never possible (Action.denote_meets met reference.year_bounds), ?_⟩
  intro spec built
  have metSpec : spec.IsMet captures := fun source inSpec => met source.use (Action.mem_uses built inSpec)
  have inSpec (cause : BuildError) (isCause : cause ∈ spec.causes DateSpec.representableYears) :
      cause ∈ possibleCauses := possible (causes_subset_of_mem_specs built _ isCause)
  refine ⟨never inSpec (DateSpec.build_meets metSpec reference.year_bounds), ?_, ?_, ?_⟩
  · have months := DateSpec.monthCauses_subset_causes spec DateSpec.representableYears
    exact never (fun cause isCause => inSpec cause (months isCause))
      (DateSpec.yearAndMonth_meets metSpec reference.isReal_date reference.year_bounds)
  · have weekday := DateSpec.weekdayCauses_subset_causes spec DateSpec.representableYears
    exact never (fun cause isCause => inSpec cause (weekday isCause))
      (DateSpec.weekdayShift_meets metSpec reference)
  · intro source isSource
    obtain ⟨text, group, admitted⟩ := metSpec source isSource
    obtain ⟨signed, moved⟩ := isWithin_words_of_mem_sources rule member spec built source isSource
    exact ⟨text, group, fun n read =>
      DateSpec.readCapture_of_lookUp group admitted read signed moved⟩

theorem arithmetic_stays_within_words_greatest_word :
    let expression : Text := "9223372036854775807 hafta önce cuma".toList
    let captures : Captures := ⟨expression, [some "9223372036854775807".toList, some "cuma".toList]⟩
    let reference : Timestamp := ⟨0, by decide⟩
    Grammar.weeksBeforeAtWeekday ∈ grammar ∧
      Grammar.weeksBeforeAtWeekday.match? expression = some captures ∧
      Grammar.weeksBeforeAtWeekday.action.denote captures reference ≠ .error .overflow := by
  intro expression captures reference
  have member : Grammar.weeksBeforeAtWeekday ∈ grammar := by simp [grammar, Grammar.instantRules]
  have matched : Grammar.weeksBeforeAtWeekday.match? expression = some captures := rfl
  obtain ⟨within, -⟩ := arithmetic_stays_within_words Grammar.weeksBeforeAtWeekday member expression
    captures matched reference
  exact ⟨member, matched, within⟩

end TurkishDates
