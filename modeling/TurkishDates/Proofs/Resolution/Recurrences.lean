import TurkishDates.Proofs.Resolution.OnlyRule

/-!
Recurrences. Their rules come last in the grammar, but what one of them matches no other rule matches, and they
read nothing but the words. So the expressions that denote a recurrence are those that these rules match, and they
denote it at any time and with any fallback.
-/

namespace TurkishDates

theorem mem_grammar_of_mem_recurrenceRules {rule : Rule} (recurs : rule ∈ Grammar.recurrenceRules) :
    rule ∈ grammar := List.mem_append_right _ recurs

theorem kind_of_mem_recurrenceRules : ∀ rule ∈ Grammar.recurrenceRules, rule.action.kind = .recurrence := by
  decide

theorem kind_of_mem_datedRules : ∀ rule ∈ Grammar.instantRules ++ Grammar.spanRules,
    rule.action.kind ≠ .recurrence := by
  decide

theorem Action.kind_of_denote {action : Action} {captures : Captures} {reference : Moment} {value : Denotation}
    (denoted : action.denote captures reference = .ok value) : value.kind = action.kind := by
  cases action with
  | instant time =>
    simp only [denote, bind_eq_ok_iff] at denoted
    obtain ⟨_, -, same⟩ := denoted
    obtain rfl := Except.ok.inj same
    rfl
  | span start stop =>
    simp only [denote, bind_eq_ok_iff] at denoted
    obtain ⟨_, -, _, -, same⟩ := denoted
    obtain rfl := Except.ok.inj same
    rfl
  | recurrence unit anchor =>
    cases anchor with
    | fixed anchor =>
      obtain rfl := Except.ok.inj denoted
      rfl
    | group index =>
      simp only [denote, bind_eq_ok_iff] at denoted
      obtain ⟨_, -, same⟩ := denoted
      obtain rfl := Except.ok.inj same
      rfl

theorem Action.exists_denote_recurrence {action : Action} (recurs : action.kind = .recurrence) {captures : Captures}
    (met : ∀ use ∈ action.uses, use.IsMet captures) :
    ∃ unit anchor, ∀ reference, action.denote captures reference = .ok (.recurrence unit anchor) := by
  cases action with
  | instant time => cases recurs
  | span start stop => cases recurs
  | recurrence unit anchor =>
    cases anchor with
    | fixed anchor => exact ⟨unit, anchor, fun _ => rfl⟩
    | group index =>
      obtain ⟨text, group, -⟩ := met ⟨index, unit.anchorTable⟩ List.mem_cons_self
      simp only at group
      exact ⟨unit, text, fun _ => by simp only [denote, group]; rfl⟩

/-- The patterns for recurrences are apart from those of all other rules, and from each other. -/
theorem recurrenceRules_apart : ∀ rule ∈ Grammar.recurrenceRules,
    rule.pattern.shape.isApartFrom (otherShapes grammar rule.name) = true := by
  decide +kernel

variable {t : Text} {reference : Moment} {fallback : Option Fallback}

theorem exists_recurrence_of_match? {rule : Rule} (recurs : rule ∈ Grammar.recurrenceRules) {captures : Captures}
    (matched : rule.match? (normalize t) = some captures) :
    ∃ unit anchor, ∀ (reference : Moment) (fallback : Option Fallback),
      rule.action.denote captures reference = .ok (.recurrence unit anchor) ∧
        ((⟨grammar, reference, fallback⟩ : Resolver).resolve t).value = some (.recurrence unit anchor) := by
  have member : rule ∈ grammar := mem_grammar_of_mem_recurrenceRules recurs
  have left : IsLeftTo rule.name (normalize t) :=
    isLeftTo_of_isApartFrom (recurrenceRules_apart rule recurs) (Rule.reads_of_match? matched)
  obtain ⟨unit, anchor, denoted⟩ :=
    Action.exists_denote_recurrence (kind_of_mem_recurrenceRules rule recurs) (isMet_of_match? member matched)
  refine ⟨unit, anchor, fun reference fallback => ⟨denoted reference, ?_⟩⟩
  have decided : IsDecided (normalize t) reference := ⟨rule, member, captures, _, matched, denoted reference⟩
  rw [Resolver.resolve_of_isDecided decided]
  exact value_of_isLeftTo left member matched (denoted reference)

/-- The fallback answers with instants, so a recurrence comes from the rules. -/
theorem Resolver.value_byRules_of_recurrence {unit : RecurrenceUnit} {anchor : Text}
    (resolved : ((⟨grammar, reference, fallback⟩ : Resolver).resolve t).value = some (.recurrence unit anchor)) :
    (byRules (normalize t) reference).value = some (.recurrence unit anchor) := by
  rw [← resolve_eq_byRules]
  cases fallback with
  | none => exact resolved
  | some fallback =>
    cases silent : ((⟨grammar, reference, none⟩ : Resolver).resolve t).value with
    | some value =>
      have kept : ((⟨grammar, reference, some fallback⟩ : Resolver).resolve t).value = some value :=
        value_of_withoutFallback silent
      exact kept.symm.trans resolved
    | none =>
      obtain ⟨_, -, instant⟩ := exists_answer_of_value silent resolved
      cases instant

theorem exists_match?_of_recurrence {unit : RecurrenceUnit} {anchor : Text}
    (resolved : ((⟨grammar, reference, fallback⟩ : Resolver).resolve t).value = some (.recurrence unit anchor)) :
    ∃ rule ∈ Grammar.recurrenceRules, ∃ captures, rule.match? (normalize t) = some captures := by
  obtain ⟨rule, member, captures, matched, denoted⟩ :=
    Resolver.exists_rule_of_value rfl (Resolver.value_byRules_of_recurrence resolved)
  have kind : rule.action.kind = .recurrence := (Action.kind_of_denote denoted).symm
  rcases List.mem_append.mp member with dated | recurs
  · exact absurd kind (kind_of_mem_datedRules rule dated)
  · exact ⟨rule, recurs, captures, matched⟩

/-- An expression denotes a recurrence if and only if, once its numerals are written out, one of the rules for
recurrences matches it, whatever the time and the fallback. The recurrence is the one that this rule makes of it,
and it is the same at any time and with any fallback. -/
theorem recurrences_never_shadowed (t : Text) :
    (∀ (reference : Moment) (fallback : Option Fallback),
      (∃ unit anchor, ((⟨grammar, reference, fallback⟩ : Resolver).resolve t).value =
        some (.recurrence unit anchor)) ↔
      ∃ rule ∈ Grammar.recurrenceRules, ∃ captures, rule.match? (normalize t) = some captures) ∧
    (∀ rule ∈ Grammar.recurrenceRules, ∀ captures, rule.match? (normalize t) = some captures →
      ∀ (reference : Moment) (fallback : Option Fallback), ∃ value,
        rule.action.denote captures reference = .ok value ∧
          ((⟨grammar, reference, fallback⟩ : Resolver).resolve t).value = some value) ∧
    ∀ (reference other : Moment) (fallback fallback' : Option Fallback) (unit : RecurrenceUnit) (anchor : Text),
      ((⟨grammar, reference, fallback⟩ : Resolver).resolve t).value = some (.recurrence unit anchor) →
        ((⟨grammar, other, fallback'⟩ : Resolver).resolve t).value = some (.recurrence unit anchor) := by
  refine ⟨fun reference fallback => ⟨?_, ?_⟩, ?_, ?_⟩
  · intro ⟨unit, anchor, resolved⟩
    exact exists_match?_of_recurrence resolved
  · intro ⟨rule, recurs, captures, matched⟩
    obtain ⟨unit, anchor, always⟩ := exists_recurrence_of_match? recurs matched
    exact ⟨unit, anchor, (always reference fallback).2⟩
  · intro rule recurs captures matched reference fallback
    obtain ⟨unit, anchor, always⟩ := exists_recurrence_of_match? recurs matched
    exact ⟨.recurrence unit anchor, always reference fallback⟩
  · intro reference other fallback fallback' unit anchor resolved
    obtain ⟨rule, recurs, captures, matched⟩ := exists_match?_of_recurrence resolved
    obtain ⟨unit', anchor', always⟩ := exists_recurrence_of_match? recurs matched
    rw [(always other fallback').2, ← (always reference fallback).2, resolved]

theorem recurrences_never_shadowed_fifth_day :
    let t : Text := "Her ayın 5'inde".toList
    let captures : Captures := ⟨"her ayın 5'inde".toList, [some "5".toList]⟩
    let january : Timestamp := ⟨secondsPerDay * Date.dayNumber ⟨2021, 1, 15⟩, by decide⟩
    let june : Timestamp := ⟨secondsPerDay * Date.dayNumber ⟨1999, 6, 30⟩, by decide⟩
    let fifth : Denotation := .recurrence .month "5".toList
    Grammar.everyDayOfMonth ∈ Grammar.recurrenceRules ∧
      Grammar.everyDayOfMonth.match? (normalize t) = some captures ∧
      ((⟨grammar, january, none⟩ : Resolver).resolve t).value = some fifth ∧
      ((⟨grammar, june, some fun _ time => some time⟩ : Resolver).resolve t).value = some fifth := by
  intro t captures january june fifth
  have recurs : Grammar.everyDayOfMonth ∈ Grammar.recurrenceRules := by simp [Grammar.recurrenceRules]
  have matched : Grammar.everyDayOfMonth.match? (normalize t) = some captures := by decide
  obtain ⟨-, own, same⟩ := recurrences_never_shadowed t
  obtain ⟨value, denoted, resolved⟩ := own Grammar.everyDayOfMonth recurs captures matched january none
  obtain rfl : fifth = value := Except.ok.inj denoted
  exact ⟨recurs, matched, resolved, same january june none _ .month "5".toList resolved⟩

end TurkishDates
