import TurkishDates.Grammar.Table
import TurkishDates.Proofs.Pattern.Necessity
import TurkishDates.Resolution.Resolver

/-!
The features that a rule needs are necessary for its pattern, so passing over the rules whose features
are missing changes nothing: neither the value of an expression nor the rule that decides on it.
-/

namespace TurkishDates

theorem Text.occurs_iff_infix {part t : Text} : Text.occurs part t = true ↔ part <:+: t := by
  induction t with
  | nil => simp [Text.occurs]
  | cons c t ih => simp [Text.occurs, List.infix_cons_iff, ih]

namespace Feature

theorem isPresent_inherited (feature : Feature) : Inherited fun t => feature.isPresent t := by
  have names_inherited (names : List Text) :
      Inherited fun t => names.any fun name => Text.occurs name t := by
    intro x y z present
    simp only [List.any_eq_true, Text.occurs_iff_infix] at present ⊢
    obtain ⟨name, member, inside⟩ := present
    exact ⟨name, member, inside.trans ⟨x, z, rfl⟩⟩
  cases feature with
  | digits =>
    intro x y z present
    simp only [isPresent, List.any_append, Bool.or_eq_true] at present ⊢
    exact .inl (.inr present)
  | monthName => exact names_inherited monthNames
  | weekdayName => exact names_inherited weekdayNames

theorem mem_scan_iff {feature : Feature} {t : Text} : feature ∈ scan t ↔ feature.isPresent t = true := by
  cases feature <;> simp [scan]

end Feature

theorem ensures_of_mem_needs : ∀ rule ∈ grammar, ∀ feature ∈ rule.needs,
    rule.pattern.shape.ensures (fun t => feature.isPresent t) = true := by
  decide

theorem mem_scan_of_match? {rule : Rule} (member : rule ∈ grammar) {expression : Text}
    {captures : Captures} (matched : rule.match? expression = some captures) {feature : Feature}
    (needed : feature ∈ rule.needs) : feature ∈ Feature.scan expression := by
  obtain ⟨kept, found, -⟩ := Option.map_eq_some_iff.mp matched
  exact Feature.mem_scan_iff.mpr (Pattern.holds_of_match? feature.isPresent_inherited
    (ensures_of_mem_needs rule member feature needed) found)

namespace Resolver

/-- Tries all rules in turn, whatever the features of the expression, then the fallback. -/
def tryInTurn (resolver : Resolver) (expression : Text) : List Rule → Resolution
  | [] => resolver.askFallback expression
  | rule :: rules =>
      match rule.match? expression with
      | none => resolver.tryInTurn expression rules
      | some captures =>
          match rule.action.denote captures resolver.reference with
          | .ok value => ⟨some value, [.ruleMatched rule.name rule.action.kind expression]⟩
          | .error _ =>
              let later := resolver.tryInTurn expression rules
              { later with log := .noValidDate rule.name expression :: later.log }

def resolveUngated (resolver : Resolver) (t : Text) : Resolution :=
  resolver.tryInTurn (normalize t) resolver.rules

theorem resolveBy_eq_tryInTurn (resolver : Resolver) {features : List Feature} {expression : Text}
    {rules : List Rule}
    (necessary : ∀ rule ∈ rules, ∀ captures, rule.match? expression = some captures →
      ∀ feature ∈ rule.needs, feature ∈ features) :
    resolver.resolveBy features expression rules = resolver.tryInTurn expression rules := by
  induction rules with
  | nil => rfl
  | cons rule rules ih =>
    have later : resolver.resolveBy features expression rules = resolver.tryInTurn expression rules := by
      apply ih
      intro other member
      exact necessary other (List.mem_cons_of_mem rule member)
    cases matched : rule.match? expression with
    | none => simp only [resolveBy, tryInTurn, matched, later, ite_self]
    | some captures =>
      have isOpen : rule.isOpenTo features = true := by
        simpa [Rule.isOpenTo] using necessary rule List.mem_cons_self captures matched
      cases denoted : rule.action.denote captures resolver.reference with
      | ok value => simp only [resolveBy, tryInTurn, matched, isOpen, denoted, if_true]
      | error cause => simp only [resolveBy, tryInTurn, matched, isOpen, denoted, if_true, later]

/-- Whatever a rule of the grammar matches has all features that the rule needs. So the resolver gives
the same value, by the same rule and with the same events, as one that tries every rule. -/
theorem feature_gate_transparent :
    (∀ rule ∈ grammar, ∀ (expression : Text) (captures : Captures),
      rule.match? expression = some captures →
        ∀ feature ∈ rule.needs, feature ∈ Feature.scan expression) ∧
    ∀ (reference : Moment) (fallback : Option Fallback) (t : Text),
      let resolver : Resolver := ⟨grammar, reference, fallback⟩
      resolver.resolve t = resolver.resolveUngated t := by
  constructor
  · intro rule member expression captures matched feature needed
    exact mem_scan_of_match? member matched needed
  · intro reference fallback t
    apply resolveBy_eq_tryInTurn
    intro rule member captures matched feature needed
    exact mem_scan_of_match? member matched needed

theorem feature_gate_transparent_written_date :
    let expression : Text := "19 ocak 2005".toList
    let captures : Captures :=
      ⟨expression, [some "19".toList, some "ocak".toList, some "2005".toList]⟩
    Grammar.dayMonthYear ∈ grammar ∧ Grammar.dayMonthYear.match? expression = some captures ∧
      Feature.monthName ∈ Grammar.dayMonthYear.needs ∧
      Feature.monthName ∈ Feature.scan expression := by
  intro expression captures
  have member : Grammar.dayMonthYear ∈ grammar := by simp [grammar, Grammar.spanRules]
  have matched : Grammar.dayMonthYear.match? expression = some captures := rfl
  have needed : Feature.monthName ∈ Grammar.dayMonthYear.needs := by decide
  obtain ⟨necessary, -⟩ := feature_gate_transparent
  exact ⟨member, matched, needed,
    necessary Grammar.dayMonthYear member expression captures matched .monthName needed⟩

end Resolver

end TurkishDates
