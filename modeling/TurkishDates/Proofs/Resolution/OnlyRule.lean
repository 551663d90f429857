import Mathlib.Data.List.Nodup
import TurkishDates.Proofs.Pattern.Residual
import TurkishDates.Proofs.Resolution.FallbackCalls

/-!
Expressions that a single rule matches. Patterns that are apart from each other leave an expression to one rule,
and it resolves to what that rule makes of it, wherever the rule stands in the grammar.
-/

namespace TurkishDates

variable {expression : Text} {reference : Moment}

def otherShapes (rules : List Rule) (name : String) : List Shape :=
  (rules.filter fun rule => rule.name ≠ name).map fun rule => rule.pattern.shape

theorem mem_otherShapes {rules : List Rule} {name : String} {rule : Rule} (member : rule ∈ rules)
    (different : rule.name ≠ name) : rule.pattern.shape ∈ otherShapes rules name :=
  List.mem_map_of_mem (List.mem_filter.mpr ⟨member, decide_eq_true different⟩)

theorem Rule.reads_of_match? {rule : Rule} {captures : Captures} (matched : rule.match? expression = some captures) :
    rule.pattern.shape.Reads expression [] := by
  obtain ⟨kept, found, -⟩ := Option.map_eq_some_iff.mp matched
  exact Pattern.shape_reads_of_reads (Pattern.reads_of_match? found)

theorem Rule.match?_eq_none_of_reads {rule : Rule} {shape : Shape} {others : List Shape}
    (apart : shape.isApartFrom others = true) {rest : Text} (reads : shape.Reads expression rest)
    (listed : rule.pattern.shape ∈ others) : rule.match? expression = none := by
  rw [Rule.match?, Pattern.match?_eq_none_of_isApartFrom apart listed reads]
  rfl

/-- Whether no other rule than the one of the name matches. -/
def IsLeftTo (name : String) (expression : Text) : Prop :=
  ∀ rule ∈ grammar, ∀ captures, rule.match? expression = some captures → rule.name = name

/-- What a shape reads that is apart from the patterns of all other rules is left to one rule. -/
theorem isLeftTo_of_isApartFrom {shape : Shape} {name : String}
    (apart : shape.isApartFrom (otherShapes grammar name) = true) {rest : Text}
    (reads : shape.Reads expression rest) : IsLeftTo name expression := by
  intro rule member captures matched
  by_contra different
  have none := Rule.match?_eq_none_of_reads apart reads (mem_otherShapes member different)
  rw [none] at matched
  cases matched

theorem nodup_names : (grammar.map Rule.name).Nodup := by decide

theorem IsLeftTo.eq_rule {rule other : Rule} (left : IsLeftTo rule.name expression) (member : rule ∈ grammar)
    (isOther : other ∈ grammar) {captures : Captures} (matched : other.match? expression = some captures) :
    other = rule :=
  List.inj_on_of_nodup_map nodup_names isOther member (left other isOther captures matched)

theorem value_of_isLeftTo {rule : Rule} (left : IsLeftTo rule.name expression) (member : rule ∈ grammar)
    {captures : Captures} (matched : rule.match? expression = some captures) {value : Denotation}
    (denoted : rule.action.denote captures reference = .ok value) :
    (byRules expression reference).value = some value := by
  obtain ⟨found, resolved⟩ := isDecided_iff.mp ⟨rule, member, captures, value, matched, denoted⟩
  obtain ⟨other, isOther, captures', matched', denoted'⟩ := Resolver.exists_rule_of_value rfl resolved
  obtain rfl := left.eq_rule member isOther matched'
  obtain rfl := Option.some.inj (matched.symm.trans matched')
  have same : value = found := Except.ok.inj (denoted.symm.trans denoted')
  rw [resolved, same]

theorem value_eq_none_of_isLeftTo {rule : Rule} (left : IsLeftTo rule.name expression) (member : rule ∈ grammar)
    (fails : ∀ captures, rule.match? expression = some captures →
      ∃ cause, rule.action.denote captures reference = .error cause) :
    (byRules expression reference).value = none := by
  rw [Option.eq_none_iff_forall_ne_some]
  intro value resolved
  obtain ⟨other, isOther, captures, matched, denoted⟩ := Resolver.exists_rule_of_value rfl resolved
  obtain rfl := left.eq_rule member isOther matched
  obtain ⟨cause, failed⟩ := fails captures matched
  rw [failed] at denoted
  cases denoted

theorem value_eq_of_isLeftTo {rule : Rule} (left : IsLeftTo rule.name expression) (member : rule ∈ grammar)
    {captures : Captures} (matched : rule.match? expression = some captures) :
    (byRules expression reference).value = (rule.action.denote captures reference).toOption := by
  cases denoted : rule.action.denote captures reference with
  | ok value => exact value_of_isLeftTo left member matched denoted
  | error cause =>
    refine value_eq_none_of_isLeftTo left member fun other found => ⟨cause, ?_⟩
    rw [← Option.some.inj (matched.symm.trans found), denoted]

/-- Whether the rule is the only one that matches an expression, which is normal, and keeps these texts of it. -/
structure Rule.IsOnlyMatch (rule : Rule) (expression : Text) (kept : List Text) : Prop where
  member : rule ∈ grammar
  normal : normalize expression = expression
  left : IsLeftTo rule.name expression
  matched : rule.match? expression = some ⟨expression, kept.map some⟩

namespace Rule.IsOnlyMatch

variable {rule : Rule} {kept : List Text}

theorem value_withoutFallback (only : rule.IsOnlyMatch expression kept) (reference : Moment) :
    ((⟨grammar, reference, none⟩ : Resolver).resolve expression).value =
      (rule.action.denote ⟨expression, kept.map some⟩ reference).toOption := by
  rw [Resolver.resolve_eq_byRules, only.normal]
  exact value_eq_of_isLeftTo only.left only.member only.matched

theorem value_resolve (only : rule.IsOnlyMatch expression kept) {value : Denotation}
    (denoted : rule.action.denote ⟨expression, kept.map some⟩ reference = .ok value) (fallback : Option Fallback) :
    ((⟨grammar, reference, fallback⟩ : Resolver).resolve expression).value = some value := by
  have decided : IsDecided (normalize expression) reference := by
    rw [only.normal]
    exact ⟨rule, only.member, _, value, only.matched, denoted⟩
  rw [Resolver.resolve_of_isDecided decided, only.normal]
  exact value_of_isLeftTo only.left only.member only.matched denoted

end Rule.IsOnlyMatch

end TurkishDates
