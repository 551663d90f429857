import TurkishDates.Proofs.Grammar.FeatureGate
import TurkishDates.Proofs.Grammar.WholeYear

/-!
When the fallback is asked. A rule decides on an expression when its pattern matches and its dates exist.
The first rule that decides gives the value, and only where none does is the fallback asked, once. The
years that the fallback would be asked about are all decided by the rule for years, so it is never asked
about a number.
-/

namespace TurkishDates

def Event.asked? : Event → Option Text
  | .fallbackAsked expression => some expression
  | _ => none

def Resolution.asked (resolution : Resolution) : List Text := resolution.log.filterMap Event.asked?

def Rule.value? (rule : Rule) (expression : Text) (reference : Moment) : Option Denotation :=
  (rule.match? expression).bind fun captures => (rule.action.denote captures reference).toOption

theorem Rule.value?_eq_some_iff {rule : Rule} {expression : Text} {reference : Moment} {value : Denotation} :
    rule.value? expression reference = some value ↔
      ∃ captures, rule.match? expression = some captures ∧ rule.action.denote captures reference = .ok value := by
  rw [value?, Option.bind_eq_some_iff]
  refine exists_congr fun captures => and_congr_right fun _ => ?_
  cases rule.action.denote captures reference <;> simp [Except.toOption]

namespace Resolver

def withoutFallback (resolver : Resolver) : Resolver := { resolver with fallback := none }

/-- The rules have the first word, and the fallback adds to what they leave open. -/
def thenAsk (resolver : Resolver) (expression : Text) (byRules : Resolution) : Resolution :=
  match byRules.value with
  | some _ => byRules
  | none =>
      let asked := resolver.askFallback expression
      ⟨asked.value, byRules.log ++ asked.log⟩

variable {resolver : Resolver} {expression : Text}

theorem thenAsk_of_value {byRules : Resolution} {value : Denotation} (known : byRules.value = some value) :
    resolver.thenAsk expression byRules = byRules := by
  simp only [thenAsk, known]

theorem thenAsk_of_none {byRules : Resolution} (unknown : byRules.value = none) :
    resolver.thenAsk expression byRules =
      ⟨(resolver.askFallback expression).value, byRules.log ++ (resolver.askFallback expression).log⟩ := by
  simp only [thenAsk, unknown]

theorem thenAsk_cons (event : Event) (byRules : Resolution) :
    resolver.thenAsk expression { byRules with log := event :: byRules.log } =
      { resolver.thenAsk expression byRules with
        log := event :: (resolver.thenAsk expression byRules).log } := by
  obtain ⟨value, log⟩ := byRules
  cases value with
  | some value => rfl
  | none => rfl

theorem tryInTurn_eq_thenAsk (rules : List Rule) : resolver.tryInTurn expression rules =
    resolver.thenAsk expression (resolver.withoutFallback.tryInTurn expression rules) := by
  induction rules with
  | nil => rfl
  | cons rule rules ih =>
    cases matched : rule.match? expression with
    | none => simp only [tryInTurn, matched, ih]
    | some captures =>
      have sameReference : resolver.withoutFallback.reference = resolver.reference := rfl
      cases denoted : rule.action.denote captures resolver.reference with
      | ok value => simp only [tryInTurn, matched, sameReference, denoted, thenAsk]
      | error cause =>
        simp only [tryInTurn, matched, sameReference, denoted, ih]
        exact (thenAsk_cons _ _).symm

theorem resolveBy_eq_tryInTurn_filter (features : List Feature) (rules : List Rule) :
    resolver.resolveBy features expression rules =
      resolver.tryInTurn expression (rules.filter fun rule => rule.isOpenTo features) := by
  induction rules with
  | nil => rfl
  | cons rule rules ih =>
    rw [resolveBy, List.filter_cons]
    split
    · rw [ih]
      rfl
    · exact ih

theorem resolve_eq_thenAsk_withoutFallback (resolver : Resolver) (t : Text) :
    resolver.resolve t = resolver.thenAsk (normalize t) (resolver.withoutFallback.resolve t) := by
  simp only [resolve, resolveBy_eq_tryInTurn_filter]
  exact tryInTurn_eq_thenAsk _

theorem value_of_withoutFallback {t : Text} {value : Denotation}
    (known : (resolver.withoutFallback.resolve t).value = some value) :
    (resolver.resolve t).value = some value := by
  rw [resolve_eq_thenAsk_withoutFallback, thenAsk_of_value known, known]

theorem value_tryInTurn (quiet : resolver.fallback = none) (rules : List Rule) :
    (resolver.tryInTurn expression rules).value =
      rules.findSome? fun rule => rule.value? expression resolver.reference := by
  induction rules with
  | nil =>
    rw [tryInTurn, askFallback, quiet]
    rfl
  | cons rule rules ih =>
    cases matched : rule.match? expression with
    | none => simp only [tryInTurn, List.findSome?_cons, Rule.value?, matched, ih, Option.bind_none]
    | some captures =>
      cases denoted : rule.action.denote captures resolver.reference with
      | ok value =>
        simp only [tryInTurn, List.findSome?_cons, Rule.value?, matched, denoted, Option.bind_some, Except.toOption]
      | error cause =>
        simp only [tryInTurn, List.findSome?_cons, Rule.value?, matched, denoted, ih, Option.bind_some,
          Except.toOption]

theorem exists_rule_of_value (quiet : resolver.fallback = none) {rules : List Rule} {value : Denotation}
    (resolved : (resolver.tryInTurn expression rules).value = some value) :
    ∃ rule ∈ rules, ∃ captures, rule.match? expression = some captures ∧
      rule.action.denote captures resolver.reference = .ok value := by
  rw [value_tryInTurn quiet] at resolved
  obtain ⟨rule, member, decided⟩ := List.exists_of_findSome?_eq_some resolved
  exact ⟨rule, member, Rule.value?_eq_some_iff.mp decided⟩

theorem exists_value_iff_decides (quiet : resolver.fallback = none) (rules : List Rule) :
    (∃ value, (resolver.tryInTurn expression rules).value = some value) ↔
      ∃ rule ∈ rules, rule.Decides expression resolver.reference := by
  constructor
  · intro ⟨value, resolved⟩
    obtain ⟨rule, member, captures, matched, denoted⟩ := exists_rule_of_value quiet resolved
    exact ⟨rule, member, captures, value, matched, denoted⟩
  · intro ⟨rule, member, captures, value, matched, denoted⟩
    have decided : (rule.value? expression resolver.reference).isSome :=
      Option.isSome_of_eq_some (Rule.value?_eq_some_iff.mpr ⟨captures, matched, denoted⟩)
    rw [value_tryInTurn quiet, ← Option.isSome_iff_exists]
    exact List.findSome?_isSome_iff.mpr ⟨rule, member, decided⟩

theorem asked_withoutFallback (resolver : Resolver) (expression : Text) (rules : List Rule) :
    (resolver.withoutFallback.tryInTurn expression rules).asked = [] := by
  induction rules with
  | nil => rfl
  | cons rule rules ih =>
    have sameReference : resolver.withoutFallback.reference = resolver.reference := rfl
    cases matched : rule.match? expression with
    | none => simpa only [tryInTurn, matched] using ih
    | some captures =>
      cases denoted : rule.action.denote captures resolver.reference with
      | ok value =>
        simp only [tryInTurn, matched, sameReference, denoted]
        rfl
      | error cause =>
        simp only [tryInTurn, matched, sameReference, denoted]
        exact ih

theorem askFallback_some (rules : List Rule) (reference : Moment) (fallback : Fallback) :
    let asking := (⟨rules, reference, some fallback⟩ : Resolver).askFallback expression
    asking.value = (if isFallbackCandidate expression then (fallback expression reference).map .instant
      else none) ∧
    asking.asked = if isFallbackCandidate expression then [expression] else [] := by
  simp only [askFallback]
  split
  · cases fallback expression reference with
    | none => exact ⟨rfl, rfl⟩
    | some time => exact ⟨rfl, rfl⟩
  · exact ⟨rfl, rfl⟩

theorem exists_answer_of_value {rules : List Rule} {reference : Moment} {fallback : Fallback} {t : Text}
    {value : Denotation} (unknown : ((⟨rules, reference, none⟩ : Resolver).resolve t).value = none)
    (known : ((⟨rules, reference, some fallback⟩ : Resolver).resolve t).value = some value) :
    ∃ time, fallback (normalize t) reference = some time ∧ value = .instant time := by
  have silent : ((⟨rules, reference, some fallback⟩ : Resolver).withoutFallback.resolve t).value = none := unknown
  rw [resolve_eq_thenAsk_withoutFallback, thenAsk_of_none silent, (askFallback_some rules reference fallback).1]
    at known
  split at known
  · obtain ⟨time, answered, same⟩ := Option.map_eq_some_iff.mp known
    exact ⟨time, answered, same.symm⟩
  · cases known

/-- The fallback matters only through its answer, and only for a candidate. -/
theorem askFallback_congr (rules : List Rule) {reference : Moment} {fallback other : Fallback}
    (same : isFallbackCandidate expression = true → other expression reference = fallback expression reference) :
    (⟨rules, reference, some other⟩ : Resolver).askFallback expression =
      (⟨rules, reference, some fallback⟩ : Resolver).askFallback expression := by
  simp only [askFallback]
  split
  next candidate => rw [same candidate]
  next => rfl

theorem isFallbackCandidate_iff : isFallbackCandidate expression = true ↔
    expression ≠ [] ∧ (∀ c ∈ expression, c ∉ ['+', '=', '$']) ∧
      ((∃ c ∈ expression, isDigit c = false) ∨ isYear expression = true) := by
  have conjunction : isFallbackCandidate expression =
      (!(expression.isEmpty || expression.any (['+', '=', '$'].contains ·)) &&
        (!expression.all isDigit || isYear expression)) := by
    unfold isFallbackCandidate
    cases expression.isEmpty || expression.any (['+', '=', '$'].contains ·) <;> rfl
  have digits : (!expression.all isDigit) = true ↔ ∃ c ∈ expression, isDigit c = false := by
    rw [Bool.not_eq_true', List.all_eq_false]
    simp only [Bool.not_eq_true]
  have arithmetic : (!(expression.isEmpty || expression.any (['+', '=', '$'].contains ·))) = true ↔
      expression ≠ [] ∧ ∀ c ∈ expression, c ∉ ['+', '=', '$'] := by
    rw [Bool.not_eq_true', Bool.or_eq_false_iff, List.isEmpty_eq_false_iff, List.any_eq_false]
    simp only [List.contains_iff_mem]
  rw [conjunction, Bool.and_eq_true, arithmetic, Bool.or_eq_true, digits, and_assoc]

end Resolver

def IsDecided (expression : Text) (reference : Moment) : Prop :=
  ∃ rule ∈ grammar, rule.Decides expression reference

def byRules (expression : Text) (reference : Moment) : Resolution :=
  (⟨grammar, reference, none⟩ : Resolver).tryInTurn expression grammar

section

variable {expression : Text} {reference : Moment}

theorem isDecided_of_isYear (year : Resolver.isYear expression = true) (reference : Moment) :
    IsDecided expression reference :=
  ⟨Grammar.wholeYear, by simp [grammar, Grammar.spanRules], wholeYear_decides year reference⟩

theorem isDecided_iff :
    IsDecided expression reference ↔ ∃ value, (byRules expression reference).value = some value := by
  have quiet : (⟨grammar, reference, none⟩ : Resolver).fallback = none := rfl
  exact (Resolver.exists_value_iff_decides quiet grammar).symm

theorem asked_byRules : (byRules expression reference).asked = [] :=
  Resolver.asked_withoutFallback (⟨grammar, reference, none⟩ : Resolver) expression grammar

end

namespace Resolver

theorem resolve_eq_tryInTurn (reference : Moment) (fallback : Option Fallback) (t : Text) :
    (⟨grammar, reference, fallback⟩ : Resolver).resolve t =
      (⟨grammar, reference, fallback⟩ : Resolver).tryInTurn (normalize t) grammar := by
  apply resolveBy_eq_tryInTurn
  intro rule member captures matched feature needed
  exact mem_scan_of_match? member matched needed

theorem resolve_eq_byRules (reference : Moment) (t : Text) :
    (⟨grammar, reference, none⟩ : Resolver).resolve t = byRules (normalize t) reference :=
  resolve_eq_tryInTurn reference none t

theorem resolve_eq_thenAsk (reference : Moment) (fallback : Option Fallback) (t : Text) :
    (⟨grammar, reference, fallback⟩ : Resolver).resolve t =
      (⟨grammar, reference, fallback⟩ : Resolver).thenAsk (normalize t) (byRules (normalize t) reference) := by
  rw [resolve_eq_tryInTurn, tryInTurn_eq_thenAsk]
  rfl

theorem resolve_of_isDecided {reference : Moment} {t : Text} (decided : IsDecided (normalize t) reference)
    (fallback : Option Fallback) : (⟨grammar, reference, fallback⟩ : Resolver).resolve t =
      byRules (normalize t) reference := by
  obtain ⟨value, known⟩ := isDecided_iff.mp decided
  rw [resolve_eq_thenAsk, thenAsk_of_value known]

theorem resolve_of_not_isDecided {reference : Moment} {t : Text}
    (undecided : ¬IsDecided (normalize t) reference) (fallback : Option Fallback) :
    let asking := (⟨grammar, reference, fallback⟩ : Resolver).askFallback (normalize t)
    (⟨grammar, reference, fallback⟩ : Resolver).resolve t =
      ⟨asking.value, (byRules (normalize t) reference).log ++ asking.log⟩ := by
  have unknown : (byRules (normalize t) reference).value = none := by
    rw [isDecided_iff] at undecided
    cases known : (byRules (normalize t) reference).value with
    | none => rfl
    | some value => exact absurd ⟨value, known⟩ undecided
  rw [resolve_eq_thenAsk, thenAsk_of_none unknown]

/-- Either the fallback is not asked, or no rule decides and it is asked about a candidate. -/
theorem asked_resolve (reference : Moment) (fallback : Fallback) (t : Text) :
    let asked := ((⟨grammar, reference, some fallback⟩ : Resolver).resolve t).asked
    asked = [] ∧ (IsDecided (normalize t) reference ∨ isFallbackCandidate (normalize t) = false) ∨
      asked = [normalize t] ∧ ¬IsDecided (normalize t) reference ∧ isFallbackCandidate (normalize t) = true := by
  intro asked
  have quiet : (byRules (normalize t) reference).log.filterMap Event.asked? = [] := asked_byRules
  by_cases decided : IsDecided (normalize t) reference
  · have none : asked = [] := by
      change Resolution.asked _ = []
      rw [resolve_of_isDecided decided]
      exact asked_byRules
    exact .inl ⟨none, .inl decided⟩
  · have asks : asked = if isFallbackCandidate (normalize t) then [normalize t] else [] := by
      rw [← (askFallback_some grammar reference fallback).2]
      change Resolution.asked _ = _
      rw [resolve_of_not_isDecided decided]
      simp only [Resolution.asked, List.filterMap_append, quiet, List.nil_append]
    cases candidate : isFallbackCandidate (normalize t) with
    | true =>
      rw [candidate, if_pos rfl] at asks
      exact .inr ⟨asks, decided, rfl⟩
    | false =>
      rw [candidate, if_neg Bool.false_ne_true] at asks
      exact .inl ⟨asks, .inr rfl⟩

theorem asked_resolve_iff (reference : Moment) (fallback : Fallback) (t : Text) :
    ((⟨grammar, reference, some fallback⟩ : Resolver).resolve t).asked = [normalize t] ↔
      ¬IsDecided (normalize t) reference ∧ isFallbackCandidate (normalize t) = true := by
  rcases asked_resolve reference fallback t with ⟨none, reason⟩ | ⟨once, undecided, candidate⟩
  · rw [none]
    constructor
    · intro absent
      cases absent
    · intro ⟨undecided, candidate⟩
      rw [candidate] at reason
      exact absurd (reason.resolve_left undecided) (by decide)
  · exact ⟨fun _ => ⟨undecided, candidate⟩, fun _ => once⟩

theorem value_resolve_of_not_isDecided {reference : Moment} {t : Text}
    (undecided : ¬IsDecided (normalize t) reference) (fallback : Fallback) :
    let resolution := (⟨grammar, reference, some fallback⟩ : Resolver).resolve t
    resolution.value =
      if resolution.asked = [] then none else (fallback (normalize t) reference).map .instant := by
  intro resolution
  have value : resolution.value = if isFallbackCandidate (normalize t) then
      (fallback (normalize t) reference).map .instant else none := by
    have split : resolution = _ := resolve_of_not_isDecided undecided (some fallback)
    rw [split, ← (askFallback_some grammar reference fallback).1]
  rcases asked_resolve reference fallback t with ⟨none, reason⟩ | ⟨once, -, candidate⟩
  · rw [value, if_pos none, reason.resolve_left undecided, if_neg Bool.false_ne_true]
  · have asked : resolution.asked ≠ [] := by
      rw [show resolution.asked = [normalize t] from once]
      exact List.cons_ne_nil _ _
    rw [value, if_neg asked, if_pos candidate]

theorem resolve_congr {reference : Moment} {fallback other : Fallback} {t : Text}
    (agree : ∀ text ∈ ((⟨grammar, reference, some fallback⟩ : Resolver).resolve t).asked,
      other text reference = fallback text reference) :
    (⟨grammar, reference, some other⟩ : Resolver).resolve t =
      (⟨grammar, reference, some fallback⟩ : Resolver).resolve t := by
  by_cases decided : IsDecided (normalize t) reference
  · rw [resolve_of_isDecided decided, resolve_of_isDecided decided]
  · have same (candidate : isFallbackCandidate (normalize t) = true) :
        other (normalize t) reference = fallback (normalize t) reference := by
      apply agree
      rw [(asked_resolve_iff reference fallback t).mpr ⟨decided, candidate⟩]
      exact List.mem_singleton_self _
    rw [resolve_of_not_isDecided decided, resolve_of_not_isDecided decided, askFallback_congr grammar same]

/-- The years are decided, so what is left are texts that are no numbers. -/
theorem isFallbackCandidate_iff_of_not_isDecided {expression : Text} {reference : Moment}
    (undecided : ¬IsDecided expression reference) : isFallbackCandidate expression = true ↔
      expression ≠ [] ∧ (∀ c ∈ expression, c ∉ ['+', '=', '$']) ∧ ∃ c ∈ expression, isDigit c = false := by
  have noYear : isYear expression ≠ true := fun year => undecided (isDecided_of_isYear year reference)
  rw [isFallbackCandidate_iff, or_iff_left noYear]

/-- The fallback is asked at most once, about the normalized expression, exactly if no rule decides and
the expression is neither empty nor arithmetic nor a number; for the numbers that it could be asked about are
decided by a rule. Only its answer to that question matters. -/
theorem fallback_asked_iff (reference : Moment) (fallback : Fallback) (t : Text) :
    let expression := normalize t
    let resolution := (⟨grammar, reference, some fallback⟩ : Resolver).resolve t
    (resolution.asked = [] ∨ resolution.asked = [expression]) ∧
    (resolution.asked = [expression] ↔ ¬IsDecided expression reference ∧ expression ≠ [] ∧
      (∀ c ∈ expression, c ∉ ['+', '=', '$']) ∧ ∃ c ∈ expression, isDigit c = false) ∧
    (isFallbackCandidate expression = true → (∀ c ∈ expression, isDigit c = true) →
      IsDecided expression reference) ∧
    (IsDecided expression reference → (∃ value, resolution.value = some value) ∧
      ∀ other : Option Fallback, (⟨grammar, reference, other⟩ : Resolver).resolve t = resolution) ∧
    (¬IsDecided expression reference → resolution.value =
      if resolution.asked = [] then none else (fallback expression reference).map .instant) ∧
    ∀ other : Fallback, (∀ text ∈ resolution.asked, other text reference = fallback text reference) →
      (⟨grammar, reference, some other⟩ : Resolver).resolve t = resolution := by
  intro expression resolution
  have once : resolution.asked = [] ∨ resolution.asked = [expression] :=
    (asked_resolve reference fallback t).imp And.left And.left
  have asked : resolution.asked = [expression] ↔ _ := (asked_resolve_iff reference fallback t).trans
    (and_congr_right isFallbackCandidate_iff_of_not_isDecided)
  have numbers (candidate : isFallbackCandidate expression = true)
      (digits : ∀ c ∈ expression, isDigit c = true) : IsDecided expression reference := by
    by_contra undecided
    obtain ⟨-, -, c, member, other⟩ := (isFallbackCandidate_iff_of_not_isDecided undecided).mp candidate
    exact absurd (digits c member) (by rw [other]; decide)
  have byGrammar (decided : IsDecided expression reference) (other : Option Fallback) :
      (⟨grammar, reference, other⟩ : Resolver).resolve t = byRules expression reference :=
    resolve_of_isDecided decided other
  have value (decided : IsDecided expression reference) : ∃ value, resolution.value = some value := by
    rw [show resolution = byRules expression reference from byGrammar decided (some fallback)]
    exact isDecided_iff.mp decided
  exact ⟨once, asked, numbers, fun decided => ⟨value decided, fun other =>
    (byGrammar decided other).trans (byGrammar decided (some fallback)).symm⟩,
    fun undecided => value_resolve_of_not_isDecided undecided fallback, fun _ agree => resolve_congr agree⟩

theorem fallback_asked_iff_unknown_holiday :
    let expression : Text := "kurban bayramı".toList
    let reference : Timestamp := ⟨0, by decide⟩
    let fallback : Fallback := fun _ t => some t
    ¬IsDecided (normalize expression) reference ∧
      ((⟨grammar, reference, some fallback⟩ : Resolver).resolve expression).asked = [normalize expression] := by
  intro expression reference fallback
  have same : normalize expression = expression := by decide +kernel
  have unmatched : ∀ rule ∈ grammar, rule.match? expression = none := by decide +kernel
  have undecided : ¬IsDecided (normalize expression) reference := by
    rw [same]
    intro ⟨rule, member, captures, value, matched, denoted⟩
    rw [unmatched rule member] at matched
    cases matched
  have plain : expression.all (fun c => c ∉ ['+', '=', '$']) = true := by decide
  obtain ⟨-, asked, -⟩ := fallback_asked_iff reference fallback expression
  refine ⟨undecided, asked.mpr ⟨undecided, ?_⟩⟩
  rw [same]
  exact ⟨List.cons_ne_nil _ _, fun c inside => of_decide_eq_true (List.all_eq_true.mp plain c inside),
    'k', List.mem_cons_self, rfl⟩

end Resolver

end TurkishDates
