import TurkishDates.DateSpec
import TurkishDates.Denotation
import TurkishDates.Grammar.Feature
import TurkishDates.Pattern.Basic

/-!
Rules of the grammar: a pattern for whole expressions and what the captured pieces denote.
-/

namespace TurkishDates

inductive AnchorSource where
  | fixed (anchor : Text)
  | group (index : Nat)
deriving DecidableEq, Repr

inductive Action where
  | instant (time : DateSpec)
  | span (start stop : DateSpec)
  | recurrence (unit : RecurrenceUnit) (anchor : AnchorSource)
deriving DecidableEq, Repr

namespace Action

def kind : Action → DenotationKind
  | .instant _ => .instant
  | .span _ _ => .span
  | .recurrence _ _ => .recurrence

def denote (action : Action) (captures : Captures) (reference : Moment) :
    Except BuildError Denotation :=
  match action with
  | .instant time => do return .instant (← time.build captures reference)
  | .span start stop => do
      return .span (← start.build captures reference) (← stop.build captures reference)
  | .recurrence unit (.fixed anchor) => .ok (.recurrence unit anchor)
  | .recurrence unit (.group index) => do
      return .recurrence unit (← DateSpec.found .missingGroup (captures.group? index))

def wholeDay (day : DateSpec) : Action := .span day.startOfDay day.endOfDay

def wholeMonth (month : DateSpec) : Action :=
  .span (DateSpec.startOfDay { month with day := 1 })
    (DateSpec.endOfDay { month with day := .lastDay })

def untilNow (day : DateSpec) : Action := .span day.startOfDay {}

end Action

structure Rule where
  name : String
  needs : List Feature
  pattern : Pattern
  action : Action

namespace Rule

def match? (rule : Rule) (expression : Text) : Option Captures :=
  (rule.pattern.match? expression).map fun kept => ⟨expression, kept.map some⟩

def isOpenTo (rule : Rule) (features : List Feature) : Bool := rule.needs.all features.contains

end Rule

end TurkishDates
