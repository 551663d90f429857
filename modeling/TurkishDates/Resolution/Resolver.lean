import TurkishDates.Grammar.Rule
import TurkishDates.Pattern.Basic
import TurkishDates.Resolution.Normalize

/-!
Resolving one expression. The first rule whose pattern matches the whole normalized expression and whose
dates exist decides; a fallback is asked where no rule does, but not about numbers and arithmetic.
-/

namespace TurkishDates

abbrev Fallback := Text → Moment → Option Moment

/-- What happened while expressions were resolved and windows tagged. -/
inductive Event where
  | ruleMatched (rule : String) (kind : DenotationKind) (expression : Text)
  | noValidDate (rule : String) (expression : Text)
  | fallbackSkipped (expression : Text)
  | fallbackAsked (expression : Text)
  | fallbackResolved (expression : Text) (time : Moment)
  | windowResolved (start size : Nat) (expression : Text)
deriving DecidableEq

structure Resolution where
  value : Option Denotation
  log : List Event
deriving DecidableEq

structure Resolver where
  rules : List Rule
  reference : Moment
  fallback : Option Fallback

namespace Resolver

def isYear : Text → Bool
  | ['1', '9', c, d] | ['2', '0', c, d] => isDigit c && isDigit d
  | _ => false

def isFallbackCandidate (expression : Text) : Bool :=
  if expression.isEmpty || expression.any (['+', '=', '$'].contains ·) then false
  else !expression.all isDigit || isYear expression

def askFallback (resolver : Resolver) (expression : Text) : Resolution :=
  match resolver.fallback with
  | none => ⟨none, []⟩
  | some fallback =>
      if isFallbackCandidate expression then
        match fallback expression resolver.reference with
        | none => ⟨none, [.fallbackAsked expression]⟩
        | some time =>
            ⟨some (.instant time), [.fallbackAsked expression, .fallbackResolved expression time]⟩
      else ⟨none, [.fallbackSkipped expression]⟩

def resolveBy (resolver : Resolver) (features : List Feature) (expression : Text) :
    List Rule → Resolution
  | [] => resolver.askFallback expression
  | rule :: rules =>
      if rule.isOpenTo features then
        match rule.match? expression with
        | none => resolver.resolveBy features expression rules
        | some captures =>
            match rule.action.denote captures resolver.reference with
            | .ok value => ⟨some value, [.ruleMatched rule.name rule.action.kind expression]⟩
            | .error _ =>
                let later := resolver.resolveBy features expression rules
                { later with log := .noValidDate rule.name expression :: later.log }
      else resolver.resolveBy features expression rules

def resolve (resolver : Resolver) (t : Text) : Resolution :=
  resolver.resolveBy (Feature.scan (normalize t)) (normalize t) resolver.rules

end Resolver

end TurkishDates
