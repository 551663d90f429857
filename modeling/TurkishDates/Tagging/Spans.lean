import TurkishDates.Tagging.Windows

/-!
Tagged spans: the runs of neighbouring tokens with equal values, placed by their characters in the
sentence.
-/

namespace TurkishDates

/-- A part of a sentence, from its first character up to the one behind its last. -/
structure TaggedSpan where
  start : Nat
  stop : Nat
  text : Text
  value : Denotation
deriving DecidableEq

/-- The tokens were not the text cut at single spaces, or not every token has a tag. -/
inductive FramingError where
  | charactersLost (expected actual : Nat)
  | tagCount (tokens tags : Nat)
deriving DecidableEq, Repr

namespace TaggedSpan

def ofToken (place : Nat) (token : Text) (value : Denotation) : TaggedSpan :=
  ⟨place, place + token.length, token, value⟩

def extend (span : TaggedSpan) (token : Text) : TaggedSpan :=
  { span with stop := span.stop + token.length + 1, text := span.text ++ ' ' :: token }

/-- How far the tokens have been merged: the spans up to here, the place of the next token, and the tag on
the one before it. -/
structure Merging where
  spans : List TaggedSpan
  place : Nat
  before : Option Denotation

/-- A token with the tag of the one before it goes to the last span; any other tagged token begins a span
of its own. -/
def Merging.addToken (merging : Merging) (token : Text) (value : Denotation) : List TaggedSpan :=
  match merging.spans.getLast? with
  | some last =>
      if merging.before = some value then merging.spans.dropLast ++ [last.extend token]
      else merging.spans ++ [ofToken merging.place token value]
  | none => [ofToken merging.place token value]

def Merging.step (merging : Merging) (tagged : Text × Option Denotation) : Merging where
  spans := tagged.2.elim merging.spans (merging.addToken tagged.1)
  place := merging.place + tagged.1.length + 1
  before := tagged.2

def merge (tagged : List (Text × Option Denotation)) : List TaggedSpan :=
  (tagged.foldl Merging.step ⟨[], 0, none⟩).spans

def framedLength (tokens : List Text) : Nat := tokens.flatten.length + tokens.length - 1

def ofTagging (t : Text) (tagging : Tagging) : Except FramingError (List TaggedSpan) :=
  let tokens := t.tokens
  if framedLength tokens ≠ t.length then .error (.charactersLost t.length (framedLength tokens))
  else if tagging.values.length ≠ tokens.length then
    .error (.tagCount tokens.length tagging.values.length)
  else .ok (merge (tokens.zip tagging.values))

end TaggedSpan

def tagSentence (resolver : Resolver) (policy : OverlapPolicy) (t : Text) : Tagging :=
  Tagging.ofTokens resolver.resolve policy t.tokens

def findAll (resolver : Resolver) (policy : OverlapPolicy) (t : Text) :
    Except FramingError (List TaggedSpan) :=
  TaggedSpan.ofTagging t (tagSentence resolver policy t)

end TurkishDates
