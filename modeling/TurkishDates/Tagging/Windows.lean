import TurkishDates.Resolution.Resolver

/-!
Tagging a sentence. Every token is resolved alone, then every window of two or more neighbouring tokens,
smaller windows first and windows of one size from left to right. A window that resolves writes its
value on each of its tokens.
-/

namespace TurkishDates

/-- Which windows may write their tokens: all of them, or only those larger than every window that wrote
one of their tokens before. -/
inductive OverlapPolicy where
  | lastWriteWins
  | longestMatch
deriving DecidableEq, Repr

structure Window where
  start : Nat
  size : Nat
deriving DecidableEq, Repr

namespace Window

/-- All windows of two or more tokens among `n`, in the order in which they are resolved. -/
def all (n : Nat) : List Window :=
  (List.range' 2 (n - 1)).flatMap fun size => (List.range (n + 1 - size)).map fun start => ⟨start, size⟩

def text (window : Window) (tokens : List Text) : Text :=
  Text.unwords ((tokens.drop window.start).take window.size)

end Window

/-- The value on a token and the size of the window that wrote it. -/
structure Tag where
  value : Option Denotation
  size : Nat
deriving DecidableEq

structure Tagging where
  tags : List Tag
  log : List Event

namespace Tagging

def overlaps (tags : List Tag) (window : Window) : Bool :=
  ((tags.drop window.start).take window.size).any fun tag => window.size ≤ tag.size

def isOpen (policy : OverlapPolicy) (tags : List Tag) (window : Window) : Bool :=
  match policy with
  | .lastWriteWins => true
  | .longestMatch => !overlaps tags window

def write (tags : List Tag) (window : Window) (value : Denotation) : List Tag :=
  tags.take window.start ++ List.replicate window.size ⟨some value, window.size⟩ ++
    tags.drop (window.start + window.size)

def sweep (resolve : Text → Resolution) (policy : OverlapPolicy) (tokens : List Text) :
    List Window → List Tag → Tagging
  | [], tags => ⟨tags, []⟩
  | window :: windows, tags =>
      if isOpen policy tags window then
        let resolution := resolve (window.text tokens)
        match resolution.value with
        | none =>
            let later := sweep resolve policy tokens windows tags
            { later with log := resolution.log ++ later.log }
        | some value =>
            let later := sweep resolve policy tokens windows (write tags window value)
            { later with
              log := resolution.log ++
                .windowResolved window.start window.size (window.text tokens) :: later.log }
      else sweep resolve policy tokens windows tags

def ofTokens (resolve : Text → Resolution) (policy : OverlapPolicy) (tokens : List Text) : Tagging :=
  let alone := tokens.map resolve
  let swept := sweep resolve policy tokens (Window.all tokens.length)
    (alone.map fun resolution => ⟨resolution.value, 1⟩)
  { swept with log := alone.flatMap (·.log) ++ swept.log }

def values (tagging : Tagging) : List (Option Denotation) := tagging.tags.map (·.value)

end Tagging

example : Window.all 3 = [⟨0, 2⟩, ⟨1, 2⟩, ⟨0, 3⟩] := by decide

end TurkishDates
