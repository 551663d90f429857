/-!
Character classes given as ascending ranges of code points, first and last included. The search
stops at the first range that begins beyond the code point.
-/

namespace TurkishDates

abbrev CodeRanges := List (Nat × Nat)

namespace CodeRanges

def contains : CodeRanges → Nat → Bool
  | [], _ => false
  | (first, last) :: rest, code =>
      if code < first then false else if code ≤ last then true else contains rest code

end CodeRanges

end TurkishDates
