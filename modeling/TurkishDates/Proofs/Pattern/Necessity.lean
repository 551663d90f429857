import TurkishDates.Proofs.Pattern.Reading

/-!
What every reading of a shape is sure to contain. A property that a text has as soon as some part of
it does is necessary for a shape when one of two shapes in a row, or both of two alternatives, make
sure of it.
-/

namespace TurkishDates

def Inherited (holds : Text → Bool) : Prop :=
  ∀ x y z : Text, holds y = true → holds (x ++ y ++ z) = true

namespace Shape

/-- Whether some part of each reading of the shape is sure to have the property. -/
def ensures (holds : Text → Bool) : Shape → Bool
  | .word letters => holds letters
  | .oneOf letters => letters.all fun c => holds [c]
  | .atEnd => holds []
  | .seq first second => first.ensures holds || second.ensures holds
  | .alt first second => first.ensures holds && second.ensures holds
  | .plus inner => inner.ensures holds

theorem holds_of_reads {holds : Text → Bool} (inherited : Inherited holds) {shape : Shape}
    (sure : shape.ensures holds = true) {x rest : Text} (reads : shape.Reads x rest) :
    holds x = true := by
  induction shape generalizing x rest with
  | word letters =>
    rw [show x = letters from reads]
    exact sure
  | oneOf letters =>
    obtain ⟨c, member, rfl⟩ := reads
    exact List.all_eq_true.mp sure c member
  | atEnd =>
    rw [reads.1]
    exact sure
  | seq first second ihFirst ihSecond =>
    obtain ⟨y, z, rfl, firstReads, secondReads⟩ := reads
    rcases Bool.or_eq_true _ _ |>.mp sure with sureFirst | sureSecond
    · exact inherited [] y z (ihFirst sureFirst firstReads)
    · have later := inherited y z [] (ihSecond sureSecond secondReads)
      rwa [List.append_nil] at later
  | alt first second ihFirst ihSecond =>
    obtain ⟨sureFirst, sureSecond⟩ := Bool.and_eq_true _ _ |>.mp sure
    rcases reads with firstReads | secondReads
    · exact ihFirst sureFirst firstReads
    · exact ihSecond sureSecond secondReads
  | plus inner ih =>
    cases reads with
    | last round => exact ih sure round
    | next round later => exact inherited [] _ _ (ih sure round)

end Shape

/-- A necessary property holds of every text that the pattern matches as a whole. -/
theorem Pattern.holds_of_match? {holds : Text → Bool} (inherited : Inherited holds)
    {pattern : Pattern} (sure : pattern.shape.ensures holds = true) {t : Text} {kept : List Text}
    (matched : pattern.match? t = some kept) : holds t = true :=
  Shape.holds_of_reads inherited sure (shape_reads_of_reads (reads_of_match? matched))

end TurkishDates
