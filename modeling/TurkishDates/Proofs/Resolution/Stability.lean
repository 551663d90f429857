import TurkishDates.Proofs.Numeral.Substitution
import TurkishDates.Resolution.Resolver

/-!
Normalizing is done once and for all. An expression some of whose numerals are already written in digits
is normalized like the expression itself, and a normalized expression stays as it is.
-/

namespace TurkishDates

open Numeral

theorem isSmall_decimalText (v : Int) : (decimalText v).IsSmall := by
  have listed : "0123456789".toList.all isPlain = true := by decide
  have digits : (digitsOf v.natAbs).IsSmall := fun c member => lowerChar_of_isPlain
    (List.all_eq_true.mp listed c (mem_digits_iff.mpr ((isDigits_digitsOf v.natAbs).2 c member)))
  unfold decimalText
  split
  · exact List.forall_mem_cons.mpr ⟨lowerChar_of_isPlain (by decide), digits⟩
  · exact digits

theorem isSmall_splice {n : Numeral} {written t : Text} (first : written.IsSmall) (second : t.IsSmall) :
    (n.splice written t).IsSmall := by
  have front : Text.IsSmall (t.take n.start) := fun c member => second c (List.mem_of_mem_take member)
  have back : Text.IsSmall (t.drop n.stop) := fun c member => second c (List.mem_of_mem_drop member)
  exact (front.append first).append back

theorem isSmall_writeChosen {chosen : Numeral → Bool} {t : Text} (small : t.IsSmall) :
    (writeChosen chosen t).IsSmall := by
  unfold writeChosen
  induction (findAll t).filter chosen with
  | nil => exact small
  | cons n numerals ih => exact isSmall_splice (isSmall_decimalText n.wholeValue) ih

/-- Writing the numerals of a text out is writing those in digits that are spelled otherwise. -/
theorem withDigits_eq (t : Text) : withDigits t = writeChosen isSpelled t.lower := by
  rw [withDigits, writeChosen, List.foldr_filter]
  congr 1
  funext n s
  rw [writeOut, isSpelled]
  cases isPlainDigits n.text <;> rfl

theorem withDigits_writeChosen {chosen : Numeral → Bool}
    (spelled : ∀ n, chosen n = true → isSpelled n = true) (t : Text) :
    withDigits (writeChosen chosen t.lower) = withDigits t := by
  have small : (writeChosen chosen t.lower).IsSmall := isSmall_writeChosen (Text.isSmall_lower t)
  rw [withDigits_eq, small.lower_eq, withDigits_eq, writeChosen_eq_substitute isSpelled,
    writeChosen_eq_substitute chosen, writeChosen_eq_substitute isSpelled t.lower]
  exact substitute_substitute spelled _ _ true t.lower

theorem normalize_writeChosen {chosen : Numeral → Bool} {t : Text}
    (spelled : ∀ n ∈ findAll t.lower, chosen n = true → isPlainDigits n.text = false) :
    normalize (writeChosen chosen t.lower) = normalize t := by
  have same : writeChosen chosen t.lower = writeChosen (fun n => chosen n && isSpelled n) t.lower := by
    rw [writeChosen, writeChosen]
    refine congrArg (List.foldr _ t.lower) (List.filter_congr fun n member => ?_)
    cases isChosen : chosen n with
    | false => rfl
    | true => rw [isSpelled, spelled n member isChosen]; rfl
  rw [normalize, normalize, same, withDigits_writeChosen fun n both => (Bool.and_eq_true_iff.mp both).2]

theorem monthTable_plain : ∀ month ∈ monthTable, month.full.all isPlain = true ∧
    findAll month.full = [] ∧ canonicalMonth? month.full = some month.full := by
  decide

theorem normalize_month {month : MonthName} (member : month ∈ monthTable) :
    normalize month.full = month.full := by
  obtain ⟨plain, none, canonical⟩ := monthTable_plain month member
  have small := (Text.isSmall_of_all_isPlain plain).lower_eq
  have digits : withDigits month.full = month.full := by
    rw [withDigits, small, none, List.foldr_nil]
  rw [normalize, digits, canonical, Option.getD_some]

theorem normalize_normalize (t : Text) : normalize (normalize t) = normalize t := by
  cases found : canonicalMonth? (withDigits t) with
  | none =>
    have rewritten : normalize t = writeChosen isSpelled t.lower := by
      rw [normalize, found, Option.getD_none, withDigits_eq]
    rw [rewritten, normalize_writeChosen fun n _ spelled => by simpa [isSpelled] using spelled, rewritten]
  | some name =>
    obtain ⟨month, isMonth, rfl⟩ := Option.map_eq_some_iff.mp found
    have named : normalize t = month.full := by rw [normalize, found, Option.getD_some]
    rw [named, normalize_month (List.mem_of_find?_eq_some isMonth)]

/-- A text is normalized like any text that comes from it by writing some of its numerals in digits, so
normalizing twice is normalizing once, and an expression resolves like its normalized form. -/
theorem normalize_stable (t : Text) :
    (∀ chosen : Numeral → Bool,
      (∀ n ∈ findAll t.lower, chosen n = true → isPlainDigits n.text = false) →
        normalize (writeChosen chosen t.lower) = normalize t) ∧
      normalize (normalize t) = normalize t ∧
      ∀ resolver : Resolver, resolver.resolve (normalize t) = resolver.resolve t := by
  refine ⟨fun chosen spelled => normalize_writeChosen spelled, normalize_normalize t, fun resolver => ?_⟩
  rw [Resolver.resolve, Resolver.resolve, normalize_normalize]

theorem normalize_stable_first_numeral :
    let t : Text := "iki gün üç saat".toList
    let first : Text := writeChosen (fun n => n.start == 0) t.lower
    first = "2 gün üç saat".toList ∧ normalize t = "2 gün 3 saat".toList ∧ normalize first = normalize t := by
  intro t first
  have chosen : first = "2 gün üç saat".toList := by decide +kernel
  have outcome : normalize t = "2 gün 3 saat".toList := by decide +kernel
  exact ⟨chosen, outcome, (normalize_stable t).1 (fun n => n.start == 0) (by decide)⟩

end TurkishDates
