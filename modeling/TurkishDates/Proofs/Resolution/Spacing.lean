import TurkishDates.Proofs.Grammar.Spacing
import TurkishDates.Proofs.Numeral.Places
import TurkishDates.Resolution.Resolver

/-!
Without a fallback, an expression with a space at an end or two spaces in a row denotes nothing. The
grammar does not match it, and writing it in small letters and digits leaves its spaces as they are.
-/

namespace TurkishDates

theorem space_notMem_digitsOf (n : Nat) : ' ' ∉ digitsOf n := by
  intro member
  have isDigit := Nat.isDigit_of_mem_toDigits (by decide) (by decide) member
  cases isDigit

theorem isTight_decimalText (n : Int) : (decimalText n).IsTight := by
  have digits : digitsOf n.natAbs ≠ [] := Nat.toDigits_ne_nil
  have plain := space_notMem_digitsOf n.natAbs
  unfold decimalText
  split
  · refine Text.isTight_of_space_notMem (List.cons_ne_nil _ _) fun member => ?_
    rcases List.mem_cons.mp member with minus | member
    · cases minus
    · exact plain member
  · exact Text.isTight_of_space_notMem digits plain

namespace Numeral

theorem ends_body : body.ends Spot.step [.gap] = some [.word] := by
  decide

theorem StandsIn.isTight {n : Numeral} {t : Text} (stands : n.StandsIn t) : n.text.IsTight := by
  obtain ⟨front, back, -, -, reads⟩ := stands
  have arrived := Shape.mem_ends_of_reads ends_body reads (List.mem_singleton_self Spot.gap)
  exact List.mem_singleton.mp arrived

theorem exists_writeOut {n : Numeral} (tight : n.text.IsTight) {front : Text}
    (placed : front.length = n.start) (back : Text) :
    ∃ written : Text, written.IsTight ∧
      n.writeOut (front ++ n.text ++ back) = front ++ written ++ back := by
  unfold writeOut
  split
  · exact ⟨n.text, tight, rfl⟩
  · refine ⟨decimalText n.wholeValue, isTight_decimalText _, ?_⟩
    have stops : (front ++ n.text).length = n.stop := by
      rw [List.length_append, placed]
      rfl
    unfold splice
    rw [← stops, List.drop_left, ← placed, List.append_assoc front n.text back, List.take_left]

/-- Writing numerals out, the last one first, leaves what stands before them, and behind it the same
words and gaps. The induction goes from the last numeral to the first and finds each of them still in
its place, since those after it begin behind it. -/
theorem exists_foldr_writeOut {t : Text} {numerals : List Numeral}
    (stand : ∀ n ∈ numerals, n.StandsIn t) (apart : numerals.Pairwise fun m n => m.stop ≤ n.start)
    (front back : Text) (split : t = front ++ back)
    (behind : ∀ n ∈ numerals, front.length ≤ n.start) :
    ∃ written, numerals.foldr writeOut t = front ++ written ∧
      ∀ spot : Spot, spot.after written = spot.after back := by
  induction numerals generalizing front back with
  | nil => exact ⟨back, split, fun _ => rfl⟩
  | cons n numerals ih =>
    obtain ⟨later, apart⟩ := List.pairwise_cons.mp apart
    have stands := stand n List.mem_cons_self
    obtain ⟨before, rest, placed, start, -⟩ := id stands
    have stops : (before ++ n.text).length = n.stop := by
      rw [List.length_append, start]
      rfl
    obtain ⟨rest', others, same⟩ := ih (fun m member => stand m (List.mem_cons_of_mem n member)) apart
      (before ++ n.text) rest placed fun m member => by rw [stops]; exact later m member
    obtain ⟨written, tight, swapped⟩ := exists_writeOut stands.isTight start rest'
    have isFront : front <+: before := by
      refine List.prefix_of_prefix_length_le ⟨back, split.symm⟩ ⟨n.text ++ rest, ?_⟩ ?_
      · rw [placed, List.append_assoc]
      · rw [start]
        exact behind n List.mem_cons_self
    obtain ⟨between, rfl⟩ := isFront
    have spelled : back = between ++ n.text ++ rest := by
      rw [placed, List.append_assoc, List.append_assoc] at split
      rw [List.append_assoc]
      exact (List.append_cancel_left split).symm
    refine ⟨between ++ written ++ rest', ?_, fun spot => ?_⟩
    · calc
        (n :: numerals).foldr writeOut t = n.writeOut (front ++ between ++ n.text ++ rest') := by
          rw [List.foldr_cons, others]
        _ = front ++ between ++ written ++ rest' := swapped
        _ = front ++ (between ++ written ++ rest') := by simp only [List.append_assoc]
    · have passed : (spot.after between).after written = (spot.after between).after n.text :=
        tight.after_eq stands.isTight (spot.after between)
      simp only [spelled, Spot.after_append, same, passed]

end Numeral

theorem after_withDigits (t : Text) (spot : Spot) : spot.after (withDigits t) = spot.after t.lower := by
  obtain ⟨written, spelled, same⟩ := Numeral.exists_foldr_writeOut
    (fun n member => Numeral.standsIn_of_mem_findAll member) (Numeral.pairwise_findAll t.lower)
    [] t.lower rfl fun n _ => Nat.zero_le n.start
  unfold withDigits
  rw [spelled, List.nil_append, same]

theorem isTight_of_mem_monthTable : ∀ month ∈ monthTable,
    month.full.IsTight ∧ month.short.IsTight ∧ month.genitive.IsTight := by
  decide

theorem isTight_of_canonicalMonth? {t name : Text} (found : canonicalMonth? t = some name) :
    t.IsTight := by
  obtain ⟨month, isMonth, -⟩ := Option.map_eq_some_iff.mp found
  obtain ⟨full, short, genitive⟩ := isTight_of_mem_monthTable month (List.mem_of_find?_eq_some isMonth)
  have spells := List.find?_some isMonth
  simp only [Bool.or_eq_true, decide_eq_true_eq] at spells
  rcases spells with (rfl | rfl) | rfl
  · exact full
  · exact short
  · exact genitive

theorem isTight_of_normalize {t : Text} (tight : (normalize t).IsTight) : t.IsTight := by
  have digits : (withDigits t).IsTight := by
    unfold normalize at tight
    cases found : canonicalMonth? (withDigits t) with
    | none =>
      rw [found] at tight
      exact tight
    | some name => exact isTight_of_canonicalMonth? found
  apply Text.IsTight.of_lower
  unfold Text.IsTight at digits ⊢
  rw [← after_withDigits]
  exact digits

namespace Resolver

theorem exists_match?_of_isSome {resolver : Resolver} (quiet : resolver.fallback = none)
    {features : List Feature} {expression : Text} {rules : List Rule}
    (resolves : (resolver.resolveBy features expression rules).value.isSome) :
    ∃ rule ∈ rules, ∃ captures, rule.match? expression = some captures := by
  induction rules with
  | nil =>
    simp [resolveBy, askFallback, quiet] at resolves
  | cons rule rules ih =>
    cases matched : rule.match? expression with
    | some captures => exact ⟨rule, List.mem_cons_self, captures, matched⟩
    | none =>
      simp only [resolveBy, matched, ite_self] at resolves
      obtain ⟨other, member, captures, matched⟩ := ih resolves
      exact ⟨other, List.mem_cons_of_mem rule member, captures, matched⟩

theorem isTight_of_isSome {reference : Moment} {t : Text}
    (resolves : ((⟨grammar, reference, none⟩ : Resolver).resolve t).value.isSome) : t.IsTight := by
  obtain ⟨rule, member, captures, matched⟩ := exists_match?_of_isSome rfl resolves
  exact isTight_of_normalize (isTight_of_match? member matched)

end Resolver

end TurkishDates
