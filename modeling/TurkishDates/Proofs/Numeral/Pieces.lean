import TurkishDates.Proofs.Number.WholePart
import TurkishDates.Proofs.Numeral.Substitution
import TurkishDates.Proofs.Text.Bytes

/-!
Writing the numerals of a text in digits, within the text. Nothing is lost: what stands between the numerals is kept,
and each numeral is replaced by what is written for it. The places of the numerals are those in the unchanged text, in
characters or in bytes. The last numeral comes first, so that the text is still unchanged up to the end of the next one.
-/

namespace TurkishDates

namespace Numeral

inductive InOrder (t : Text) : Nat → List Numeral → Prop
  | nil (place : Nat) : InOrder t place []
  | cons {place : Nat} {n : Numeral} {numerals : List Numeral} (behind : place ≤ n.start) (stands : n.StandsIn t)
      (later : InOrder t n.stop numerals) : InOrder t place (n :: numerals)

/-- The text from `place` on, put together from what stands between the numerals and from one piece for each of
them. -/
def assemble (piece : Numeral → Text) (t : Text) (place : Nat) : List Numeral → Text
  | [] => t.drop place
  | n :: numerals => (t.drop place).take (n.start - place) ++ (piece n ++ assemble piece t n.stop numerals)

def byteRange (t : Text) (n : Numeral) : ByteRange :=
  ⟨(String.ofList (t.take n.start)).rawEndPos, (String.ofList (t.take n.stop)).rawEndPos⟩

/-- Writes the numeral that takes these bytes of `original` in digits where it stands in `s`, unless it is digits
already. -/
def writeBytes? (original : String) (range : ByteRange) (s : String) : Option String := do
  let numeral ← range.cut? original
  if isPlainDigits numeral.toList then some s
  else
    let value := Binary.ofFloat (numeralValue numeral.toList)
    range.replace? (String.ofList (decimalText value.wholeWord)) s

/-- Writes the numerals of the text in digits, the last one first, by the bytes that they take in it. -/
def spliceBytes? (t : Text) (numerals : List Numeral) : Option String :=
  (numerals.map (byteRange t)).foldrM (writeBytes? (String.ofList t)) (String.ofList t)

theorem inOrder_of_pairwise {t : Text} {place : Nat} {numerals : List Numeral}
    (stand : ∀ n ∈ numerals, n.StandsIn t) (behind : ∀ n ∈ numerals, place ≤ n.start)
    (apart : numerals.Pairwise fun m n => m.stop ≤ n.start) : InOrder t place numerals := by
  induction numerals generalizing place with
  | nil => exact .nil place
  | cons n numerals ih =>
    obtain ⟨here, later⟩ := List.forall_mem_cons.mp stand
    obtain ⟨first, others⟩ := List.pairwise_cons.mp apart
    exact .cons (behind n List.mem_cons_self) here (ih later first others)

theorem inOrder_findAll (t : Text) : InOrder t 0 (findAll t) :=
  inOrder_of_pairwise (fun _ => standsIn_of_mem_findAll) (fun n _ => Nat.zero_le n.start) (pairwise_findAll t)

theorem InOrder.of_append {t : Text} {place : Nat} {before after : List Numeral} {n : Numeral}
    (inOrder : InOrder t place (before ++ n :: after)) : n.StandsIn t ∧ InOrder t n.stop after := by
  induction before generalizing place with
  | nil =>
    cases inOrder with
    | cons behind stands later => exact ⟨stands, later⟩
  | cons m before ih =>
    cases inOrder with
    | cons behind stands later => exact ih later

section Places

variable {t : Text} {n : Numeral}

theorem StandsIn.length_take (stands : n.StandsIn t) : (t.take n.start).length = n.start := by
  obtain ⟨front, back, rfl, placed, -⟩ := stands
  rw [List.append_assoc, ← placed, List.take_left]

theorem StandsIn.take_stop (stands : n.StandsIn t) : t.take n.stop = t.take n.start ++ n.text := by
  obtain ⟨front, back, rfl, placed, -⟩ := stands
  have stops : n.stop = (front ++ n.text).length := by rw [List.length_append, placed, stop]
  rw [stops, List.take_left, List.append_assoc, ← placed, List.take_left]

theorem take_start {place : Nat} (behind : place ≤ n.start) :
    t.take n.start = t.take place ++ (t.drop place).take (n.start - place) := by
  rw [← List.take_add, Nat.add_sub_cancel' behind]

theorem StandsIn.byteRange_eq (stands : n.StandsIn t) :
    n.byteRange t = .behind (String.ofList (t.take n.start)) (String.ofList n.text) := by
  rw [byteRange, ByteRange.behind, ← String.ofList_append, stands.take_stop]

end Places

theorem written_isSpelled_eq_ite (n : Numeral) :
    written isSpelled n = if isPlainDigits n.text then n.text else decimalText n.wholeValue := by
  rw [written, isSpelled]
  cases isPlainDigits n.text <;> rfl

theorem writeOut_in_place {n : Numeral} {front : Text} (placed : front.length = n.start) (back : Text) :
    n.writeOut (front ++ (n.text ++ back)) = front ++ (written isSpelled n ++ back) := by
  rw [writeOut, written_isSpelled_eq_ite]
  split
  next => rfl
  next => exact splice_in_place placed _

section Runs

variable {t : Text} {place : Nat} {n : Numeral} {numerals : List Numeral}

theorem assemble_text (inOrder : InOrder t place numerals) : assemble text t place numerals = t.drop place := by
  induction inOrder with
  | nil place => rfl
  | @cons place n numerals behind stands later ih =>
    refine (List.append_right_inj (t.take place)).mp ?_
    rw [assemble, ih, ← List.append_assoc, ← take_start behind, ← List.append_assoc, ← stands.take_stop,
      List.take_append_drop, List.take_append_drop]

/-- Behind `place` the numerals are written out one after the other, and in front of it nothing has changed. -/
theorem foldr_writeOut (inOrder : InOrder t place numerals) :
    numerals.foldr writeOut t = t.take place ++ assemble (written isSpelled) t place numerals := by
  induction inOrder with
  | nil place => exact (List.take_append_drop place t).symm
  | @cons place n numerals behind stands later ih =>
    -- the numerals behind this one are written first, so the text up to its stop is what the scan has seen
    rw [List.foldr_cons, ih, stands.take_stop, List.append_assoc, writeOut_in_place stands.length_take,
      take_start behind, List.append_assoc, assemble]

theorem foldr_writeOut_behind (stands : n.StandsIn t) (later : InOrder t n.stop numerals) :
    numerals.foldr writeOut t =
      t.take n.start ++ (n.text ++ assemble (written isSpelled) t n.stop numerals) := by
  rw [foldr_writeOut later, stands.take_stop, List.append_assoc]

theorem onBoundaries_byteRange (stands : n.StandsIn t) (later : InOrder t n.stop numerals) :
    (n.byteRange t).OnBoundaries (String.ofList (numerals.foldr writeOut t)) ∧
      (n.byteRange t).cut? (String.ofList (numerals.foldr writeOut t)) = some (String.ofList n.text) := by
  rw [foldr_writeOut_behind stands later, ← List.append_assoc, String.ofList_append, String.ofList_append,
    stands.byteRange_eq]
  exact ⟨ByteRange.onBoundaries_behind _ _ _, ByteRange.cut?_behind _ _ _⟩

/-- One replacement of bytes is one replacement of characters, where the text is unchanged up to the numeral. -/
theorem writeBytes?_byteRange (stands : n.StandsIn t) (rest : Text) :
    writeBytes? (String.ofList t) (n.byteRange t) (String.ofList (t.take n.start ++ (n.text ++ rest))) =
      some (String.ofList (n.writeOut (t.take n.start ++ (n.text ++ rest)))) := by
  have own : (n.byteRange t).cut? (String.ofList t) = some (String.ofList n.text) :=
    (onBoundaries_byteRange stands (.nil n.stop)).2
  rw [writeBytes?, own, Option.bind_eq_bind, Option.bind_some, String.toList_ofList, writeOut]
  split
  next => rfl
  next =>
    rw [splice_in_place stands.length_take, stands.byteRange_eq, ← List.append_assoc, String.ofList_append,
      String.ofList_append, ByteRange.replace?_behind, ← String.ofList_append, ← String.ofList_append,
      List.append_assoc]
    rfl

theorem spliceBytes?_eq (inOrder : InOrder t place numerals) :
    spliceBytes? t numerals = some (String.ofList (numerals.foldr writeOut t)) := by
  induction inOrder with
  | nil place => rfl
  | @cons place n numerals behind stands later ih =>
    rw [spliceBytes?] at ih ⊢
    rw [List.map_cons, List.foldrM_cons, ih, Option.bind_eq_bind, Option.bind_some, List.foldr_cons,
      foldr_writeOut_behind stands later]
    exact writeBytes?_byteRange stands _

end Runs

end Numeral

open Numeral

/-- Writing the numerals of a text in digits keeps everything else. The text is put together from what stands between
its numerals and the numerals themselves, and so is the outcome, where a numeral that is not digits already is replaced
by the whole part of its value as the nearest word of 64 bits, in digits that are read as that word. The bytes of a
numeral, counted in the unchanged text, lie between characters of the text in which they are replaced and hold the
numeral there, so replacing bytes never fails and comes to the same. -/
theorem withDigits_keeps_pieces (t : Text) :
    assemble text t.lower 0 (findAll t.lower) = t.lower ∧
      withDigits t = assemble (fun n => if isPlainDigits n.text then n.text else decimalText n.wholeValue) t.lower 0
        (findAll t.lower) ∧
      (∀ n : Numeral, (Binary.ofFloat (numeralValue n.text)).IsWholeWord n.wholeValue ∧
        readNumber (decimalText n.wholeValue) = .ok n.wholeValue) ∧
      (∀ before n after, findAll t.lower = before ++ n :: after → ∃ s, spliceBytes? t.lower after = some s ∧
        (n.byteRange t.lower).OnBoundaries s ∧ (n.byteRange t.lower).cut? s = some (String.ofList n.text)) ∧
      spliceBytes? t.lower (findAll t.lower) = some (String.ofList (withDigits t)) := by
  have inOrder := inOrder_findAll t.lower
  have outcome : withDigits t = assemble (written isSpelled) t.lower 0 (findAll t.lower) := foldr_writeOut inOrder
  have pieces := funext written_isSpelled_eq_ite
  have word (n : Numeral) : fitsWord n.wholeValue = true := Binary.fitsWord_wholeWord _
  refine ⟨assemble_text inOrder, pieces ▸ outcome,
    fun n => ⟨Binary.isWholeWord_wholeWord _, readNumber_decimalText (word n)⟩, ?_, spliceBytes?_eq inOrder⟩
  intro before n after found
  rw [found] at inOrder
  obtain ⟨stands, later⟩ := inOrder.of_append
  exact ⟨_, spliceBytes?_eq later, onBoundaries_byteRange stands later⟩

/-- Three letters of two bytes stand in front of `iki`, and `bin` behind it is replaced first. -/
theorem withDigits_keeps_pieces_wide_letters :
    let t := "Üç şey ve İki çuval bin".toList
    let n : Numeral := ⟨10, "iki".toList⟩
    findAll (Text.lower t) = [⟨0, "üç".toList⟩] ++ n :: [⟨20, "bin".toList⟩] ∧
      n.byteRange (Text.lower t) = ⟨⟨13⟩, ⟨16⟩⟩ ∧
      (∃ s, spliceBytes? (Text.lower t) [⟨20, "bin".toList⟩] = some s ∧
        (n.byteRange (Text.lower t)).OnBoundaries s ∧
        (n.byteRange (Text.lower t)).cut? s = some (String.ofList n.text)) ∧
      withDigits t = "3 şey ve 2 çuval 1000".toList := by
  intro t n
  have found : findAll (Text.lower t) = [⟨0, "üç".toList⟩] ++ n :: [⟨20, "bin".toList⟩] := by decide
  obtain ⟨-, outcome, -, cuts, -⟩ := withDigits_keeps_pieces t
  have three : wholeValue ⟨0, "üç".toList⟩ = 3 := by decide +kernel
  have two : n.wholeValue = 2 := by decide +kernel
  have thousand : wholeValue ⟨20, "bin".toList⟩ = 1000 := by decide +kernel
  rw [found] at outcome
  refine ⟨found, by decide, cuts _ n _ found, outcome.trans ?_⟩
  simp only [List.singleton_append, assemble, three, two, thousand]
  decide

end TurkishDates
