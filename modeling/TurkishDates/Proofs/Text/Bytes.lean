import TurkishDates.Text.Basic

/-!
Texts in their encoding, in which a character takes one byte or more. Bytes can be cut out of a text and replaced
only between two characters.
-/

namespace TurkishDates

/-- The bytes from `start` up to `stop`. -/
structure ByteRange where
  start : String.Pos.Raw
  stop : String.Pos.Raw
deriving DecidableEq

namespace ByteRange

/-- Whether both ends of the range lie between characters, or at an end of the text. -/
def OnBoundaries (range : ByteRange) (s : String) : Prop :=
  range.start.IsValid s ∧ range.stop.IsValid s ∧ range.start ≤ range.stop

instance (range : ByteRange) (s : String) : Decidable (range.OnBoundaries s) :=
  inferInstanceAs (Decidable (_ ∧ _ ∧ _))

def cut? (range : ByteRange) (s : String) : Option String :=
  if inside : range.OnBoundaries s then
    some (s.extract (s.pos range.start inside.1) (s.pos range.stop inside.2.1))
  else none

def replace? (range : ByteRange) (written s : String) : Option String :=
  if inside : range.OnBoundaries s then
    some (s.extract s.startPos (s.pos range.start inside.1) ++ written ++
      s.extract (s.pos range.stop inside.2.1) s.endPos)
  else none

def behind (front middle : String) : ByteRange := ⟨front.rawEndPos, (front ++ middle).rawEndPos⟩

theorem extract_of_append {s front middle back : String} {first last : s.Pos}
    (whole : s = front ++ middle ++ back) (starts : first.offset = front.rawEndPos)
    (stops : last.offset = (front ++ middle).rawEndPos) : s.extract first last = middle := by
  subst whole
  rw [← String.toByteArray_inj, String.toByteArray_extract, starts, stops]
  simp only [String.toByteArray_append, String.byteIdx_rawEndPos, ← String.size_toByteArray]
  rw [ByteArray.extract_append_size_left, ByteArray.extract_append_eq_right rfl ByteArray.size_append]

variable (front middle back : String)

theorem onBoundaries_behind : (behind front middle).OnBoundaries (front ++ middle ++ back) := by
  refine ⟨?_, ?_, ?_⟩
  · exact String.Pos.Raw.isValid_iff_exists_append.mpr ⟨front, middle ++ back, String.append_assoc, rfl⟩
  · exact String.Pos.Raw.isValid_iff_exists_append.mpr ⟨front ++ middle, back, rfl, rfl⟩
  · simp [behind, String.Pos.Raw.le_iff]

theorem cut?_behind : (behind front middle).cut? (front ++ middle ++ back) = some middle := by
  rw [cut?, dif_pos (onBoundaries_behind front middle back)]
  exact congrArg some (extract_of_append rfl rfl rfl)

theorem replace?_behind (written : String) :
    (behind front middle).replace? written (front ++ middle ++ back) = some (front ++ written ++ back) := by
  have before : front ++ middle ++ back = "" ++ front ++ (middle ++ back) := by
    rw [String.empty_append, String.append_assoc]
  have after : front ++ middle ++ back = front ++ middle ++ back ++ "" := String.append_empty.symm
  rw [replace?, dif_pos (onBoundaries_behind front middle back),
    extract_of_append before rfl (congrArg String.rawEndPos String.empty_append.symm),
    extract_of_append after rfl rfl]

end ByteRange

end TurkishDates
