import TurkishDates.Text.Basic
import TurkishDates.Text.CaseTable

/-!
Capital and small letters by the Turkish rules. Turkish has a dotted pair `İ`, `i` and a dotless pair
`I`, `ı`; all other letters follow the general pairs.
-/

namespace TurkishDates

def lowerChar (c : Char) : List Char :=
  if c = 'I' then ['ı'] else if c = 'İ' then ['i'] else smallForm c

def upperChar (c : Char) : List Char :=
  if c = 'i' then ['İ'] else if c = 'ı' then ['I'] else capitalForm c

namespace Text

def lower (t : Text) : Text := t.flatMap lowerChar

def upper (t : Text) : Text := t.flatMap upperChar

@[simp] theorem lower_nil : lower [] = [] := rfl

@[simp] theorem lower_cons (c : Char) (t : Text) : lower (c :: t) = lowerChar c ++ lower t := rfl

@[simp] theorem lower_append (s t : Text) : lower (s ++ t) = lower s ++ lower t := List.flatMap_append

@[simp] theorem upper_cons (c : Char) (t : Text) : upper (c :: t) = upperChar c ++ upper t := rfl

end Text

example : Text.lower "IŞIK İZMİR".toList = "ışık izmir".toList := by decide

example : Text.upper "ışık izmir".toList = "IŞIK İZMİR".toList := by decide

end TurkishDates
