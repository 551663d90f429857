import TurkishDates.Numeral.Reading
import TurkishDates.Pattern.Basic

/-!
Finding the numerals of a text. A numeral stands between separators, or at an end of the text; the
separators on both sides belong to the match, so they cannot serve the next one. Letters are read in
either case, with the general pairs of letters: `ı` and `İ` stand only for themselves.
-/

namespace TurkishDates

namespace Numeral

open Shape

def caseVariants (c : Char) : List Char :=
  if c = 'ı' then ['ı']
  else if c = 'i' then ['i', 'I']
  else if c = 'k' then ['k', 'K', '\u212a']
  else if c = 's' then ['s', 'S', '\u017f']
  else c :: capitalForm c

def spelled (word : Text) : Shape := word.foldr (fun c rest => oneOf (caseVariants c) ++ rest) empty

def digit : Shape := anyChar "0123456789"

def nonzero : Shape := anyChar "123456789"

def minus : Shape := opt "-"

def integer : Shape := minus ++ plus digit

/-- Digits with a comma or point among them, of which one side may be missing. -/
def decimal : Shape :=
  minus ++ anyOf
    [star digit ++ anyChar ",." ++ plus digit,
     plus digit ++ anyChar ",." ++ star digit]

def quotient : Shape := minus ++ plus digit ++ "/" ++ nonzero ++ star digit

def grouped : Shape := nonzero ++ opt nonzero ++ star ("." ++ digit ++ digit ++ digit)

/-- One part of a numeral; of the readings at a place the earlier one is preferred. -/
def part : Shape :=
  anyOf [integer, decimal, quotient, grouped, anyOf (numberWords.map fun entry => spelled entry.1)]

/-- Parts that touch, then any number of groups of such parts after one space each. -/
def body : Shape := plus part ++ star (" " ++ plus part)

def separators : Shape := plus (anyChar " ;:")

def lead (atStart : Bool) : Shape := if atStart then .alt empty separators else separators

def closed : Pattern := keep body ++ Shape.alt separators .atEnd

end Numeral

/-- A numeral found in a text, and the number of characters before it. -/
structure Numeral where
  start : Nat
  text : Text
deriving DecidableEq, Repr

namespace Numeral

def stop (n : Numeral) : Nat := n.start + n.text.length

/-- The numeral that begins right where `t` does, when `t` is what remains of a text of `length`
characters, and the number of characters left behind its separators. -/
def beginning? (length : Nat) (t : Marked Unit) : Option (Numeral × Nat) :=
  match closed.matchFront? t with
  | some ⟨[text], rest⟩ => some (⟨length - t.length, text⟩, rest.length)
  | _ => none

/-- The numerals from left to right, when the next `taken` characters already belong to a match. Every
place is marked with the numeral that begins there. -/
def findFrom (taken : Nat) (atStart : Bool) : Marked (Thunk (Option (Numeral × Nat))) → List Numeral
  | [] => []
  | (c, numeral?) :: t =>
      match taken with
      | taken + 1 => findFrom taken false t
      | 0 =>
          match (lead atStart).read (Marked.answerAt none) ((c, numeral?) :: t) with
          | some (numeral, left) => numeral :: findFrom (t.length - left) false t
          | none => findFrom 0 false t

def findAll (t : Text) : List Numeral :=
  findFrom 0 true (Marked.answers (beginning? t.length) (Marked.ofText t))

end Numeral

example : Numeral.findAll "iki bin ve 3,5 kg".toList =
    [⟨0, "iki bin".toList⟩, ⟨11, "3,5".toList⟩] := by decide +kernel

example : Numeral.findAll "iki;;; 5 kg".toList = [⟨0, "iki".toList⟩] := by decide +kernel

end TurkishDates
