import TurkishDates.Text.Basic
import TurkishDates.Text.CodeRange

/-!
Blank characters: the code points with the White_Space property of the Unicode standard.
-/

namespace TurkishDates

def blankRanges : CodeRanges :=
  [(9, 13), (32, 32), (133, 133), (160, 160), (5760, 5760), (8192, 8202),
    (8232, 8233), (8239, 8239), (8287, 8287), (12288, 12288)]

def isBlank (c : Char) : Bool := blankRanges.contains c.toNat

namespace Text

def trimLeft (t : Text) : Text := t.dropWhile isBlank

def isAllBlank (t : Text) : Bool := t.all isBlank

end Text

end TurkishDates
