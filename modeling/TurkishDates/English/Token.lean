import TurkishDates.Text.Blank
import TurkishDates.Text.Digits

/-!
The tokens of English phrases: whole numbers, words, quoted texts and single characters. Only ASCII text
is read. A null character right where a token should begin ends the text; after blanks it is a
character like any other.
-/

namespace TurkishDates

namespace English

inductive Token where
  | integer (n : Nat)
  | tooLarge
  | word (letters : Text)
  | quoted
  | symbol (c : Char)
  | finished
deriving DecidableEq, Repr

def startsWord (c : Char) : Bool := c.isAlpha || c == '_'

def continuesWord (c : Char) : Bool := c.isAlphanum || c == '_'

def isQuote (c : Char) : Bool := c == '\'' || c == '"'

/-- What follows a quoted text. The first character after the opening quote belongs to the text, even if
it is a quote; a text without a closing quote goes on to the end. -/
def afterQuoted (quote : Char) (t : Text) : Text := ((t.drop 1).dropWhile (· != quote)).drop 1

def tokenAt (c : Char) (rest : Text) : Token × Text :=
  if isDigit c then
    let n := digitsValue ((c :: rest).takeWhile isDigit)
    (if fitsWord n then .integer n else .tooLarge, rest.dropWhile isDigit)
  else if startsWord c then
    (.word (c :: rest.takeWhile continuesWord), rest.dropWhile continuesWord)
  else if isQuote c then (.quoted, afterQuoted c rest)
  else (.symbol c, rest)

def nextToken (t : Text) : Token × Text :=
  if t.head? = some '\x00' then (.finished, t)
  else match Text.trimLeft t with
    | [] => (.finished, [])
    | c :: rest => tokenAt c rest

end English

end TurkishDates
