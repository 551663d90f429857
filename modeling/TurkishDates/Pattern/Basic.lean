import TurkishDates.Pattern.Shape

/-!
Patterns: shapes in a row, some of which are kept. A match keeps the texts of the kept pieces, of the
most preferred reading that the rest of the text allows.
-/

namespace TurkishDates

inductive Piece where
  | skip (shape : Shape)
  | keep (shape : Shape)
deriving DecidableEq, Repr

structure Pattern where
  pieces : List Piece
deriving DecidableEq, Repr

instance : Coe Shape Pattern := ⟨fun shape => ⟨[.skip shape]⟩⟩

instance : Coe String Pattern := ⟨fun word => ⟨[.skip word]⟩⟩

instance : Append Pattern := ⟨fun first second => ⟨first.pieces ++ second.pieces⟩⟩

def keep (shape : Shape) : Pattern := ⟨[.keep shape]⟩

structure Found (α : Type) where
  kept : List Text
  rest : Marked α

namespace Pattern

def readPieces {α : Type} (accept : Marked α → Bool) : List Piece → Marked α → Option (Found α)
  | [], t => if accept t then some ⟨[], t⟩ else none
  | .skip shape :: pieces, t => shape.read (readPieces accept pieces) t
  | .keep shape :: pieces, t =>
      shape.read (fun rest => (readPieces accept pieces rest).map fun found =>
        { found with kept := Marked.before t rest :: found.kept }) t

def match? (pattern : Pattern) (t : Text) : Option (List Text) :=
  (readPieces List.isEmpty pattern.pieces (Marked.ofText t)).map Found.kept

def matchFront? {α : Type} (pattern : Pattern) (t : Marked α) : Option (Found α) :=
  readPieces (fun _ => true) pattern.pieces t

end Pattern

end TurkishDates
