import TurkishDates.Text.Basic

/-!
Shapes of text and how they are read. A shape offers its readings in an order of preference: the
first of two alternatives before the second, one more repetition before none. Reading a shape with a
continuation yields what the continuation says about the most preferred reading that it accepts.

The characters of the text carry marks. A repetition marks every place of the text with its own
answer there, each found at most once, so nested repetitions do not read a place again and again. A
run of single characters passes every place only once and needs no marks.
-/

namespace TurkishDates

inductive Shape where
  | word (letters : Text)
  | oneOf (letters : List Char)
  | atEnd
  | seq (first second : Shape)
  | alt (first second : Shape)
  | plus (inner : Shape)
deriving DecidableEq, Repr

/-- A text whose every character carries a mark for the place where it stands. -/
abbrev Marked (α : Type) := List (Char × α)

namespace Marked

def ofText (t : Text) : Marked Unit := t.map fun c => (c, ())

def text {α : Type} (t : Marked α) : Text := t.map Prod.fst

def before {α : Type} (t rest : Marked α) : Text := text (t.take (t.length - rest.length))

def afterWord {α : Type} : Text → Marked α → Option (Marked α)
  | [], t => some t
  | _ :: _, [] => none
  | w :: ws, (c, _) :: t => if w = c then afterWord ws t else none

/-- A run of one or more of some letters, longer runs preferred. -/
def readRun {α β : Type} (letters : List Char) (next : Marked α → Option β) :
    Marked α → Option β
  | [] => none
  | (c, _) :: t =>
      if letters.contains c then
        match readRun letters next t with
        | some found => some found
        | none => next t
      else none

/-- Marks every place with the answer of `read` there, found when it is asked for. -/
def answers {α β : Type} (read : Marked α → Option β) : Marked α → Marked (Thunk (Option β))
  | [] => []
  | (c, mark) :: t => (c, Thunk.mk fun _ => read ((c, mark) :: t)) :: answers read t

def answerAt {β : Type} (stop : Option β) : Marked (Thunk (Option β)) → Option β
  | [] => stop
  | (_, answer) :: _ => answer.get

/-- Marks every place with the answer of any number of rounds from there on. A round that consumes
nothing finds the mark `none` where it began and is given up. -/
def repetitions {α β : Type} (round : Marked (Thunk (Option β)) → Option β)
    (leave : Marked α → Option β) : Marked α → Marked (Thunk (Option β))
  | [] => []
  | (c, mark) :: t =>
      let later := repetitions round leave t
      let answer := Thunk.mk fun _ =>
        match round ((c, Thunk.pure none) :: later) with
        | some found => some found
        | none => leave ((c, mark) :: t)
      (c, answer) :: later

end Marked

namespace Shape

/-- What `next` says about the most preferred reading of the shape that it accepts. -/
def read : Shape → {α β : Type} → (Marked α → Option β) → Marked α → Option β
  | .word letters, _, _, next, t =>
      match Marked.afterWord letters t with
      | some rest => next rest
      | none => none
  | .oneOf _, _, _, _, [] => none
  | .oneOf letters, _, _, next, (c, _) :: t => if letters.contains c then next t else none
  | .atEnd, _, _, next, t => if t.isEmpty then next t else none
  | .seq first second, _, _, next, t => first.read (fun rest => second.read next rest) t
  | .alt first second, _, _, next, t =>
      match first.read next t with
      | some found => some found
      | none => second.read next t
  | .plus (.oneOf letters), _, _, next, t => Marked.readRun letters next t
  | .plus _, _, _, _, [] => none
  | .plus inner, _, _, next, (c, mark) :: t =>
      if (inner.read (fun _ => some ()) ((c, mark) :: t)).isSome then
        inner.read (Marked.answerAt (next [])) ((c, Thunk.pure none) ::
          Marked.repetitions (inner.read (Marked.answerAt (next []))) next t)
      else none

instance : Coe String Shape := ⟨fun w => .word w.toList⟩

instance : Append Shape := ⟨.seq⟩

def empty : Shape := .word []

def anyOf : List Shape → Shape
  | [] => .oneOf []
  | [shape] => shape
  | shape :: next :: rest => .alt shape (anyOf (next :: rest))

def anyWord (words : List Text) : Shape := anyOf (words.map .word)

def anyChar (letters : String) : Shape := .oneOf letters.toList

/-- The shape or nothing, the shape preferred. -/
def opt (shape : Shape) : Shape := .alt shape empty

def star (shape : Shape) : Shape := opt (.plus shape)

def spells (shape : Shape) (t : Text) : Bool :=
  (shape.read (fun rest => if rest.isEmpty then some () else none) (Marked.ofText t)).isSome

end Shape

end TurkishDates
