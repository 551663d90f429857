import TurkishDates.Proofs.Pattern.Kept
import TurkishDates.Proofs.Pattern.Residual

/-!
Patterns match all that they read. A pattern whose pieces have clear ends reads a text in one way only, so
the texts that it keeps are those of any reading. A piece ends clearly when all its texts have one length,
or when what follows it begins with none of its letters.
-/

namespace TurkishDates

namespace Shape

/-- Whether the shape can be read wherever it stands, and not only before the end of the text. -/
def isFree : Shape → Bool
  | .word _ | .oneOf _ => true
  | .atEnd => false
  | .seq first second | .alt first second => first.isFree && second.isFree
  | .plus inner => inner.isFree

theorem reads_of_isFree {shape : Shape} (free : shape.isFree = true) {x rest : Text}
    (reads : shape.Reads x rest) (later : Text) : shape.Reads x later := by
  induction shape generalizing x rest later with
  | word letters => exact reads
  | oneOf letters => exact reads
  | atEnd => cases free
  | seq first second ihFirst ihSecond =>
    obtain ⟨freeFirst, freeSecond⟩ := Bool.and_eq_true_iff.mp free
    obtain ⟨y, z, rfl, firstReads, secondReads⟩ := reads
    exact ⟨y, z, rfl, ihFirst freeFirst firstReads _, ihSecond freeSecond secondReads _⟩
  | alt first second ihFirst ihSecond =>
    obtain ⟨freeFirst, freeSecond⟩ := Bool.and_eq_true_iff.mp free
    exact reads.imp (ihFirst freeFirst · later) (ihSecond freeSecond · later)
  | plus inner ih =>
    have rounds : Rounds inner.Reads x rest := reads
    clear reads
    induction rounds with
    | last round => exact .last (ih free round later)
    | next round _ again => exact .next (ih free round _) again

theorem reads_of_spells {shape : Shape} (sure : (shape.isFree && shape.isSteady) = true) {x : Text}
    (spelled : shape.spells x = true) (later : Text) : shape.Reads x later := by
  obtain ⟨free, steady⟩ := Bool.and_eq_true_iff.mp sure
  exact reads_of_isFree free ((spells_iff steady).mp spelled) later

def lengths? (shape : Shape) : Option (List Nat) := shape.ends (fun length _ => length + 1) [0]

theorem length_mem_lengths? {shape : Shape} {lengths : List Nat} (known : shape.lengths? = some lengths)
    {x rest : Text} (reads : shape.Reads x rest) : x.length ∈ lengths := by
  have counted (t : Text) (n : Nat) : t.foldl (fun length _ => length + 1) n = n + t.length := by
    induction t generalizing n with
    | nil => rfl
    | cons c t ih =>
      rw [List.foldl_cons, ih, List.length_cons]
      omega
  have arrived := mem_ends_of_reads known reads (List.mem_singleton_self 0)
  rwa [counted, Nat.zero_add] at arrived

theorem eq_of_lengths? {shape : Shape} {x y z w rest : Text} (known : shape.lengths? = some [x.length])
    (reads : shape.Reads y rest) (same : x ++ z = y ++ w) : x = y ∧ z = w :=
  List.append_inj same (List.mem_singleton.mp (length_mem_lengths? known reads)).symm

def letters : Shape → List Char
  | .word letters | .oneOf letters => letters
  | .atEnd => []
  | .seq first second | .alt first second => first.letters ++ second.letters
  | .plus inner => inner.letters

theorem subset_letters_of_reads {shape : Shape} {x rest : Text} (reads : shape.Reads x rest) : x ⊆ shape.letters := by
  induction shape generalizing x rest with
  | word letters =>
    rw [show x = letters from reads]
    exact List.Subset.refl letters
  | oneOf letters =>
    obtain ⟨c, inside, rfl⟩ := reads
    exact List.cons_subset.mpr ⟨inside, List.nil_subset _⟩
  | atEnd => exact reads.1 ▸ List.nil_subset _
  | seq first second ihFirst ihSecond =>
    obtain ⟨y, z, rfl, firstReads, secondReads⟩ := reads
    exact List.append_subset.mpr ⟨List.subset_append_of_subset_left _ (ihFirst firstReads),
      List.subset_append_of_subset_right _ (ihSecond secondReads)⟩
  | alt first second ihFirst ihSecond =>
    rcases reads with firstReads | secondReads
    · exact List.subset_append_of_subset_left _ (ihFirst firstReads)
    · exact List.subset_append_of_subset_right _ (ihSecond secondReads)
  | plus inner ih =>
    have rounds : Rounds inner.Reads x rest := reads
    clear reads
    induction rounds with
    | last round => exact ih round
    | next round _ again => exact List.append_subset.mpr ⟨ih round, again⟩

def isUnlike (shape next : Shape) : Bool := (next.residuals shape.letters).isEmpty

def isClearBefore (shape next : Shape) : Bool :=
  shape.lengths?.any (·.length = 1) || shape.isUnlike next

/-- A reading cannot end earlier than another one when its end is clear. -/
theorem eq_nil_of_isClearBefore {shape next : Shape} (clear : shape.isClearBefore next = true)
    {x w z rest rest' rest'' : Text} (shorter : shape.Reads x rest) (longer : shape.Reads (x ++ w) rest')
    (later : next.Reads (w ++ z) rest'') : w = [] := by
  rcases Bool.or_eq_true_iff.mp clear with fixed | unlike
  · obtain ⟨lengths, known, single⟩ := (Option.any_eq_true _ _).mp fixed
    obtain ⟨length, rfl⟩ := List.length_eq_one_iff.mp (of_decide_eq_true single)
    have one := List.mem_singleton.mp (length_mem_lengths? known shorter)
    have other := List.mem_singleton.mp (length_mem_lengths? known longer)
    rw [List.length_append] at other
    exact List.length_eq_zero_iff.mp (by omega)
  · cases w with
    | nil => rfl
    | cons c w =>
      have inside : c ∈ shape.letters := subset_letters_of_reads longer (by simp)
      obtain ⟨left, isLeft, -⟩ := exists_residual_of_reads inside later
      rw [List.isEmpty_iff.mp unlike] at isLeft
      cases isLeft

theorem eq_of_isClearBefore {shape next : Shape} (clear : shape.isClearBefore next = true)
    {x y z w rest rest' later later' : Text} (reads : shape.Reads x rest) (reads' : shape.Reads y rest')
    (nextReads : next.Reads z later) (nextReads' : next.Reads w later') (same : x ++ z = y ++ w) :
    x = y ∧ z = w := by
  rcases List.append_eq_append_iff.mp same with ⟨more, rfl, rfl⟩ | ⟨more, rfl, rfl⟩
  · rw [eq_nil_of_isClearBefore clear reads reads' nextReads]
    simp
  · rw [eq_nil_of_isClearBefore clear reads' reads nextReads']
    simp

end Shape

namespace Piece

def shape : Piece → Shape
  | .skip shape | .keep shape => shape

end Piece

namespace Pattern

/-- Whether each round of each repetition reads something. -/
def isSteady (pattern : Pattern) : Bool := pattern.pieces.all fun piece => piece.shape.isSteady

def piecesAreClear : List Piece → Bool
  | [] => true
  | piece :: pieces => piece.shape.isClearBefore (shape ⟨pieces⟩) && piecesAreClear pieces

def isClear (pattern : Pattern) : Bool := piecesAreClear pattern.pieces

theorem kept_unique {pieces : List Piece} (clear : piecesAreClear pieces = true) {kept other : List Text}
    {x rest rest' : Text} (reads : PiecesRead pieces kept x rest) (reads' : PiecesRead pieces other x rest') :
    kept = other := by
  induction pieces generalizing kept other x with
  | nil => rw [reads.1, reads'.1]
  | cons piece pieces ih =>
    obtain ⟨clearFirst, clearLater⟩ := Bool.and_eq_true_iff.mp clear
    have behind {kept : List Text} {z rest : Text} (others : Reads ⟨pieces⟩ kept z rest) :
        (shape ⟨pieces⟩).Reads z rest := shape_reads_of_reads others
    cases piece with
    | skip shape =>
      obtain ⟨y, z, rfl, first, others⟩ := reads
      obtain ⟨y', z', same, first', others'⟩ := reads'
      obtain ⟨rfl, rfl⟩ := Shape.eq_of_isClearBefore clearFirst first first' (behind others) (behind others') same
      exact ih clearLater others others'
    | keep shape =>
      obtain ⟨y, z, later, rfl, rfl, first, others⟩ := reads
      obtain ⟨y', z', later', rfl, same, first', others'⟩ := reads'
      obtain ⟨rfl, rfl⟩ := Shape.eq_of_isClearBefore clearFirst first first' (behind others) (behind others') same
      rw [ih clearLater others others']

/-- Steady pieces that can read a text are found in it. The continuation is asked about the rest that the first
piece leaves in that reading, and has an answer there. -/
theorem isSome_readPieces {α : Type} {accept : Marked α → Bool} {pieces : List Piece}
    (steady : ∀ piece ∈ pieces, piece.shape.isSteady = true) {kept : List Text} {x rest : Text}
    (reads : PiecesRead pieces kept x rest) {t : Marked α} (text : Marked.text t = x ++ rest)
    (accepted : accept (t.left rest) = true) : (readPieces accept pieces t).isSome = true := by
  induction pieces generalizing kept x t with
  | nil =>
    obtain ⟨-, rfl⟩ := reads
    have whole : t.left rest = t := by
      rw [← show Marked.text t = rest from text, Marked.left_text]
    rw [whole] at accepted
    rw [readPieces, if_pos accepted]
    rfl
  | cons piece pieces ih =>
    obtain ⟨steadyFirst, steadyLater⟩ := List.forall_mem_cons.mp steady
    have found {y z : Text} {later : List Text} (split : x = y ++ z) (first : piece.shape.Reads y (z ++ rest))
        (others : PiecesRead pieces later z rest) :
        z ++ rest ∈ piece.shape.rests (Marked.text t) ∧
          (readPieces accept pieces (t.left (z ++ rest))).isSome = true := by
      have member := Shape.mem_rests_of_reads steadyFirst first
      have suffix : z ++ rest <:+ Marked.text t := by
        rw [text, split, List.append_assoc]
        exact List.suffix_append y (z ++ rest)
      rw [text, split, List.append_assoc]
      refine ⟨member, ih steadyLater others (Marked.text_left suffix) ?_⟩
      rwa [Marked.left_left suffix (List.suffix_append z rest)]
    cases piece with
    | skip shape =>
      obtain ⟨y, z, split, first, others⟩ := reads
      obtain ⟨member, answered⟩ := found split first others
      rw [readPieces, Shape.read_eq_findSome?, List.findSome?_isSome_iff]
      exact ⟨z ++ rest, member, answered⟩
    | keep shape =>
      obtain ⟨y, z, later, -, split, first, others⟩ := reads
      obtain ⟨member, answered⟩ := found split first others
      rw [readPieces, Shape.read_eq_findSome?, List.findSome?_isSome_iff]
      exact ⟨z ++ rest, member, by rwa [Option.isSome_map]⟩

theorem exists_match?_of_reads {pattern : Pattern} (steady : pattern.isSteady = true) {t : Text} {kept : List Text}
    (reads : pattern.Reads kept t []) : ∃ kept, pattern.match? t = some kept := by
  have text : Marked.text (Marked.ofText t) = t ++ [] := by
    rw [Marked.text_ofText, List.append_nil]
  have finished : List.isEmpty ((Marked.ofText t).left []) = true := by
    rw [List.isEmpty_iff, ← List.length_eq_zero_iff, Marked.length_left (List.nil_suffix)]
    rfl
  have found := isSome_readPieces (List.all_eq_true.mp steady) reads text finished
  obtain ⟨other, read⟩ := Option.isSome_iff_exists.mp found
  exact ⟨other.kept, by rw [match?, read, Option.map_some]⟩

/-- A steady pattern whose pieces have clear ends matches what it reads. -/
theorem match?_eq_some_iff {pattern : Pattern} (sure : (pattern.isSteady && pattern.isClear) = true) {t : Text}
    {kept : List Text} : pattern.match? t = some kept ↔ pattern.Reads kept t [] := by
  obtain ⟨steady, clear⟩ := Bool.and_eq_true_iff.mp sure
  refine ⟨reads_of_match?, fun reads => ?_⟩
  obtain ⟨other, matched⟩ := exists_match?_of_reads steady reads
  rw [matched, kept_unique clear (reads_of_match? matched) reads]

theorem piecesRead_of_shape_reads {pieces : List Piece} (skipped : keptShapes ⟨pieces⟩ = []) {x rest : Text}
    (reads : (shape ⟨pieces⟩).Reads x rest) : PiecesRead pieces [] x rest := by
  induction pieces generalizing x with
  | nil => exact ⟨rfl, reads⟩
  | cons piece pieces ih =>
    cases piece with
    | skip shape =>
      obtain ⟨y, z, rfl, first, others⟩ := reads
      exact ⟨y, z, rfl, first, ih skipped others⟩
    | keep shape => cases skipped

/-- Whether the pattern keeps what its first piece reads, and its other pieces spell the words. -/
def keepsBefore (pattern : Pattern) (words : Text) : Bool :=
  match pattern.pieces with
  | .keep _ :: later => (keptShapes ⟨later⟩).isEmpty &&
      ((shape ⟨later⟩).isFree && (shape ⟨later⟩).isSteady) && (shape ⟨later⟩).spells words
  | _ => false

theorem reads_of_keepsBefore {pattern : Pattern} {words : Text} (keeps : pattern.keepsBefore words = true) {x : Text}
    (first : ∀ shape ∈ pattern.keptShapes, shape.Reads x words) : pattern.Reads [x] (x ++ words) [] := by
  obtain ⟨pieces⟩ := pattern
  cases pieces with
  | nil => cases keeps
  | cons piece later =>
    cases piece with
    | skip shape => cases keeps
    | keep shape =>
      simp only [keepsBefore, Bool.and_eq_true_iff] at keeps
      obtain ⟨⟨skipped, sure⟩, spelled⟩ := keeps
      have others := Shape.reads_of_spells (Bool.and_eq_true_iff.mpr sure) spelled []
      refine ⟨x, words, [], rfl, rfl, ?_, piecesRead_of_shape_reads (List.isEmpty_iff.mp skipped) others⟩
      rw [List.append_nil]
      exact first shape List.mem_cons_self

end Pattern

end TurkishDates
