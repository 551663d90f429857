import TurkishDates.Proofs.Pattern.Walk

/-!
What the kept pieces of a pattern read. A match keeps a text for each of them, in order, that the shape
of the piece can read. A walk over a shape tells all of its texts, when they are finitely many, or that they
are runs of letters of one kind.
-/

namespace TurkishDates

namespace Pattern

def keptShapes (pattern : Pattern) : List Shape :=
  pattern.pieces.filterMap fun
    | .skip _ => none
    | .keep shape => some shape

theorem exists_reads_of_keptShapes {pattern : Pattern} {kept : List Text} {x rest : Text}
    (reads : pattern.Reads kept x rest) {i : Nat} {shape : Shape}
    (piece : pattern.keptShapes[i]? = some shape) :
    ∃ text later, kept[i]? = some text ∧ shape.Reads text later := by
  obtain ⟨pieces⟩ := pattern
  simp only [Reads, keptShapes] at reads piece
  induction pieces generalizing kept x i with
  | nil => simp at piece
  | cons first pieces ih =>
    cases first with
    | skip skipped =>
      obtain ⟨y, z, rfl, firstReads, others⟩ := reads
      exact ih others piece
    | keep shapeKept =>
      obtain ⟨y, z, later, rfl, rfl, firstReads, others⟩ := reads
      simp only [List.filterMap_cons] at piece
      cases i with
      | zero =>
        obtain rfl := Option.some.inj piece
        exact ⟨y, z ++ rest, rfl, firstReads⟩
      | succ i =>
        rw [List.getElem?_cons_succ] at piece
        simp only [List.getElem?_cons_succ]
        exact ih others piece

end Pattern

namespace Shape

variable {shape : Shape} {x rest : Text}

def texts? (shape : Shape) : Option (List Text) := shape.ends (fun read c => read ++ [c]) [[]]

theorem mem_texts?_of_reads {texts : List Text} (known : shape.texts? = some texts)
    (reads : shape.Reads x rest) : x ∈ texts := by
  have arrived := mem_ends_of_reads known reads (List.mem_singleton_self [])
  have collected (front t : Text) : t.foldl (fun read c => read ++ [c]) front = front ++ t := by
    induction t generalizing front with
    | nil => rw [List.foldl_nil, List.append_nil]
    | cons c t ih => rw [List.foldl_cons, ih, List.append_assoc, List.singleton_append]
  rwa [collected, List.nil_append] at arrived

end Shape

/-- What has been read of a text that should be a run of letters of one kind. -/
inductive RunState where
  | empty
  | whole
  | broken
deriving DecidableEq, Repr

namespace RunState

def step (kind : Char → Bool) : RunState → Char → RunState
  | .broken, _ => .broken
  | _, c => if kind c then .whole else .broken

variable {kind : Char → Bool}

theorem foldl_broken (t : Text) : t.foldl (step kind) .broken = .broken := by
  induction t with
  | nil => rfl
  | cons c t ih => exact ih

theorem all_of_foldl {run : RunState} {t : Text} (arrived : t.foldl (step kind) run = .whole) :
    ∀ c ∈ t, kind c = true := by
  induction t generalizing run with
  | nil => exact fun c absent => absurd absent List.not_mem_nil
  | cons c t ih =>
    rw [List.foldl_cons] at arrived
    have isOfKind : kind c = true := by
      apply Bool.not_eq_false _ |>.mp
      intro other
      have torn : step kind run c = .broken := by
        cases run <;> simp [step, other]
      rw [torn, foldl_broken] at arrived
      cases arrived
    exact List.forall_mem_cons.mpr ⟨isOfKind, ih arrived⟩

end RunState

namespace Shape

def readsRuns (shape : Shape) (kind : Char → Bool) : Bool :=
  shape.ends (RunState.step kind) [.empty] = some [.whole]

theorem run_of_readsRuns {shape : Shape} {kind : Char → Bool} (sure : shape.readsRuns kind = true)
    {x rest : Text} (reads : shape.Reads x rest) : x ≠ [] ∧ ∀ c ∈ x, kind c = true := by
  have arrived := mem_ends_of_reads (of_decide_eq_true sure) reads (List.mem_singleton_self RunState.empty)
  rw [List.mem_singleton] at arrived
  refine ⟨?_, RunState.all_of_foldl arrived⟩
  intro nothing
  rw [nothing] at arrived
  cases arrived

end Shape

end TurkishDates
