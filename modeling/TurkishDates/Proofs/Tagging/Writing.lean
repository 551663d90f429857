import TurkishDates.Proofs.Tagging.WindowOrder
import TurkishDates.Tagging.Spans

/-!
What a sweep over windows leaves on the tokens. A window that is visited writes its value or leaves the
tags alone; in the end each token has the value of the window that wrote it last, under any policy.
-/

namespace TurkishDates

def Event.window? : Event → Option Window
  | .windowResolved start size _ => some ⟨start, size⟩
  | _ => none

namespace Resolver

def denotation? (resolver : Resolver) (tokens : List Text) (window : Window) : Option Denotation :=
  (resolver.resolve (window.text tokens)).value

theorem filterMap_window?_askFallback (resolver : Resolver) (expression : Text) :
    (resolver.askFallback expression).log.filterMap Event.window? = [] := by
  simp only [askFallback]
  split
  · rfl
  · split
    · split <;> rfl
    · rfl

theorem filterMap_window?_resolve (resolver : Resolver) (t : Text) :
    (resolver.resolve t).log.filterMap Event.window? = [] := by
  simp only [resolve]
  induction resolver.rules with
  | nil => exact resolver.filterMap_window?_askFallback (normalize t)
  | cons rule rules ih =>
    simp only [resolveBy]
    split
    · split
      · exact ih
      · split
        · rfl
        · simpa [Event.window?] using ih
    · exact ih

end Resolver

namespace Tagging

def written (tagging : Tagging) : List Window := tagging.log.filterMap Event.window?

theorem length_write {tags : List Tag} {window : Window}
    (fits : window.start + window.size ≤ tags.length) (value : Denotation) :
    (write tags window value).length = tags.length := by
  simp [write]
  omega

theorem getElem?_write {tags : List Tag} {window : Window}
    (fits : window.start + window.size ≤ tags.length) (value : Denotation) (i : Nat) :
    (write tags window value)[i]? =
      if window.Covers i then some ⟨some value, window.size⟩ else tags[i]? := by
  have front : (tags.take window.start).length = window.start := by simp; omega
  simp only [write, List.append_assoc, List.getElem?_append, List.length_replicate, front]
  by_cases left : i < window.start
  · rw [if_pos left, List.getElem?_take_of_lt left, if_neg (by omega)]
  · rw [if_neg left]
    by_cases inside : i - window.start < window.size
    · rw [if_pos inside, List.getElem?_replicate_of_lt inside, if_pos (by omega)]
    · rw [if_neg inside, List.getElem?_drop, if_neg (by omega)]
      congr 1
      omega

variable (resolver : Resolver) (policy : OverlapPolicy) (tokens : List Text)

/-- The value that a window writes when it is visited, if it writes at all. -/
def writes? (tags : List Tag) (window : Window) : Option Denotation :=
  if isOpen policy tags window then resolver.denotation? tokens window else none

def visit (tags : List Tag) (window : Window) : List Tag :=
  match writes? resolver policy tokens tags window with
  | none => tags
  | some value => write tags window value

def writers (windows : List Window) (tags : List Tag) : List Window :=
  (sweep resolver.resolve policy tokens windows tags).written

variable {resolver policy tokens}

@[simp] theorem writers_nil (tags : List Tag) : writers resolver policy tokens [] tags = [] := rfl

theorem isSome_writes? (tags : List Tag) (window : Window) :
    (writes? resolver policy tokens tags window).isSome =
      (isOpen policy tags window && (resolver.denotation? tokens window).isSome) := by
  simp only [writes?]
  split
  next isFree => rw [isFree, Bool.true_and]
  next taken => simp [taken]

theorem denotation?_of_writes? {tags : List Tag} {window : Window} {value : Denotation}
    (writing : writes? resolver policy tokens tags window = some value) :
    resolver.denotation? tokens window = some value := by
  simp only [writes?] at writing
  split at writing
  · exact writing
  · cases writing

theorem tags_sweep (windows : List Window) (tags : List Tag) :
    (sweep resolver.resolve policy tokens windows tags).tags =
      windows.foldl (visit resolver policy tokens) tags := by
  induction windows generalizing tags with
  | nil => rfl
  | cons window windows ih =>
    simp only [sweep, List.foldl_cons, visit, writes?, Resolver.denotation?]
    split
    · cases (resolver.resolve (window.text tokens)).value with
      | none => exact ih tags
      | some value => exact ih (write tags window value)
    · exact ih tags

theorem writers_cons (window : Window) (windows : List Window) (tags : List Tag) :
    writers resolver policy tokens (window :: windows) tags =
      (if (writes? resolver policy tokens tags window).isSome then [window] else []) ++
        writers resolver policy tokens windows (visit resolver policy tokens tags window) := by
  have quiet := resolver.filterMap_window?_resolve (window.text tokens)
  simp only [writers, written, sweep, visit, writes?, Resolver.denotation?]
  split
  · split
    next silent => simp [silent, quiet]
    next value resolved => simp [resolved, quiet, Event.window?]
  · rfl

theorem writers_append (first second : List Window) (tags : List Tag) :
    writers resolver policy tokens (first ++ second) tags =
      writers resolver policy tokens first tags ++
        writers resolver policy tokens second (first.foldl (visit resolver policy tokens) tags) := by
  induction first generalizing tags with
  | nil => rfl
  | cons window windows ih =>
    rw [List.cons_append, writers_cons, writers_cons, ih, List.append_assoc, List.foldl_cons]

theorem mem_writers_append_singleton {windows : List Window} {last window : Window}
    {tags : List Tag} :
    window ∈ writers resolver policy tokens (windows ++ [last]) tags ↔
      window ∈ writers resolver policy tokens windows tags ∨
        window = last ∧
          isOpen policy (windows.foldl (visit resolver policy tokens) tags) last = true ∧
          (resolver.denotation? tokens last).isSome = true := by
  rw [writers_append, writers_cons, writers_nil, List.append_nil, List.mem_append, isSome_writes?,
    ← Bool.and_eq_true]
  split
  next writes => simp [writes]
  next silent => simp [silent]

theorem writers_sublist (windows : List Window) (tags : List Tag) :
    (writers resolver policy tokens windows tags).Sublist windows := by
  induction windows generalizing tags with
  | nil => exact List.Sublist.slnil
  | cons window windows ih =>
    rw [writers_cons]
    split
    · exact (ih _).cons_cons window
    · exact (ih _).cons window

theorem length_visit {tags : List Tag} {window : Window}
    (fits : window.start + window.size ≤ tags.length) :
    (visit resolver policy tokens tags window).length = tags.length := by
  simp only [visit]
  split
  · rfl
  · exact length_write fits _

theorem fit_after_visit {window : Window} {windows : List Window} {tags : List Tag}
    (fit : ∀ other ∈ window :: windows, other.start + other.size ≤ tags.length) :
    ∀ other ∈ windows,
      other.start + other.size ≤ (visit resolver policy tokens tags window).length := by
  intro other member
  rw [length_visit (fit window List.mem_cons_self)]
  exact fit other (List.mem_cons_of_mem window member)

theorem length_foldl_visit {windows : List Window} {tags : List Tag}
    (fit : ∀ window ∈ windows, window.start + window.size ≤ tags.length) :
    (windows.foldl (visit resolver policy tokens) tags).length = tags.length := by
  induction windows generalizing tags with
  | nil => rfl
  | cons window windows ih =>
    rw [List.foldl_cons, ih (fit_after_visit fit), length_visit (fit window List.mem_cons_self)]

/-- In the end a token has the value of the last window that wrote it, or what it had before. -/
theorem getElem?_foldl_visit {windows : List Window} {tags : List Tag}
    (fit : ∀ window ∈ windows, window.start + window.size ≤ tags.length) (i : Nat) :
    (windows.foldl (visit resolver policy tokens) tags)[i]? =
      match (writers resolver policy tokens windows tags).findRev? fun window => window.Covers i with
      | some window => some ⟨resolver.denotation? tokens window, window.size⟩
      | none => tags[i]? := by
  induction windows generalizing tags with
  | nil => rfl
  | cons window windows ih =>
    have fits := fit window List.mem_cons_self
    rw [List.foldl_cons, ih (fit_after_visit fit), writers_cons]
    simp only [visit]
    cases writing : writes? resolver policy tokens tags window with
    | none => rfl
    | some value =>
      simp only [Option.isSome_some, if_true, List.singleton_append, List.findRev?]
      split
      next later found => simp only [found]
      next absent =>
        simp only [absent, getElem?_write fits]
        by_cases covers : window.Covers i
        · simp [covers, denotation?_of_writes? writing]
        · simp [covers]

def alone (resolver : Resolver) (tokens : List Text) : List Tag :=
  tokens.map fun token => ⟨(resolver.resolve token).value, 1⟩

theorem tags_ofTokens (tokens : List Text) :
    (ofTokens resolver.resolve policy tokens).tags =
      (Window.all tokens.length).foldl (visit resolver policy tokens) (alone resolver tokens) := by
  rw [← tags_sweep]
  simp [ofTokens, alone, Function.comp_def]

theorem tags_tagSentence (t : Text) :
    (tagSentence resolver policy t).tags =
      (Window.all t.tokens.length).foldl (visit resolver policy t.tokens) (alone resolver t.tokens) :=
  tags_ofTokens t.tokens

theorem written_tagSentence (t : Text) :
    (tagSentence resolver policy t).written =
      writers resolver policy t.tokens (Window.all t.tokens.length) (alone resolver t.tokens) := by
  have quiet : ((t.tokens.map resolver.resolve).flatMap (·.log)).filterMap Event.window? = [] := by
    simp only [List.flatMap_map, List.filterMap_flatMap, resolver.filterMap_window?_resolve]
    exact List.flatMap_eq_nil_iff.mpr fun _ _ => rfl
  simp only [tagSentence, ofTokens, writers, written, List.filterMap_append, quiet, List.nil_append,
    alone, List.map_map]
  rfl

theorem pairwise_written (t : Text) :
    (tagSentence resolver policy t).written.Pairwise Window.Precedes := by
  rw [written_tagSentence]
  exact (Window.pairwise_all _).sublist (writers_sublist _ _)

theorem all_fit (tokens : List Text) : ∀ window ∈ Window.all tokens.length,
    window.start + window.size ≤ (alone resolver tokens).length := by
  intro window member
  rw [alone, List.length_map]
  exact (Window.mem_all.mp member).2

theorem length_values_tagSentence (t : Text) :
    (tagSentence resolver policy t).values.length = t.tokens.length := by
  rw [values, List.length_map, tags_tagSentence, length_foldl_visit (all_fit t.tokens), alone,
    List.length_map]

/-- The value of a token is that of the last window that wrote it, or its own. -/
theorem getElem?_values_tagSentence (t : Text) {i : Nat} (inside : i < t.tokens.length) :
    (tagSentence resolver policy t).values[i]? =
      match (tagSentence resolver policy t).written.findRev? fun window => window.Covers i with
      | some window => some (resolver.denotation? t.tokens window)
      | none => some (resolver.resolve t.tokens[i]).value := by
  rw [values, List.getElem?_map, tags_tagSentence, getElem?_foldl_visit (all_fit t.tokens),
    ← written_tagSentence]
  split
  · rfl
  · simp [alone, inside]

end Tagging

end TurkishDates
