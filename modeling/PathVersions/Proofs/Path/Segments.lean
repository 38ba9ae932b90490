import PathVersions.Path.Segments
import Mathlib.Data.List.DropRight

/-!
# Splitting and joining paths

Splitting a path at its separators and joining its segments are inverse to each other. Taking the
last segment off a path takes the last one off the list of its segments, so that a loop from the
right can be followed on that list.
-/

namespace PathVersions
namespace Path

theorem segments_ne_nil (path : List Char) : segments path ≠ [] := by
  induction path with
  | nil => simp
  | cons c rest inductionHypothesis =>
      rw [segments]
      split
      · simp
      · cases equation : segments rest with
        | nil => exact absurd equation inductionHypothesis
        | cons first others => simp [consFirst]

/-- No segment has a separator in it. -/
theorem separator_notMem_of_mem_segments
    {path segment : List Char}
    (member : segment ∈ segments path) :
    separator ∉ segment := by
  induction path generalizing segment with
  | nil => simp_all
  | cons c rest inductionHypothesis =>
      rw [segments] at member
      split at member
      · rcases List.mem_cons.mp member with rfl | deeper
        · simp
        · exact inductionHypothesis deeper
      · rename_i ordinary
        have different : separator ≠ c := by
          intro same
          simp [same] at ordinary
        cases equation : segments rest with
        | nil => exact absurd equation (segments_ne_nil rest)
        | cons first others =>
            rw [equation, consFirst] at member
            rcases List.mem_cons.mp member with rfl | deeper
            · have clean : separator ∉ first :=
                inductionHypothesis (by simp [equation])
              simp [different, clean]
            · exact inductionHypothesis (by simp [equation, deeper])

/-- No character is lost or added between a path and its segments. -/
@[simp] theorem join_segments (path : List Char) : join (segments path) = path := by
  induction path with
  | nil => rfl
  | cons c rest inductionHypothesis =>
      cases equation : segments rest with
      | nil => exact absurd equation (segments_ne_nil rest)
      | cons first others =>
          rw [equation] at inductionHypothesis
          rw [segments]
          split
          · rename_i same
            rw [equation, join_cons_cons, inductionHypothesis, beq_iff_eq.mp same]
            rfl
          · rw [equation, consFirst]
            cases others with
            | nil => simpa using inductionHypothesis
            | cons next others =>
                simp only [join_cons_cons] at inductionHypothesis ⊢
                simp [inductionHypothesis]

/-- A text without separators is one segment. -/
theorem segments_eq_singleton
    {segment : List Char}
    (clean : separator ∉ segment) :
    segments segment = [segment] := by
  induction segment with
  | nil => rfl
  | cons c rest inductionHypothesis =>
      simp only [List.mem_cons, not_or] at clean
      have different : (c == separator) = false := by simp [Ne.symm clean.1]
      rw [segments, different, inductionHypothesis clean.2]
      rfl

/-- A separator splits the segments of a path. -/
theorem segments_append_separator
    (left right : List Char) :
    segments (left ++ separator :: right) = segments left ++ segments right := by
  induction left with
  | nil => simp [segments]
  | cons c rest inductionHypothesis =>
      rw [List.cons_append, segments, segments, inductionHypothesis]
      split
      · rfl
      · cases equation : segments rest with
        | nil => exact absurd equation (segments_ne_nil rest)
        | cons first others => simp [consFirst]

/-- Every list of segments, as long as it is not empty, is the list of the segments of a path. -/
theorem segments_join
    {list : List (List Char)}
    (nonempty : list ≠ [])
    (clean : ∀ segment ∈ list, separator ∉ segment) :
    segments (join list) = list := by
  induction list with
  | nil => exact absurd rfl nonempty
  | cons first others inductionHypothesis =>
      have firstClean : separator ∉ first := clean first (by simp)
      cases others with
      | nil => exact segments_eq_singleton firstClean
      | cons next others =>
          have rest := inductionHypothesis (by simp)
            fun segment member => clean segment (by simp [member])
          rw [join_cons_cons, segments_append_separator, segments_eq_singleton firstClean, rest]
          rfl

theorem join_cons_of_ne_nil
    (segment : List Char)
    {rest : List (List Char)}
    (nonempty : rest ≠ []) :
    join (segment :: rest) = segment ++ separator :: join rest := by
  cases rest with
  | nil => exact absurd rfl nonempty
  | cons next rest => rfl

/-- Joining two lists of segments puts one separator between them. -/
theorem join_append
    {front rest : List (List Char)}
    (frontNonempty : front ≠ [])
    (restNonempty : rest ≠ []) :
    join (front ++ rest) = join front ++ separator :: join rest := by
  induction front with
  | nil => exact absurd rfl frontNonempty
  | cons segment front inductionHypothesis =>
      by_cases last : front = []
      · rw [last, List.singleton_append, join_cons_of_ne_nil segment restNonempty, join_singleton]
      · have appended := List.append_ne_nil_of_left_ne_nil last rest
        rw [List.cons_append, join_cons_of_ne_nil segment appended,
          join_cons_of_ne_nil segment last, inductionHypothesis last, List.append_assoc,
          List.cons_append]

/-! ## The last segment -/

/-- A path falls apart at its last separator, and the part after it is a single segment. -/
theorem splitLast_spec (path : List Char) :
    match splitLast path with
    | (none, last) => path = last ∧ separator ∉ last
    | (some parent, last) => path = parent ++ separator :: last ∧ separator ∉ last := by
  induction path with
  | nil => simp [splitLast]
  | cons c rest inductionHypothesis =>
      rw [splitLast]
      rcases equation : splitLast rest with ⟨parent?, last⟩
      rw [equation] at inductionHypothesis
      cases parent? with
      | some parent =>
          obtain ⟨whole, clean⟩ := inductionHypothesis
          exact ⟨by simp [whole], clean⟩
      | none =>
          obtain ⟨whole, clean⟩ := inductionHypothesis
          cases same : c == separator with
          | true =>
              rw [beq_iff_eq] at same
              exact ⟨by simp [whole, same], clean⟩
          | false =>
              have different : separator ≠ c := fun equal => by simp [equal] at same
              exact ⟨by simp [whole], by simp [different, clean]⟩

/-- A path without a parent is its last segment. -/
theorem segments_of_splitLast_none
    {path last : List Char}
    (equation : splitLast path = (none, last)) :
    segments path = [last] ∧ path = last := by
  have spec := splitLast_spec path
  rw [equation] at spec
  obtain ⟨rfl, clean⟩ := spec
  exact ⟨segments_eq_singleton clean, rfl⟩

/-- A path with a parent has one segment more. -/
theorem segments_of_splitLast_some
    {path parent last : List Char}
    (equation : splitLast path = (some parent, last)) :
    segments path = segments parent ++ [last] := by
  have spec := splitLast_spec path
  rw [equation] at spec
  obtain ⟨rfl, clean⟩ := spec
  rw [segments_append_separator, segments_eq_singleton clean]

/-- The last segment is found from the right, but is also the last one from the left. -/
theorem lastSegment_eq_getLast (path : List Char) :
    lastSegment path = (segments path).getLast (segments_ne_nil path) := by
  rcases equation : splitLast path with ⟨parent?, last⟩
  cases parent? with
  | none =>
      obtain ⟨single, _⟩ := segments_of_splitLast_none equation
      simp [lastSegment, equation, single]
  | some parent =>
      simp [lastSegment, equation, segments_of_splitLast_some equation]

end Path
end PathVersions
