import PathVersions.Proofs.Path.Segments
import PathVersions.VersionGrammar
import Mathlib.Data.Nat.Find

/-!
# Stripping versions from the end of a path

The loop that takes versions off a path from the right keeps exactly the segments before the
longest run of versions at its end, whatever counts as a version. As long as the empty segment is
no version, what is left does not end in a version, so that stripping again changes nothing.
-/

namespace PathVersions
namespace Path

variable {isVersion : List Char -> Bool}

/-- A single segment is stripped to nothing if it is a version. -/
theorem stripVersions_of_none
    {path last : List Char}
    (equation : splitLast path = (none, last)) :
    stripVersions isVersion path = if isVersion last then [] else path := by
  rw [stripVersions]
  split
  · rename_i inner
    simp [inner] at equation
  · rename_i inner
    rw [inner] at equation
    cases equation
    rfl

/-- Stripping goes on with what stands before the last segment. -/
theorem stripVersions_of_some
    {path parent last : List Char}
    (equation : splitLast path = (some parent, last)) :
    stripVersions isVersion path =
      if isVersion last then stripVersions isVersion parent else path := by
  rw [stripVersions]
  split
  · rename_i inner
    rw [inner] at equation
    cases equation
    rfl
  · rename_i inner
    simp [inner] at equation

/-- Stripping a path drops the versions at the end of the list of its segments. -/
theorem stripVersions_eq_join (isVersion : List Char -> Bool) (path : List Char) :
    stripVersions isVersion path = join ((segments path).rdropWhile isVersion) := by
  induction path using stripVersions.induct isVersion with
  | case1 path parent last equation version _ inductionHypothesis =>
      rw [stripVersions_of_some equation, if_pos version, inductionHypothesis,
        segments_of_splitLast_some equation, List.rdropWhile_concat_pos _ _ _ version]
  | case2 path parent last equation ordinary =>
      rw [stripVersions_of_some equation, if_neg ordinary]
      rw [segments_of_splitLast_some equation, List.rdropWhile_concat_neg _ _ _ ordinary,
        ← segments_of_splitLast_some equation, join_segments]
  | case3 path last equation version =>
      rw [stripVersions_of_none equation, if_pos version,
        (segments_of_splitLast_none equation).1, List.rdropWhile_singleton, if_pos version,
        join_nil]
  | case4 path last equation ordinary =>
      rw [stripVersions_of_none equation, if_neg ordinary,
        (segments_of_splitLast_none equation).1, List.rdropWhile_singleton, if_neg ordinary,
        join_singleton, (segments_of_splitLast_none equation).2]

/-! ## The run of versions at the end -/

/-- The length of the longest run of segments at the end of a list that are all versions. -/
def versionRun (isVersion : List Char -> Bool) (list : List (List Char)) : Nat :=
  Nat.findGreatest
    (fun count => ∀ segment ∈ list.drop (list.length - count), isVersion segment = true)
    list.length

/-- The versions at the end are counted from the last segment on. -/
theorem versionRun_eq_length_rtakeWhile (list : List (List Char)) :
    versionRun isVersion list = (list.rtakeWhile isVersion).length := by
  have whole : list.rdropWhile isVersion ++ list.rtakeWhile isVersion = list :=
    List.rdropWhile_append_rtakeWhile
  have total : (list.rdropWhile isVersion).length + (list.rtakeWhile isVersion).length =
      list.length := by
    rw [← List.length_append, whole]
  rw [versionRun, Nat.findGreatest_eq_iff]
  refine ⟨by omega, ?_, ?_⟩
  · intro _ segment member
    have start : list.length - (list.rtakeWhile isVersion).length =
        (list.rdropWhile isVersion).length := by omega
    rw [start] at member
    nth_rewrite 2 [← whole] at member
    rw [List.drop_left] at member
    exact List.mem_rtakeWhile_imp member
  · intro count longer bounded allVersions
    have kept : list.rdropWhile isVersion ≠ [] := by
      intro empty
      rw [empty, List.length_nil] at total
      omega
    -- The last segment that is kept would belong to the longer run.
    apply List.rdropWhile_last_not isVersion list kept
    apply allVersions
    nth_rewrite 2 [← whole]
    rw [List.drop_append_of_le_length (by omega)]
    apply List.mem_append_left
    rw [← List.getLast_drop (i := list.length - count) (by
      intro empty
      have short := List.drop_eq_nil_iff.mp empty
      have positive := List.length_pos_of_ne_nil kept
      omega)]
    exact List.getLast_mem _

theorem rdropWhile_eq_take (list : List (List Char)) :
    list.rdropWhile isVersion = list.take (list.length - versionRun isVersion list) := by
  have whole : list.rdropWhile isVersion ++ list.rtakeWhile isVersion = list :=
    List.rdropWhile_append_rtakeWhile
  have total := congrArg List.length whole
  rw [List.length_append] at total
  have start : list.length - versionRun isVersion list =
      (list.rdropWhile isVersion).length := by
    rw [versionRun_eq_length_rtakeWhile]
    omega
  rw [start]
  exact List.prefix_iff_eq_take.mp (List.rdropWhile_prefix isVersion list)

/-! ## What is left -/

/-- The segments of what is left are the ones that were kept, unless none was. -/
theorem segments_stripVersions
    {path : List Char}
    (kept : (segments path).rdropWhile isVersion ≠ []) :
    segments (stripVersions isVersion path) = (segments path).rdropWhile isVersion := by
  rw [stripVersions_eq_join]
  refine segments_join kept fun segment member => ?_
  exact separator_notMem_of_mem_segments
    ((List.rdropWhile_prefix isVersion (segments path)).mem member)

/-- Stripping leaves no version at the end, given that the empty segment is none. -/
theorem endsInVersion_stripVersions
    (emptyOrdinary : isVersion [] = false)
    (path : List Char) :
    endsInVersion isVersion (stripVersions isVersion path) = false := by
  rw [endsInVersion, lastSegment_eq_getLast]
  by_cases kept : (segments path).rdropWhile isVersion = []
  · have nothing : stripVersions isVersion path = [] := by
      rw [stripVersions_eq_join, kept, join_nil]
    simp [nothing, emptyOrdinary]
  · simp only [segments_stripVersions kept]
    exact Bool.eq_false_iff.mpr (List.rdropWhile_last_not isVersion _ kept)

/-- Without a version at the end nothing is stripped. -/
theorem stripVersions_eq_self
    {path : List Char}
    (ordinary : endsInVersion isVersion path = false) :
    stripVersions isVersion path = path := by
  have unchanged : (segments path).rdropWhile isVersion = segments path := by
    rw [List.rdropWhile_eq_self_iff]
    intro _
    rw [endsInVersion, lastSegment_eq_getLast] at ordinary
    simp [ordinary]
  rw [stripVersions_eq_join, unchanged, join_segments]

theorem stripVersions_ne_self_iff
    (emptyOrdinary : isVersion [] = false)
    (path : List Char) :
    stripVersions isVersion path ≠ path ↔ endsInVersion isVersion path = true := by
  rw [← Bool.not_eq_false, not_iff_not]
  refine ⟨fun same => ?_, stripVersions_eq_self⟩
  rw [← same]
  exact endsInVersion_stripVersions emptyOrdinary path

end Path

namespace VersionGrammar

/-- No grammar has the empty segment for a version. -/
theorem isVersion_nil (grammar : VersionGrammar) : grammar.isVersion [] = false := rfl

/-- A path without the versions at its end consists of its first segments, all but the longest
run of versions at its end, with the separators between them as they were. -/
theorem stripVersions_eq_join_take (grammar : VersionGrammar) (path : String) :
    let list := Path.segments path.toList
    let run := Path.versionRun grammar.isVersion list
    (list ≠ [] ∧ Path.join list = path.toList ∧ ∀ segment ∈ list, Path.separator ∉ segment) ∧
      grammar.stripVersions path = String.ofList (Path.join (list.take (list.length - run))) ∧
      (run = list.length -> grammar.stripVersions path = "") ∧
      (run = 0 -> grammar.stripVersions path = path) := by
  intro list run
  have stripped : grammar.stripVersions path =
      String.ofList (Path.join (list.take (list.length - run))) := by
    rw [stripVersions, Path.stripVersions_eq_join, Path.rdropWhile_eq_take]
  refine ⟨⟨Path.segments_ne_nil _, Path.join_segments _, ?_⟩, stripped, ?_, ?_⟩
  · intro segment member
    exact Path.separator_notMem_of_mem_segments member
  · intro allVersions
    rw [stripped, allVersions]
    simp
  · intro noVersion
    rw [stripped, noVersion, Nat.sub_zero, List.take_length, Path.join_segments]
    simp

/-- A path ends in a version exactly if stripping changes it, and a stripped path never ends in
one, so that stripping it again changes nothing. -/
theorem endsInVersion_iff_stripVersions_ne (grammar : VersionGrammar) (path : String) :
    (grammar.endsInVersion path = true ↔ grammar.stripVersions path ≠ path) ∧
      grammar.endsInVersion (grammar.stripVersions path) = false ∧
      grammar.stripVersions (grammar.stripVersions path) = grammar.stripVersions path := by
  have ordinaryAfter : grammar.endsInVersion (grammar.stripVersions path) = false := by
    rw [endsInVersion, stripVersions, String.toList_ofList]
    exact Path.endsInVersion_stripVersions grammar.isVersion_nil path.toList
  have unchanged (other : String) (ordinary : grammar.endsInVersion other = false) :
      grammar.stripVersions other = other := by
    rw [stripVersions, Path.stripVersions_eq_self ordinary, String.ofList_toList]
  refine ⟨⟨?_, ?_⟩, ordinaryAfter, unchanged _ ordinaryAfter⟩
  · intro ends same
    rw [same, ends] at ordinaryAfter
    exact Bool.noConfusion ordinaryAfter
  · intro changed
    by_contra ordinary
    exact changed (unchanged path (Bool.eq_false_iff.mpr ordinary))

end VersionGrammar
end PathVersions
