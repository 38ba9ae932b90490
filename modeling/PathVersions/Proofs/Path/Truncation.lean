import PathVersions.Proofs.Path.Root
import PathVersions.SourcePath

/-!
# Truncated paths

Operations on a path only ever cut it at a separator. Whatever a run of them arrives at, under
grammars that may differ from step to step, is empty, the path itself, or what stands before one of
its separators, and no step makes it longer.
-/

namespace PathVersions
namespace Path

/-- Where a path can be cut: nothing of it is left, or all of it, or what stands before one of its
separators. -/
def FrontOf (front path : List Char) : Prop :=
  front = [] ∨ front = path ∨ front ++ [separator] <+: path

namespace FrontOf

theorem refl (path : List Char) : FrontOf path path := .inr (.inl rfl)

/-- What is in front of a cut is a prefix. -/
theorem isPrefix
    {front path : List Char}
    (cut : FrontOf front path) :
    front <+: path := by
  obtain rfl | rfl | longer := cut
  · exact List.nil_prefix
  · exact List.prefix_rfl
  · exact (List.prefix_append front [separator]).trans longer

/-- A front of a front is a front, since segments are never cut through. -/
theorem trans
    {first second third : List Char}
    (cut : FrontOf first second)
    (again : FrontOf second third) :
    FrontOf first third := by
  obtain rfl | rfl | longer := cut
  · exact .inl rfl
  · exact again
  · exact .inr (.inr (longer.trans again.isPrefix))

/-- A cut keeps the segments before it whole. -/
theorem segments_isPrefix
    {front path : List Char}
    (cut : FrontOf front path)
    (nonempty : front ≠ []) :
    segments front <+: segments path := by
  obtain rfl | rfl | ⟨rest, rfl⟩ := cut
  · exact absurd rfl nonempty
  · exact List.prefix_rfl
  · rw [List.append_assoc, List.singleton_append, segments_append_separator]
    exact List.prefix_append _ _

end FrontOf

/-- The first segments of a path are what stands before one of its separators, unless they are none
or all. -/
theorem join_frontOf
    {front list : List (List Char)}
    (shorter : front <+: list) :
    FrontOf (join front) (join list) := by
  obtain ⟨rest, rfl⟩ := shorter
  by_cases none : front = []
  · exact .inl (by rw [none, join_nil])
  by_cases all : rest = []
  · rw [all, List.append_nil]
    exact .refl _
  · right
    right
    refine ⟨join rest, ?_⟩
    rw [join_append none all, List.append_assoc, List.singleton_append]

/-- Stripping cuts a path at a separator, or takes all of it. -/
theorem stripVersions_frontOf (isVersion : List Char -> Bool) (path : List Char) :
    FrontOf (stripVersions isVersion path) path := by
  have cut := join_frontOf (List.rdropWhile_prefix isVersion (segments path))
  rwa [join_segments, ← stripVersions_eq_join] at cut

/-- Cutting after a version cuts a path at a separator. -/
theorem cutAtVersion_frontOf (isVersion : List Char -> Bool) (path : List Char) :
    FrontOf (cutAtVersion isVersion path) path := by
  have cut := join_frontOf (upToVersion_isPrefix isVersion (segments path))
  rwa [join_segments, ← cutAtVersion_eq_join] at cut

end Path

/-! ## Runs -/

namespace SourcePath

/-- An operation that makes a path of a path. -/
inductive Operation
  | withoutVersion
  | versionedPart
  | withoutVersionUsing (grammar : VersionGrammar)
deriving DecidableEq, Repr

/-- What an operation makes of a path. Where no grammar is given, it is the default one. -/
def Operation.apply : Operation -> SourcePath -> SourcePath
  | .withoutVersion, path => path.withoutVersion .default
  | .versionedPart, path => path.versionedPart .default
  | .withoutVersionUsing grammar, path => path.withoutVersion grammar

/-- What operations one after another make of a path. -/
def run (operations : List Operation) (path : SourcePath) : SourcePath :=
  operations.foldl (fun path operation => operation.apply path) path

/-- What is left of a path after a cut. -/
def CutFrom (value path : SourcePath) : Prop := Path.FrontOf value.text.toList path.text.toList

theorem run_append (first second : List Operation) (path : SourcePath) :
    run (first ++ second) path = run second (run first path) := by
  rw [run, List.foldl_append]
  rfl

/-- One operation cuts from its path. -/
theorem apply_cutFrom (operation : Operation) (path : SourcePath) :
    (operation.apply path).CutFrom path := by
  have strip (grammar : VersionGrammar) : (path.withoutVersion grammar).CutFrom path := by
    rw [CutFrom, withoutVersion, VersionGrammar.stripVersions, String.toList_ofList]
    exact Path.stripVersions_frontOf grammar.isVersion path.text.toList
  cases operation with
  | withoutVersion => exact strip .default
  | versionedPart =>
      rw [Operation.apply, CutFrom, versionedPart, VersionGrammar.cutAtVersion,
        String.toList_ofList]
      exact Path.cutAtVersion_frontOf VersionGrammar.default.isVersion path.text.toList
  | withoutVersionUsing grammar => exact strip grammar

/-- Any number of operations cuts from the first path. -/
theorem run_cutFrom (operations : List Operation) (path : SourcePath) :
    (run operations path).CutFrom path := by
  induction operations generalizing path with
  | nil => exact .refl _
  | cons operation operations inductionHypothesis =>
      exact (inductionHypothesis (operation.apply path)).trans (apply_cutFrom operation path)

/-- Every value on the way of a run is empty, the path that it started from, or what stands before
one of its separators, and each is the start of those before it. -/
theorem run_take_cut
    (path : SourcePath)
    (operations : List Operation)
    (count more : Nat) :
    let value := run (operations.take count) path
    let later := run (operations.take (count + more)) path
    (value.text = "" ∨ value = path ∨ ∃ rest, path.text = value.text ++ "/" ++ rest) ∧
      (value.text = "" ∨ value.segments <+: path.segments) ∧
      later.text.toList <+: value.text.toList ∧
      later.text.utf8ByteSize ≤ value.text.utf8ByteSize := by
  intro value later
  have cut : value.CutFrom path := run_cutFrom (operations.take count) path
  have onward : later.CutFrom value := by
    have split : operations.take (count + more) =
        operations.take count ++ (operations.drop count).take more := List.take_add
    change (run (operations.take (count + more)) path).CutFrom value
    rw [split, run_append]
    exact run_cutFrom _ value
  refine ⟨?_, ?_, onward.isPrefix, ?_⟩
  · obtain nothing | whole | ⟨rest, front⟩ := cut
    · exact .inl (String.toList_eq_nil_iff.mp nothing)
    · exact .inr (.inl (congrArg SourcePath.mk (String.toList_inj.mp whole)))
    · refine .inr (.inr ⟨String.ofList rest, ?_⟩)
      rw [← String.toList_inj, ← front]
      simp [Path.separator]
  · by_cases empty : value.text = ""
    · exact .inl empty
    · right
      have nonempty : value.text.toList ≠ [] := fun nothing =>
        empty (String.toList_eq_nil_iff.mp nothing)
      exact (cut.segments_isPrefix nonempty).map String.ofList
  · obtain ⟨rest, longer⟩ := onward.isPrefix
    have whole : value.text = later.text ++ String.ofList rest := by
      rw [← String.toList_inj, ← longer, String.toList_append, String.toList_ofList]
    rw [whole, String.utf8ByteSize_append]
    exact Nat.le_add_right _ _

end SourcePath
end PathVersions
