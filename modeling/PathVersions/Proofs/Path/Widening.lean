import PathVersions.Proofs.Grammar.DefaultPattern
import PathVersions.Proofs.Path.Truncation

/-!
# Wider grammars

A grammar is wider than another one if all versions of that are its versions too. Of every path it
leaves the same or less: a strip goes on from where the one under the narrower grammar stops, and a
cut is made at the first version of either kind.
-/

namespace PathVersions
namespace Path

variable {narrow wide : List Char -> Bool} {list : List (List Char)}

/-- Versions of the wider kind at the end of a list are dropped all the same where those of the
narrower kind were dropped first. -/
theorem rdropWhile_rdropWhile
    (wider : ∀ segment ∈ list, narrow segment = true -> wide segment = true) :
    (list.rdropWhile narrow).rdropWhile wide = list.rdropWhile wide := by
  induction list using List.reverseRecOn with
  | nil => rfl
  | append_singleton list segment inductionHypothesis =>
      by_cases version : narrow segment = true
      · have others := inductionHypothesis fun other member => wider other (by simp [member])
        have also : wide segment = true := wider segment (by simp) version
        rw [List.rdropWhile_concat_pos _ _ _ version, others,
          List.rdropWhile_concat_pos _ _ _ also]
      · rw [List.rdropWhile_concat_neg _ _ _ version]

/-- The first version of the wider kind comes no later than the first one of the narrower kind. -/
theorem upToVersion_isPrefix_upToVersion
    (wider : ∀ segment ∈ list, narrow segment = true -> wide segment = true) :
    upToVersion wide list <+: upToVersion narrow list := by
  induction list with
  | nil => exact List.prefix_rfl
  | cons segment rest inductionHypothesis =>
      have others := inductionHypothesis fun other member => wider other (by simp [member])
      rw [upToVersion, upToVersion]
      cases version : wide segment with
      | true =>
          rw [if_pos rfl]
          split
          · exact List.prefix_rfl
          · exact List.cons_prefix_cons.mpr ⟨rfl, List.nil_prefix⟩
      | false =>
          have neither : narrow segment ≠ true := by
            intro narrower
            rw [wider segment (by simp) narrower] at version
            contradiction
          rw [if_neg Bool.false_ne_true, if_neg neither]
          exact List.cons_prefix_cons.mpr ⟨rfl, others⟩

@[simp] theorem stripVersions_nil (isVersion : List Char -> Bool) :
    stripVersions isVersion [] = [] := by
  have whole : splitLast [] = (none, []) := rfl
  rw [stripVersions_of_none whole]
  split <;> rfl

variable {path : List Char}
  (wider : ∀ segment ∈ segments path, narrow segment = true -> wide segment = true)
include wider

/-- Stripping by a wider notion of versions does not notice that narrower ones are gone. -/
theorem stripVersions_stripVersions :
    stripVersions wide (stripVersions narrow path) = stripVersions wide path := by
  have dropped := rdropWhile_rdropWhile wider
  by_cases kept : (segments path).rdropWhile narrow = []
  · -- A path of versions only is stripped to the empty path, not to one without segments.
    rw [kept, List.rdropWhile_nil] at dropped
    rw [stripVersions_eq_join narrow, kept, join_nil, stripVersions_nil, stripVersions_eq_join,
      ← dropped, join_nil]
  · rw [stripVersions_eq_join wide, segments_stripVersions kept, dropped, ← stripVersions_eq_join]

theorem stripVersions_isPrefix_stripVersions :
    stripVersions wide path <+: stripVersions narrow path := by
  rw [← stripVersions_stripVersions wider]
  exact (stripVersions_frontOf wide _).isPrefix

theorem cutAtVersion_isPrefix_cutAtVersion :
    cutAtVersion wide path <+: cutAtVersion narrow path := by
  rw [cutAtVersion_eq_join, cutAtVersion_eq_join]
  exact (join_frontOf (upToVersion_isPrefix_upToVersion wider)).isPrefix

theorem endsInVersion_of_endsInVersion (ends : endsInVersion narrow path = true) :
    endsInVersion wide path = true := by
  rw [endsInVersion, lastSegment_eq_getLast] at ends ⊢
  exact wider _ (List.getLast_mem _) ends

end Path

namespace VersionGrammar

open Pattern Pattern.Expr

/-- Under a wider grammar, whatever is left of a path is a start of what is left of it under the
narrower one, a path that ends in a version still does, and it makes no difference whether versions
of the narrower grammar were stripped before those of the wider one. -/
theorem isPrefix_of_wider
    {narrow wide : VersionGrammar}
    (wider : ∀ segment, Path.separator ∉ segment -> narrow.isVersion segment = true ->
      wide.isVersion segment = true)
    (path : String) :
    (wide.stripVersions path).toList <+: (narrow.stripVersions path).toList ∧
      (wide.cutAtVersion path).toList <+: (narrow.cutAtVersion path).toList ∧
      (narrow.endsInVersion path = true -> wide.endsInVersion path = true) ∧
      wide.stripVersions (narrow.stripVersions path) = wide.stripVersions path := by
  have within : ∀ segment ∈ Path.segments path.toList, narrow.isVersion segment = true ->
      wide.isVersion segment = true :=
    fun segment member => wider segment (Path.separator_notMem_of_mem_segments member)
  refine ⟨?_, ?_, Path.endsInVersion_of_endsInVersion within, ?_⟩
  · rw [stripVersions, stripVersions, String.toList_ofList, String.toList_ofList]
    exact Path.stripVersions_isPrefix_stripVersions within
  · rw [cutAtVersion, cutAtVersion, String.toList_ofList, String.toList_ofList]
    exact Path.cutAtVersion_isPrefix_cutAtVersion within
  · rw [stripVersions, stripVersions, String.toList_ofList,
      Path.stripVersions_stripVersions within, ← stripVersions]

/-- The default pattern, and a wider one that also admits the word `latest`, on a path where versions
of both kinds alternate. -/
theorem isPrefix_of_wider_at_latest :
    let path := "a/latest/v1/b/v2/latest"
    ∃ wide, ofPattern defaultPattern = .ok default ∧
      ofPattern "v[1-9][0-9]*[a-z0-9]*|latest" = .ok wide ∧
      (∀ segment, Path.separator ∉ segment -> default.isVersion segment = true ->
        wide.isVersion segment = true) ∧
      wide.stripVersions path = "a/latest/v1/b" ∧ default.stripVersions path = path ∧
      wide.cutAtVersion path = "a/latest" ∧ default.cutAtVersion path = "a/latest/v1" ∧
      (wide.stripVersions path).toList <+: (default.stripVersions path).toList ∧
      (wide.cutAtVersion path).toList <+: (default.cutAtVersion path).toList ∧
      (default.endsInVersion path = true -> wide.endsInVersion path = true) ∧
      wide.stripVersions (default.stripVersions path) = wide.stripVersions path := by
  intro path
  have accepted : ∃ wide right, ofPattern "v[1-9][0-9]*[a-z0-9]*|latest" = .ok wide ∧
      wide.expression = (Expr.alt defaultInner right).sealed := ⟨_, _, by cbv, rfl⟩
  have answers : (ofPattern "v[1-9][0-9]*[a-z0-9]*|latest").map
      (fun wide => (wide.stripVersions path, wide.cutAtVersion path)) =
        .ok ("a/latest/v1/b", "a/latest") := by
    cbv
  obtain ⟨wide, right, made, shape⟩ := accepted
  rw [made, Except.map, Except.ok.injEq, Prod.mk.injEq] at answers
  have wider : ∀ segment, Path.separator ∉ segment -> default.isVersion segment = true ->
      wide.isVersion segment = true := by
    intro segment _ version
    rw [isVersion_iff, expression_default, matchesSome_sealed_iff] at version
    rw [isVersion_iff, shape, matchesSome_sealed_iff]
    exact ⟨version.1, .inl version.2⟩
  exact ⟨wide, ofPattern_defaultPattern, made, wider, answers.1, by cbv, answers.2, by cbv,
    isPrefix_of_wider wider path⟩

end VersionGrammar
end PathVersions
