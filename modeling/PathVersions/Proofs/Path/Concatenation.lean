import PathVersions.Proofs.Path.Root

/-!
# Paths one after another

Two paths with a separator between them have the segments of the first one and then those of the
second one. The operations on paths look at nothing else, so that stripping only goes on to the
first path if the second one consists of versions, and cutting only goes on to the second path if
the first one has no version.
-/

namespace PathVersions
namespace Path

variable {isVersion : List Char -> Bool}

/-! ## Lists of segments -/

/-- Versions are dropped from the end of the second list, and from that of the first one only if
nothing is left of the second. -/
theorem rdropWhile_append (front rest : List (List Char)) :
    (front ++ rest).rdropWhile isVersion =
      if rest.all isVersion then front.rdropWhile isVersion
      else front ++ rest.rdropWhile isVersion := by
  induction rest using List.reverseRecOn with
  | nil => simp
  | append_singleton rest segment inductionHypothesis =>
      rw [← List.append_assoc, List.all_append, List.all_cons, List.all_nil, Bool.and_true]
      by_cases version : isVersion segment = true
      · rw [List.rdropWhile_concat_pos _ _ _ version, inductionHypothesis,
          List.rdropWhile_concat_pos _ _ _ version, version, Bool.and_true]
      · rw [List.rdropWhile_concat_neg _ _ _ version, List.rdropWhile_concat_neg _ _ _ version,
          if_neg (by simp [version]), List.append_assoc]

/-! ## Paths -/

theorem stripVersions_append_separator (left right : List Char) :
    stripVersions isVersion (left ++ separator :: right) =
      if (segments right).all isVersion then stripVersions isVersion left
      else left ++ separator :: stripVersions isVersion right := by
  rw [stripVersions_eq_join isVersion (left ++ separator :: right), segments_append_separator,
    rdropWhile_append]
  by_cases versions : (segments right).all isVersion = true
  · rw [if_pos versions, if_pos versions, ← stripVersions_eq_join]
  · -- Something is left of the second path, so that the separator before it stays as well.
    have kept : (segments right).rdropWhile isVersion ≠ [] := by
      rwa [Ne, List.rdropWhile_eq_nil_iff, ← List.all_eq_true]
    rw [if_neg versions, if_neg versions, join_append (segments_ne_nil left) kept, join_segments,
      ← stripVersions_eq_join]

theorem cutAtVersion_append_separator (left right : List Char) :
    cutAtVersion isVersion (left ++ separator :: right) =
      if (segments left).any isVersion then cutAtVersion isVersion left
      else left ++ separator :: cutAtVersion isVersion right := by
  rw [cutAtVersion_eq_join (left ++ separator :: right), segments_append_separator,
    upToVersion_append]
  by_cases found : (segments left).any isVersion = true
  · rw [if_pos found, if_pos found, ← cutAtVersion_eq_join]
  · have kept : upToVersion isVersion (segments right) ≠ [] :=
      upToVersion_ne_nil (segments_ne_nil right)
    rw [if_neg found, if_neg found, join_append (segments_ne_nil left) kept, join_segments,
      ← cutAtVersion_eq_join]

end Path

namespace VersionGrammar

/-- Of two paths with a separator between them, stripping leaves the first one and the separator as
they are unless all segments of the second path are versions; then it strips the first path only.
Cutting leaves the first one and the separator as they are unless a segment of the first path is a
version; then it cuts the first path only. -/
theorem stripVersions_and_cutAtVersion_append (grammar : VersionGrammar) (left right : String) :
    grammar.stripVersions (left ++ "/" ++ right) =
        (if (Path.segments right.toList).all grammar.isVersion then grammar.stripVersions left
        else left ++ "/" ++ grammar.stripVersions right) ∧
      grammar.cutAtVersion (left ++ "/" ++ right) =
        (if (Path.segments left.toList).any grammar.isVersion then grammar.cutAtVersion left
        else left ++ "/" ++ grammar.cutAtVersion right) := by
  have whole : (left ++ "/" ++ right).toList =
      left.toList ++ Path.separator :: right.toList := by
    simp [Path.separator]
  have joined (rest : List Char) : String.ofList (left.toList ++ Path.separator :: rest) =
      left ++ "/" ++ String.ofList rest := by
    rw [← String.toList_inj]
    simp [Path.separator]
  refine ⟨?_, ?_⟩
  · rw [stripVersions, whole, Path.stripVersions_append_separator, apply_ite String.ofList, joined,
      ← stripVersions, ← stripVersions]
  · rw [cutAtVersion, whole, Path.cutAtVersion_append_separator, apply_ite String.ofList, joined,
      ← cutAtVersion, ← cutAtVersion]

/-- The empty path has one segment, which is no version, so that a separator at the start goes with
the versions that are stripped after it and stays before the one that a path is cut at. -/
example : default.stripVersions ("" ++ "/" ++ "v1/v2") = "" ∧
    default.cutAtVersion ("" ++ "/" ++ "v1/v2") = "/v1" := ⟨by cbv, by cbv⟩

end VersionGrammar
end PathVersions
