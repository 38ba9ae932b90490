import PathVersions.Proofs.Path.Root

/-!
# Cutting after the first version

A path is cut by counting bytes: the search for the first version goes over the segments from left
to right and keeps the number of bytes up to the end of the segment that it is at. Wherever it is,
that number is a place between two characters of the path, so that a cut there never fails, and
what stands before it are the segments up to that one.
-/

namespace PathVersions
namespace Path

variable {isVersion : List Char -> Bool} {front rest : List (List Char)}
  {segment version : List Char}

/-- The number of bytes of segments that the search has passed, each with the separator after
it. -/
def passedBytes : List (List Char) -> Nat
  | [] => 0
  | segment :: rest => byteLength segment + separator.utf8Size + passedBytes rest

/-- A step of the search: either it stops at the end of the segment that it is at, or it passes the
segment and the separator after it. -/
theorem versionEnd_cons (start : Nat) (segment : List Char) (rest : List (List Char)) :
    versionEnd? isVersion start (segment :: rest) =
      if isVersion segment then some (start + byteLength segment)
      else versionEnd? isVersion (start + byteLength segment + separator.utf8Size) rest := rfl

/-- The search passes every segment that is no version. -/
theorem versionEnd_append
    (ordinary : ∀ segment ∈ front, isVersion segment = false)
    (start : Nat)
    (rest : List (List Char)) :
    versionEnd? isVersion start (front ++ rest) =
      versionEnd? isVersion (start + passedBytes front) rest := by
  induction front generalizing start with
  | nil => rfl
  | cons segment front inductionHypothesis =>
      have first : isVersion segment = false := ordinary segment (by simp)
      have others := inductionHypothesis fun other member => ordinary other (by simp [member])
      rw [List.cons_append, versionEnd_cons, first, if_neg Bool.false_ne_true, others, passedBytes]
      congr 1
      omega

/-- The bytes up to the end of a segment are those that were passed before it and its own. -/
theorem byteLength_join_concat (front : List (List Char)) (segment : List Char) :
    byteLength (join (front ++ [segment])) = passedBytes front + byteLength segment := by
  induction front with
  | nil => simp [passedBytes]
  | cons first front inductionHypothesis =>
      rw [List.cons_append, join_cons_of_ne_nil first (by simp), byteLength_append, byteLength,
        inductionHypothesis, passedBytes]
      omega

theorem byteLength_eq_utf8ByteSize (text : List Char) :
    byteLength text = (String.ofList text).utf8ByteSize := by
  induction text with
  | nil => rfl
  | cons c rest inductionHypothesis =>
      rw [byteLength, inductionHypothesis, String.ofList_cons, String.utf8ByteSize_append,
        String.utf8ByteSize_singleton]

/-- The number of bytes of a start of a text is the place of a character in it, or its end. -/
theorem isValid_byteLength
    {start text : List Char}
    (starts : start <+: text) :
    String.Pos.Raw.IsValid (String.ofList text) ⟨byteLength start⟩ := by
  obtain ⟨remaining, rfl⟩ := starts
  refine String.Pos.Raw.isValid_iff_exists_append.mpr
    ⟨String.ofList start, String.ofList remaining, String.ofList_append, ?_⟩
  rw [byteLength_eq_utf8ByteSize]
  rfl

/-- The segments up to the one that the search is at. -/
theorem join_concat_isPrefix
    {path : List Char}
    (shape : segments path = front ++ segment :: rest) :
    join (front ++ [segment]) <+: path := by
  have shorter : front ++ [segment] <+: segments path := ⟨rest, by simp [shape]⟩
  have starts := join_prefix (by simp) shorter
  rwa [join_segments] at starts

/-- The end of a segment is a place between two characters of its path. -/
theorem isValid_end
    {path : String}
    (shape : segments path.toList = front ++ segment :: rest) :
    String.Pos.Raw.IsValid path ⟨passedBytes front + byteLength segment⟩ := by
  have place := isValid_byteLength (join_concat_isPrefix shape)
  rwa [byteLength_join_concat, String.ofList_toList] at place

/-- What stands before the end of a segment are the segments up to it. -/
theorem takeBytes_end
    {path : List Char}
    (shape : segments path = front ++ segment :: rest) :
    takeBytes? (passedBytes front + byteLength segment) path =
      some (join (front ++ [segment])) := by
  obtain ⟨remaining, whole⟩ := join_concat_isPrefix shape
  rw [← whole, ← byteLength_join_concat, takeBytes_append]

theorem upToVersion_of_append
    (ordinary : ∀ segment ∈ front, isVersion segment = false)
    (found : isVersion version = true) :
    upToVersion isVersion (front ++ version :: rest) = front ++ [version] := by
  have none : front.any isVersion = false := by simpa using ordinary
  rw [upToVersion_append, none, if_neg Bool.false_ne_true, upToVersion, if_pos found]

end Path

namespace VersionGrammar

/-- A path without a version is left as it is, and another one is cut at the end of its first
version. Until it stops, the search has counted the bytes up to the end of the segment that it is
at, which is a place between two characters of the path, and what stands before that place are the
segments up to there. A path that has been cut is not cut again. -/
theorem cutAtVersion_stops_at_first (grammar : VersionGrammar) (path : String) :
    let list := Path.segments path.toList
    ((∀ segment ∈ list, grammar.isVersion segment = false) -> grammar.cutAtVersion path = path) ∧
      (∀ front version rest, list = front ++ version :: rest ->
        (∀ segment ∈ front, grammar.isVersion segment = false) ->
        grammar.isVersion version = true ->
          grammar.cutAtVersion path = String.ofList (Path.join (front ++ [version])) ∧
            Path.segments (grammar.cutAtVersion path).toList = front ++ [version] ∧
            grammar.endsInVersion (grammar.cutAtVersion path) = true) ∧
      (∀ front segment rest, list = front ++ segment :: rest ->
        (∀ other ∈ front, grammar.isVersion other = false) ->
          let finish := Path.passedBytes front + Path.byteLength segment
          Path.versionEnd? grammar.isVersion 0 list =
              (if grammar.isVersion segment then some finish
              else
                Path.versionEnd? grammar.isVersion (finish + Path.separator.utf8Size) rest) ∧
            finish ≤ path.utf8ByteSize ∧
            String.Pos.Raw.IsValid path ⟨finish⟩ ∧
            Path.takeBytes? finish path.toList = some (Path.join (front ++ [segment]))) ∧
      grammar.cutAtVersion (grammar.cutAtVersion path) = grammar.cutAtVersion path := by
  intro list
  refine ⟨?_, ?_, ?_, ?_⟩
  · intro ordinary
    rw [cutAtVersion, Path.cutAtVersion_eq_self ordinary, String.ofList_toList]
  · intro front version rest shape ordinary found
    have kept : Path.upToVersion grammar.isVersion list = front ++ [version] := by
      rw [shape, Path.upToVersion_of_append ordinary found]
    have left : Path.segments (grammar.cutAtVersion path).toList = front ++ [version] := by
      rw [cutAtVersion, String.toList_ofList, Path.segments_cutAtVersion, kept]
    refine ⟨?_, left, ?_⟩
    · rw [cutAtVersion, Path.cutAtVersion_eq_join, kept]
    · rw [endsInVersion, Path.endsInVersion, Path.lastSegment_eq_getLast]
      simpa [left] using found
  · intro front segment rest shape ordinary finish
    have valid : String.Pos.Raw.IsValid path ⟨finish⟩ := Path.isValid_end shape
    refine ⟨?_, valid.le_utf8ByteSize, valid, Path.takeBytes_end shape⟩
    rw [shape, Path.versionEnd_append ordinary, Path.versionEnd_cons, Nat.zero_add]
  · rw [cutAtVersion, cutAtVersion, String.toList_ofList, Path.cutAtVersion_cutAtVersion]

example : default.cutAtVersion "é//v1/ü/v2" = "é//v1" := by cbv

end VersionGrammar
end PathVersions
