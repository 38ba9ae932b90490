import PathVersions.Proofs.Path.Stripping

/-!
# The root of a path

The root of a path is what stands before its first version. Cutting a path after its first version
and stripping the versions at its end both keep the root, and a strip that comes after a cut arrives
at it, whatever steps come before, between and after them.
-/

namespace PathVersions
namespace Path

variable {isVersion : List Char -> Bool}

/-- The segments of a list up to its first version, or all of them if it has none. -/
def upToVersion (isVersion : List Char -> Bool) : List (List Char) -> List (List Char)
  | [] => []
  | segment :: rest =>
      if isVersion segment then [segment] else segment :: upToVersion isVersion rest

/-- The segments of a list before its first version. -/
def beforeVersion (isVersion : List Char -> Bool) (list : List (List Char)) : List (List Char) :=
  list.takeWhile fun segment => !isVersion segment

/-- What stands before the first version of a path. -/
def root (isVersion : List Char -> Bool) (path : List Char) : List Char :=
  join (beforeVersion isVersion (segments path))

/-! ## Lists of segments -/

/-- Cutting leaves at least one segment, the first version itself if nothing else. -/
theorem upToVersion_ne_nil
    {list : List (List Char)}
    (nonempty : list ≠ []) :
    upToVersion isVersion list ≠ [] := by
  cases list with
  | nil => exact absurd rfl nonempty
  | cons segment rest =>
      rw [upToVersion]
      split <;> simp

/-- Nothing is changed in front of the cut. -/
theorem upToVersion_isPrefix (isVersion : List Char -> Bool) (list : List (List Char)) :
    upToVersion isVersion list <+: list := by
  induction list with
  | nil => exact List.prefix_rfl
  | cons segment rest inductionHypothesis =>
      rw [upToVersion]
      split
      · exact ⟨rest, rfl⟩
      · exact List.cons_prefix_cons.mpr ⟨rfl, inductionHypothesis⟩

/-- Without a version there is nothing to cut. -/
theorem upToVersion_eq_self
    {list : List (List Char)}
    (ordinary : ∀ segment ∈ list, isVersion segment = false) :
    upToVersion isVersion list = list := by
  induction list with
  | nil => rfl
  | cons segment rest inductionHypothesis =>
      have first : isVersion segment = false := ordinary segment (by simp)
      have others := inductionHypothesis fun other member => ordinary other (by simp [member])
      simp [upToVersion, first, others]

/-- The first version is that of the first list, and that of the second one only if the first has
none. -/
theorem upToVersion_append (front rest : List (List Char)) :
    upToVersion isVersion (front ++ rest) =
      if front.any isVersion then upToVersion isVersion front
      else front ++ upToVersion isVersion rest := by
  induction front with
  | nil => simp
  | cons segment front inductionHypothesis =>
      rw [List.cons_append, upToVersion, upToVersion, inductionHypothesis, List.any_cons]
      cases isVersion segment with
      | true => rfl
      | false =>
          rw [if_neg Bool.false_ne_true, if_neg Bool.false_ne_true, Bool.false_or]
          split
          · rfl
          · rfl

/-- The first version stays the first one. -/
@[simp] theorem upToVersion_upToVersion (list : List (List Char)) :
    upToVersion isVersion (upToVersion isVersion list) = upToVersion isVersion list := by
  induction list with
  | nil => rfl
  | cons segment rest inductionHypothesis =>
      cases version : isVersion segment with
      | true => simp [upToVersion, version]
      | false => simp [upToVersion, version, inductionHypothesis]

/-- All segments before the first version are ordinary. -/
theorem beforeVersion_ordinary
    {list : List (List Char)}
    {segment : List Char}
    (member : segment ∈ beforeVersion isVersion list) :
    isVersion segment = false := by
  have kept := List.mem_takeWhile_imp member
  simpa using kept

/-- Without a version everything stands before it. -/
theorem beforeVersion_eq_self
    {list : List (List Char)}
    (ordinary : ∀ segment ∈ list, isVersion segment = false) :
    beforeVersion isVersion list = list := by
  apply List.takeWhile_eq_self_iff.mpr
  intro segment member
  simp [ordinary segment member]

/-- What stands before the first version does not depend on what stands behind it. -/
@[simp] theorem beforeVersion_upToVersion (list : List (List Char)) :
    beforeVersion isVersion (upToVersion isVersion list) = beforeVersion isVersion list := by
  unfold beforeVersion
  induction list with
  | nil => rfl
  | cons segment rest inductionHypothesis =>
      cases version : isVersion segment with
      | true => simp [upToVersion, version]
      | false => simp [upToVersion, version, inductionHypothesis]

/-- What stands before the first version does not depend on versions at the end. -/
@[simp] theorem beforeVersion_rdropWhile (list : List (List Char)) :
    beforeVersion isVersion (list.rdropWhile isVersion) = beforeVersion isVersion list := by
  induction list using List.reverseRecOn with
  | nil => rfl
  | append_singleton list segment inductionHypothesis =>
      by_cases version : isVersion segment = true
      · rw [List.rdropWhile_concat_pos _ _ _ version, inductionHypothesis]
        unfold beforeVersion
        rw [List.takeWhile_append]
        split
        · rename_i whole
          rw [(List.takeWhile_prefix _).eq_of_length whole]
          simp [version]
        · rfl
      · rw [List.rdropWhile_concat_neg _ _ _ version]

/-- Of the segments up to the first version, only that version stands at the end. -/
theorem rdropWhile_upToVersion (list : List (List Char)) :
    (upToVersion isVersion list).rdropWhile isVersion = beforeVersion isVersion list := by
  have shape : upToVersion isVersion list = beforeVersion isVersion list ∨
      ∃ version, isVersion version = true ∧
        upToVersion isVersion list = beforeVersion isVersion list ++ [version] := by
    unfold beforeVersion
    induction list with
    | nil => exact .inl rfl
    | cons segment rest inductionHypothesis =>
        cases version : isVersion segment with
        | true => exact .inr ⟨segment, version, by simp [upToVersion, version]⟩
        | false =>
            obtain same | ⟨other, found, same⟩ := inductionHypothesis
            · exact .inl (by simp [upToVersion, version, same])
            · exact .inr ⟨other, found, by simp [upToVersion, version, same]⟩
  have stays : (beforeVersion isVersion list).rdropWhile isVersion =
      beforeVersion isVersion list := by
    rw [List.rdropWhile_eq_self_iff]
    intro nonempty
    simp [beforeVersion_ordinary (List.getLast_mem nonempty)]
  obtain same | ⟨version, found, same⟩ := shape
  · rw [same, stays]
  · rw [same, List.rdropWhile_concat_pos _ _ _ found, stays]

/-! ## Cutting -/

theorem byteLength_append (left right : List Char) :
    byteLength (left ++ right) = byteLength left + byteLength right := by
  induction left with
  | nil => simp [byteLength]
  | cons c rest inductionHypothesis =>
      simp only [List.cons_append, byteLength, inductionHypothesis]
      omega

/-- As many bytes as a front has are taken for that front. -/
theorem takeBytes_append (front rest : List Char) :
    takeBytes? (byteLength front) (front ++ rest) = some front := by
  induction front with
  | nil => simp [byteLength, takeBytes?]
  | cons c front inductionHypothesis =>
      have positive : 0 < c.utf8Size := Char.utf8Size_pos c
      obtain ⟨count, length⟩ : ∃ count, byteLength (c :: front) = count + 1 := by
        refine ⟨byteLength (c :: front) - 1, ?_⟩
        rw [byteLength]
        omega
      have remaining : byteLength (c :: front) - c.utf8Size = byteLength front := by
        rw [byteLength]
        omega
      have fits : c.utf8Size ≤ byteLength (c :: front) := by
        rw [byteLength]
        omega
      rw [length] at remaining fits ⊢
      rw [List.cons_append, takeBytes?, if_pos fits, remaining, inductionHypothesis]
      · rfl
      · simp

/-- The end of the first version is where the segments up to it end. -/
theorem versionEnd_eq (start : Nat) (list : List (List Char)) :
    versionEnd? isVersion start list =
      if list.any isVersion then
        some (start + byteLength (join (upToVersion isVersion list)))
      else none := by
  induction list generalizing start with
  | nil => rfl
  | cons segment rest inductionHypothesis =>
      cases version : isVersion segment with
      | true => simp [versionEnd?, upToVersion, version]
      | false =>
          simp only [versionEnd?, upToVersion, version, inductionHypothesis, List.any_cons,
            Bool.false_or, Bool.false_eq_true, if_false]
          split
          · rename_i found
            have nonempty : rest ≠ [] := by
              rintro rfl
              simp at found
            rw [join_cons_of_ne_nil segment (upToVersion_ne_nil nonempty), byteLength_append,
              byteLength]
            congr 1
            omega
          · rfl

/-- Some of the first segments are joined to a prefix of the path. -/
theorem join_prefix
    {front list : List (List Char)}
    (nonempty : front ≠ [])
    (shorter : front <+: list) :
    join front <+: join list := by
  obtain ⟨rest, rfl⟩ := shorter
  by_cases all : rest = []
  · simp [all]
  · rw [join_append nonempty all]
    exact List.prefix_append _ _

/-- Cutting a path keeps its segments up to the first version. -/
theorem cutAtVersion_eq_join (path : List Char) :
    cutAtVersion isVersion path = join (upToVersion isVersion (segments path)) := by
  unfold cutAtVersion
  rw [versionEnd_eq, Nat.zero_add]
  by_cases found : (segments path).any isVersion = true
  · have front : join (upToVersion isVersion (segments path)) <+: path := by
      have shorter := join_prefix (upToVersion_ne_nil (segments_ne_nil path))
        (upToVersion_isPrefix isVersion (segments path))
      rwa [join_segments] at shorter
    obtain ⟨rest, whole⟩ := front
    rw [if_pos found]
    dsimp only
    nth_rewrite 2 [← whole]
    rw [takeBytes_append]
    rfl
  · have ordinary : ∀ segment ∈ segments path, isVersion segment = false := by
      simpa using found
    rw [if_neg found, upToVersion_eq_self ordinary, join_segments]

/-- A path that has been cut has the segments up to the first version. -/
theorem segments_cutAtVersion (path : List Char) :
    segments (cutAtVersion isVersion path) = upToVersion isVersion (segments path) := by
  rw [cutAtVersion_eq_join]
  apply segments_join (upToVersion_ne_nil (segments_ne_nil path))
  intro segment member
  exact separator_notMem_of_mem_segments ((upToVersion_isPrefix isVersion _).mem member)

/-- A path is cut only once. -/
theorem cutAtVersion_cutAtVersion (path : List Char) :
    cutAtVersion isVersion (cutAtVersion isVersion path) = cutAtVersion isVersion path := by
  rw [cutAtVersion_eq_join (cutAtVersion isVersion path), segments_cutAtVersion,
    upToVersion_upToVersion, ← segments_cutAtVersion, join_segments]

/-! ## The root -/

/-- A path without versions is its own root. -/
theorem root_eq_self
    {path : List Char}
    (ordinary : ∀ segment ∈ segments path, isVersion segment = false) :
    root isVersion path = path := by
  rw [root, beforeVersion_eq_self ordinary, join_segments]

/-- The root has no version, given that the empty segment is none. -/
theorem segments_root_ordinary
    (emptyOrdinary : isVersion [] = false)
    {path segment : List Char}
    (member : segment ∈ segments (root isVersion path)) :
    isVersion segment = false := by
  by_cases empty : beforeVersion isVersion (segments path) = []
  · rw [root, empty, join_nil, segments_nil, List.mem_singleton] at member
    rw [member, emptyOrdinary]
  · have clean : ∀ other ∈ beforeVersion isVersion (segments path), separator ∉ other := by
      intro other kept
      exact separator_notMem_of_mem_segments ((List.takeWhile_prefix _).mem kept)
    rw [root, segments_join empty clean] at member
    exact beforeVersion_ordinary member

/-- Cutting leaves the root. -/
theorem root_cutAtVersion (path : List Char) :
    root isVersion (cutAtVersion isVersion path) = root isVersion path := by
  rw [root, segments_cutAtVersion, beforeVersion_upToVersion, root]

/-- Stripping leaves the root, given that the empty segment is no version. -/
theorem root_stripVersions (emptyOrdinary : isVersion [] = false) (path : List Char) :
    root isVersion (stripVersions isVersion path) = root isVersion path := by
  by_cases kept : (segments path).rdropWhile isVersion = []
  · -- A path of versions only is stripped to the empty path, whose segment is no version.
    have nothing : beforeVersion isVersion (segments path) = [] := by
      rw [← beforeVersion_rdropWhile, kept]
      rfl
    rw [stripVersions_eq_join, kept, join_nil, root, root, nothing, segments_nil,
      beforeVersion_eq_self (by simp [emptyOrdinary])]
    rfl
  · rw [root, segments_stripVersions kept, beforeVersion_rdropWhile, root]

/-- Cutting and then stripping leads to the root in every case. -/
theorem stripVersions_cutAtVersion (isVersion : List Char -> Bool) (path : List Char) :
    stripVersions isVersion (cutAtVersion isVersion path) = root isVersion path := by
  rw [stripVersions_eq_join, segments_cutAtVersion, rdropWhile_upToVersion, root]

/-- A path without versions is not cut. -/
theorem cutAtVersion_eq_self
    {path : List Char}
    (ordinary : ∀ segment ∈ segments path, isVersion segment = false) :
    cutAtVersion isVersion path = path := by
  rw [cutAtVersion_eq_join, upToVersion_eq_self ordinary, join_segments]

end Path

/-! ## Steps -/

namespace VersionGrammar

/-- A step on a path: to strip the versions at its end, or to cut it after its first version. -/
inductive Step
  | strip
  | cut
deriving DecidableEq, Repr

/-- What a step makes of a path. -/
def Step.apply (grammar : VersionGrammar) : Step -> String -> String
  | .strip, path => grammar.stripVersions path
  | .cut, path => grammar.cutAtVersion path

/-- What steps one after another make of a path. -/
def run (grammar : VersionGrammar) (steps : List Step) (path : String) : String :=
  steps.foldl (fun path step => step.apply grammar path) path

/-- What stands before the first version of a path. -/
def root (grammar : VersionGrammar) (path : String) : String :=
  String.ofList (Path.root grammar.isVersion path.toList)

/-- A path with a given root that has been cut. -/
structure CutTo (grammar : VersionGrammar) (root path : String) : Prop where
  root_eq : grammar.root path = root
  cut_eq : grammar.cutAtVersion path = path

variable {grammar : VersionGrammar}

theorem run_cons (step : Step) (steps : List Step) (path : String) :
    grammar.run (step :: steps) path = grammar.run steps (step.apply grammar path) := rfl

theorem run_append (first second : List Step) (path : String) :
    grammar.run (first ++ second) path = grammar.run second (grammar.run first path) := by
  rw [run, List.foldl_append]
  rfl

/-- The root of a path has no version, since no grammar has the empty segment for one. -/
theorem root_ordinary
    {path : String}
    {segment : List Char}
    (member : segment ∈ Path.segments (grammar.root path).toList) :
    grammar.isVersion segment = false := by
  rw [root, String.toList_ofList] at member
  exact Path.segments_root_ordinary grammar.isVersion_nil member

theorem root_eq_self
    {path : String}
    (ordinary : ∀ segment ∈ Path.segments path.toList, grammar.isVersion segment = false) :
    grammar.root path = path := by
  rw [root, Path.root_eq_self ordinary, String.ofList_toList]

/-- A root is its own root. -/
theorem root_root (path : String) : grammar.root (grammar.root path) = grammar.root path := by
  apply root_eq_self
  intro segment member
  exact root_ordinary member

/-- No step changes the root. -/
theorem root_apply (step : Step) (path : String) :
    grammar.root (step.apply grammar path) = grammar.root path := by
  cases step with
  | strip =>
      rw [Step.apply, root, stripVersions, String.toList_ofList,
        Path.root_stripVersions grammar.isVersion_nil, root]
  | cut => rw [Step.apply, root, cutAtVersion, String.toList_ofList, Path.root_cutAtVersion, root]

/-- However many steps are taken, the root stays the same. -/
theorem root_run (steps : List Step) (path : String) :
    grammar.root (grammar.run steps path) = grammar.root path := by
  induction steps generalizing path with
  | nil => rfl
  | cons step steps inductionHypothesis => rw [run_cons, inductionHypothesis, root_apply]

/-- A step on a root leads nowhere. -/
theorem apply_root (step : Step) (path : String) :
    step.apply grammar (grammar.root path) = grammar.root path := by
  have ordinary : ∀ segment ∈ Path.segments (grammar.root path).toList,
      grammar.isVersion segment = false :=
    fun segment member => root_ordinary member
  cases step with
  | strip =>
      have last : Path.endsInVersion grammar.isVersion (grammar.root path).toList = false := by
        rw [Path.endsInVersion, Path.lastSegment_eq_getLast]
        exact ordinary _ (List.getLast_mem _)
      rw [Step.apply, stripVersions, Path.stripVersions_eq_self last, String.ofList_toList]
  | cut =>
      rw [Step.apply, cutAtVersion, Path.cutAtVersion_eq_self ordinary, String.ofList_toList]

/-- Steps on a root lead nowhere. -/
theorem run_root (steps : List Step) (path : String) :
    grammar.run steps (grammar.root path) = grammar.root path := by
  induction steps with
  | nil => rfl
  | cons step steps inductionHypothesis => rw [run_cons, apply_root, inductionHypothesis]

/-- A path that has been cut has its root in front of the first version. -/
theorem cutTo_cutAtVersion (path : String) :
    grammar.CutTo (grammar.root path) (grammar.cutAtVersion path) where
  root_eq := root_apply .cut path
  cut_eq := by
    rw [cutAtVersion, cutAtVersion, String.toList_ofList, Path.cutAtVersion_cutAtVersion]

/-- Stripping a path that has been cut leaves the root. -/
theorem CutTo.strip
    {root path : String}
    (cut : grammar.CutTo root path) :
    grammar.stripVersions path = root := by
  have stripped := Path.stripVersions_cutAtVersion grammar.isVersion path.toList
  rw [← cut.cut_eq, stripVersions, cutAtVersion, String.toList_ofList, stripped]
  exact cut.root_eq

/-- No step undoes a cut. -/
theorem CutTo.apply
    {root path : String}
    (cut : grammar.CutTo root path)
    (step : Step) :
    grammar.CutTo root (step.apply grammar path) := by
  cases step with
  | strip =>
      rw [Step.apply, cut.strip, ← cut.root_eq]
      exact ⟨root_root path, apply_root .cut path⟩
  | cut =>
      rw [Step.apply, cut.cut_eq]
      exact cut

theorem CutTo.run
    {root path : String}
    (cut : grammar.CutTo root path)
    (steps : List Step) :
    grammar.CutTo root (grammar.run steps path) := by
  induction steps generalizing path with
  | nil => exact cut
  | cons step steps inductionHypothesis => exact inductionHypothesis (cut.apply step)

/-- Steps among which a cut is followed, at once or later, by a strip lead to the root. The root
has no version, is the whole path if that has none, and empty if that starts with one, and no step
changes it. -/
theorem run_eq_root
    (grammar : VersionGrammar)
    (path : String)
    (before between after : List Step) :
    let list := Path.segments path.toList
    let root := String.ofList
      (Path.join (list.takeWhile fun segment => !grammar.isVersion segment))
    grammar.run (before ++ .cut :: (between ++ .strip :: after)) path = root ∧
      (∀ segment ∈ Path.segments root.toList, grammar.isVersion segment = false) ∧
      (∀ steps, grammar.run steps root = root) ∧
      ((∀ segment ∈ list, grammar.isVersion segment = false) -> root = path) ∧
      ((∃ version rest, list = version :: rest ∧ grammar.isVersion version = true) ->
        root = "") := by
  intro list own
  have same : own = grammar.root path := rfl
  rw [same]
  refine ⟨?_, fun segment member => root_ordinary member, fun steps => run_root steps path,
    root_eq_self, ?_⟩
  · have cut : grammar.CutTo (grammar.root path)
        (grammar.run between (grammar.cutAtVersion (grammar.run before path))) := by
      rw [← root_run before path]
      exact (cutTo_cutAtVersion _).run between
    rw [run_append, run_cons, run_append, run_cons, Step.apply, Step.apply, cut.strip, run_root]
  · rintro ⟨version, rest, shape, found⟩
    rw [← same]
    change String.ofList (Path.join (list.takeWhile _)) = ""
    rw [shape, List.takeWhile_cons_of_neg (by simp [found])]
    rfl

end VersionGrammar
end PathVersions
