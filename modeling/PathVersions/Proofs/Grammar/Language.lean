import PathVersions.Proofs.Grammar.WholeSegments
import PathVersions.Proofs.Pattern.Bordered
import PathVersions.Proofs.Pattern.Rearranged

/-!
# The language of a version grammar

The versions of a valid pattern are the segments that the pattern matches as a whole, in any of the
ways in which it can be matched. So it does not show in them which way is tried first, nor whether
the pattern asks for the start and the end of the text itself.
-/

namespace PathVersions
namespace VersionGrammar

open Pattern

/-- The versions of a pattern that can be read by itself are what its tree matches. -/
theorem isVersion_iff_of_run
    {pattern : String}
    {grammar : VersionGrammar}
    {progress : Progress}
    (ran : Progress.start.run pattern.toList = .ok progress)
    (bottom : progress.outer = [])
    (made : ofPattern pattern = .ok grammar)
    (segment : List Char) :
    grammar.isVersion segment = true ↔
      segment ≠ [] ∧ progress.level.tree.MatchesAll segment := by
  have found := (ofPattern_eq_ok.mp made).2
  obtain reaches | fades := Progress.reaches_or_fades ran
  · obtain ⟨_, inner, modes, own, same, _⟩ :=
      (compile_anchored_of_reaches reaches bottom grammar.expression).mp found
    have meaning := (Tree.expression_meaning progress.level.tree own).2 segment 0 segment.length
    rw [isVersion_iff, same, Expr.matchesSome_sealed_iff, Expr.MatchesAll, meaning,
      Tree.MatchesAll]
  · obtain ⟨tree, read, _⟩ := compile_eq_ok.mp found
    simp [read_anchored_of_fades fades] at read

theorem isVersion_iff_of_read
    {pattern : String}
    {grammar : VersionGrammar}
    {tree : Tree}
    (read : Tree.read pattern.toList = .ok tree)
    (made : ofPattern pattern = .ok grammar)
    (segment : List Char) :
    grammar.isVersion segment = true ↔ segment ≠ [] ∧ tree.MatchesAll segment := by
  obtain ⟨progress, ran, bottom, rfl, _⟩ := Progress.read_eq_ok.mp read
  exact isVersion_iff_of_run ran bottom made segment

/-! ## Marks written into the pattern -/

theorem run_lineStart (frames : List (GroupKind × Level)) (text : List Char) :
    (Progress.start.enclosed frames).run ('^' :: text) =
      ((Progress.start.push (.anchor .lineStart)).enclosed frames).run text := by
  have caret : skip (Progress.start.enclosed frames).level.ignoring ('^' :: text) = '^' :: text :=
    rfl
  rw [Progress.run_of_cons caret]
  rfl

/-- A pattern between marks of its own is read as the pattern with these marks in its first and in
its last branch, unless the second mark falls into a comment; then the pattern is refused. -/
theorem exists_run_bordered
    {pattern : List Char}
    {progress : Progress}
    {expression : Expr}
    (ran : Progress.start.run pattern = .ok progress)
    (bottom : progress.outer = [])
    (found : compile (anchored ('^' :: (pattern ++ ['$']))) = .ok expression) :
    ∃ final : Progress,
      Progress.start.run ('^' :: (pattern ++ ['$'])) = .ok (final.push (.anchor .lineEnd)) ∧
      final.outer = [] ∧ progress.level.Fronted (.anchor .lineStart) final.level := by
  obtain ⟨final, own, fronted⟩ := Progress.exists_fronted_of_run ran
  obtain next | fades := Progress.run_append_mark '$' own
  · refine ⟨final, ?_, fronted.at_bottom bottom⟩
    rw [← Progress.start.enclosed_nil, run_lineStart, next [] [], Progress.enclosed_nil,
      Progress.run_of_cons (skip_mark _ [])]
    exact Progress.run_of_nil (skip_nil _)
  · obtain ⟨tree, read, _⟩ := compile_eq_ok.mp found
    obtain ⟨last, whole, finished, _⟩ := Progress.read_eq_ok.mp read
    have hidden := fades [marks] [')', '$'] (by decide)
    have shape : '^' :: (pattern ++ ['$']) ++ [')', '$'] = '^' :: (pattern ++ ['$', ')', '$']) := by
      simp
    rw [run_anchored, shape, run_lineStart, hidden, Except.ok.injEq] at whole
    simp [← whole] at finished

/-- A pattern between marks of its own has the same versions as without them. -/
theorem isVersion_bordered
    {pattern : String}
    {grammar : VersionGrammar}
    {tree : Tree}
    (read : Tree.read pattern.toList = .ok tree)
    (made : ofPattern ("^" ++ pattern ++ "$") = .ok grammar)
    (segment : List Char) :
    grammar.isVersion segment = true ↔ segment ≠ [] ∧ tree.MatchesAll segment := by
  obtain ⟨progress, ran, bottom, rfl, _⟩ := Progress.read_eq_ok.mp read
  have shape : ("^" ++ pattern ++ "$").toList = '^' :: (pattern.toList ++ ['$']) := by
    simp [String.toList_append]
  have found := (ofPattern_eq_ok.mp made).2
  rw [shape] at found
  obtain ⟨final, whole, finished, fronted⟩ := exists_run_bordered ran bottom found
  rw [← shape] at whole
  rw [isVersion_iff_of_run whole finished made]
  exact and_congr_right fun _ => fronted.matchesAll_iff segment

/-- The versions of a valid pattern are the segments that are not empty and that it matches as a
whole. They stay the same where the pattern is rearranged, and where it asks for the start and the
end of the text itself. -/
theorem isVersion_iff_matchesAll
    {pattern : String}
    {grammar : VersionGrammar}
    (valid : Valid pattern)
    (made : ofPattern pattern = .ok grammar) :
    ∃ tree, Tree.read pattern.toList = .ok tree ∧
      (∀ segment,
        grammar.isVersion segment = true ↔ segment ≠ [] ∧ tree.MatchesAll segment) ∧
      (∀ other otherTree otherGrammar,
        Tree.read other.toList = .ok otherTree -> tree.Rearranged otherTree ->
          ofPattern other = .ok otherGrammar -> otherGrammar.isVersion = grammar.isVersion) ∧
      ∀ otherGrammar,
        ofPattern ("^" ++ pattern ++ "$") = .ok otherGrammar ->
          otherGrammar.isVersion = grammar.isVersion := by
  obtain ⟨_, compiled⟩ := valid
  obtain ⟨tree, read, _⟩ := compile_eq_ok.mp compiled
  have versions := isVersion_iff_of_read read made
  refine ⟨tree, read, versions, ?_, ?_⟩
  · intro other otherTree otherGrammar otherRead rearranged otherMade
    funext segment
    rw [Bool.eq_iff_iff, isVersion_iff_of_read otherRead otherMade, versions]
    exact and_congr_right fun _ => rearranged.alike.same segment _ _ _
  · intro otherGrammar otherMade
    funext segment
    rw [Bool.eq_iff_iff, isVersion_bordered read otherMade, versions]

/-- A shorter branch does not hide a longer version, whether it comes first or last, and whether or
not the pattern has marks of its own. -/
theorem isVersion_iff_matchesAll_at_shorter_branch :
    ∃ grammar swapped bordered tree,
      ofPattern "v|v1" = .ok grammar ∧ Valid "v|v1" ∧
        ofPattern "v1|v" = .ok swapped ∧ ofPattern "^v|v1$" = .ok bordered ∧
        swapped.isVersion = grammar.isVersion ∧ bordered.isVersion = grammar.isVersion ∧
        Tree.read "v|v1".toList = .ok tree ∧ tree.MatchesAll "v1".toList := by
  have accepted : ∃ grammar, ofPattern "v|v1" = .ok grammar := ⟨_, by cbv⟩
  have valid : ∃ expression, compile "v|v1".toList = .ok expression := ⟨_, by cbv⟩
  have swaps : ∃ grammar, ofPattern "v1|v" = .ok grammar := ⟨_, by cbv⟩
  have borders : ∃ grammar, ofPattern "^v|v1$" = .ok grammar := ⟨_, by cbv⟩
  have version : (ofPattern "v|v1").map (·.isVersion "v1".toList) = .ok true := by cbv
  obtain ⟨grammar, made⟩ := accepted
  obtain ⟨swapped, swappedMade⟩ := swaps
  obtain ⟨bordered, borderedMade⟩ := borders
  rw [made, Except.map, Except.ok.injEq] at version
  obtain ⟨tree, read, versions, rearranges, marks⟩ := isVersion_iff_matchesAll valid made
  have own : Tree.read "v|v1".toList = .ok (.alternation [.literal ⟨'v', false⟩,
      .concatenation [.literal ⟨'v', false⟩, .literal ⟨'1', false⟩]]) := by
    cbv
  have other : Tree.read "v1|v".toList = .ok (.alternation [
      .concatenation [.literal ⟨'v', false⟩, .literal ⟨'1', false⟩], .literal ⟨'v', false⟩]) := by
    cbv
  cases read.symm.trans own
  have same := rearranges "v1|v" _ swapped other
    (.single (.reorder _ _ (.swap _ _ []) (by simp [Tree.setsFlags, Tree.anySetsFlags])))
    swappedMade
  exact ⟨grammar, swapped, bordered, _, made, valid, swappedMade, borderedMade, same,
    marks bordered borderedMade, read, ((versions _).mp version).2⟩

end VersionGrammar
end PathVersions
