import PathVersions.Proofs.Pattern.Enclosure
import PathVersions.Proofs.Pattern.MarkedSize
import PathVersions.VersionGrammar

/-!
# Patterns between their marks

A version grammar reads its pattern in a group between the marks of the start and of the end of a
text. If the pattern can be read by itself, and does not end in a comment, the group holds just
this pattern. If it cannot, the marks can only be read around it where it closes the group early
and leaves another one open.
-/

namespace PathVersions
namespace VersionGrammar

open Pattern

/-- The group that the mark of the start and an opening parenthesis leave open. -/
def marks : GroupKind × Level := (.plain .none, ⟨[], [.anchor .lineStart], false⟩)

/-- The state in which a group between the marks has been closed. -/
def afterGroup (progress : Progress) : Progress where
  level := ⟨[], [.group (.plain .none) progress.level.tree, .anchor .lineStart], false⟩
  outer := []
  names := progress.names

/-- A tree between the marks. -/
def marked (tree : Tree) : Tree :=
  .concatenation [.anchor .lineStart, .group (.plain .none) tree, .anchor .lineEnd]

/-! ## Reading -/

theorem run_anchored (pattern : List Char) :
    Progress.start.run (anchored pattern) =
      (Progress.start.enclosed [marks]).run (pattern ++ [')', '$']) := by
  have caret : skip Progress.start.level.ignoring (anchored pattern) =
      '^' :: '(' :: '?' :: ':' :: (pattern ++ [')', '$']) := rfl
  rw [Progress.run_of_cons caret]
  change (Progress.start.push (.anchor .lineStart)).run ('(' :: _) = _
  have parenthesis : skip (Progress.start.push (.anchor .lineStart)).level.ignoring
      ('(' :: '?' :: ':' :: (pattern ++ [')', '$'])) =
        '(' :: '?' :: ':' :: (pattern ++ [')', '$']) := rfl
  rw [Progress.run_of_cons parenthesis]
  rfl

theorem run_closing_parenthesis
    {progress : Progress}
    (bottom : progress.outer = [])
    (tail : List Char) :
    (progress.enclosed [marks]).run (')' :: tail) = (afterGroup progress).run tail := by
  rw [Progress.run_of_cons (skip_mark _ tail)]
  rcases progress with ⟨level, outer, names⟩
  subst bottom
  rfl

/-- What a pattern between the marks is read as, if a first part of it can be read alone and is
followed by a parenthesis that closes the group. -/
theorem run_anchored_of_reaches
    {before after : List Char}
    {progress : Progress}
    (reaches : Progress.start.Reaches before progress)
    (bottom : progress.outer = []) :
    Progress.start.run (anchored (before ++ ')' :: after)) =
      (afterGroup progress).run (after ++ [')', '$']) := by
  rw [run_anchored, List.append_assoc, List.cons_append, reaches.next,
    run_closing_parenthesis bottom]

theorem read_anchored_of_reaches
    {pattern : List Char}
    {progress : Progress}
    (reaches : Progress.start.Reaches pattern progress)
    (bottom : progress.outer = [])
    (tree : Tree) :
    Tree.read (anchored pattern) = .ok tree ↔
      tree = marked progress.level.tree ∧ tree.depth ≤ nestingLimit := by
  have ran : Progress.start.run (anchored pattern) =
      .ok ((afterGroup progress).push (.anchor .lineEnd)) := by
    have dollar : skip (afterGroup progress).level.ignoring ['$'] = ['$'] := rfl
    rw [run_anchored, reaches.next, run_closing_parenthesis bottom, Progress.run_of_cons dollar]
    exact Progress.run_of_nil (skip_nil _)
  rw [Tree.read, Progress.read_eq_ok, ran]
  constructor
  · rintro ⟨last, same, _, rfl, shallow⟩
    cases same
    exact ⟨rfl, shallow⟩
  · rintro ⟨rfl, shallow⟩
    exact ⟨_, rfl, rfl, rfl, shallow⟩

/-- A pattern that ends in a comment hides the closing parenthesis. -/
theorem read_anchored_of_fades
    {pattern : List Char}
    {progress : Progress}
    (fades : Progress.start.Fades pattern progress) :
    Tree.read (anchored pattern) = .error .groupUnclosed := by
  rw [Tree.read, Progress.read, run_anchored, fades.next [marks] ['$'] (by decide)]
  change (progress.enclosed [marks]).finish >>= _ = _
  unfold Progress.finish
  rw [Progress.enclosed_outer]
  cases progress.outer <;> rfl

/-- A pattern that leaves a group open leaves one open between the marks. -/
theorem read_anchored_of_unclosed
    {pattern : List Char}
    {progress : Progress}
    (ran : Progress.start.run pattern = .ok progress)
    (unclosed : progress.outer ≠ [])
    (tree : Tree) :
    Tree.read (anchored pattern) ≠ .ok tree := by
  obtain reaches | fades := Progress.reaches_or_fades ran
  · rw [Tree.read, Ne, Progress.read_eq_ok, run_anchored, reaches.next]
    rintro ⟨last, ran, finished, _⟩
    rw [Progress.run_of_cons (skip_mark _ ['$'])] at ran
    obtain ⟨⟨next, left⟩, stepped, ran⟩ := bind_eq_ok.mp ran
    rcases shape : progress.outer with _ | ⟨⟨kind, parent⟩, outer⟩
    · exact unclosed shape
    · simp only [Progress.step, Progress.closed, Progress.enclosed_outer, shape, List.cons_append,
        bind, Except.bind, pure, Except.pure, Except.ok.injEq, Prod.mk.injEq] at stepped
      obtain ⟨rfl, rfl⟩ := stepped
      have remains := Progress.run_outer (by decide) ran
      simp [finished] at remains
  · simp [read_anchored_of_fades fades]

/-- A pattern that cannot be read alone can only be read between the marks if it closes their
group. -/
theorem exists_reaches_of_read_anchored
    {pattern : List Char}
    {fault : Fault}
    {tree : Tree}
    (refused : Progress.start.run pattern = .error fault)
    (read : Tree.read (anchored pattern) = .ok tree) :
    ∃ before after progress,
      pattern = before ++ ')' :: after ∧ Progress.start.Reaches before progress ∧
        progress.outer = [] := by
  rw [Tree.read, Progress.read_eq_ok, run_anchored] at read
  obtain ⟨last, ran, finished, _⟩ := read
  exact Progress.exists_reaches_of_error refused (by decide) ran finished

/-! ## Meaning -/

theorem depth_marked (tree : Tree) : (marked tree).depth = tree.depth + 2 := by
  simp [marked, Tree.depth, Tree.depths]

theorem expression_marked (tree : Tree) :
    (marked tree).expression Modes.start =
      (tree.expression Modes.start).map fun (inner, _) => (inner.sealed, Modes.start) := by
  have same : Modes.start.change (GroupKind.plain .none).change = Modes.start := rfl
  simp only [marked, Tree.expression, Tree.expressions, bind, Except.bind, same]
  cases tree.expression Modes.start <;> rfl

theorem expressionOf_eq_ok
    {tree : Tree}
    {expression : Expr} :
    expressionOf tree = .ok expression ↔
      (∃ modes, tree.expression Modes.start = .ok (expression, modes)) ∧
        expression.fits = true := by
  rw [expressionOf, bind_eq_ok]
  constructor
  · rintro ⟨⟨own, modes⟩, found, fitting⟩
    dsimp only at fitting
    split at fitting
    · rename_i fits
      simp only [pure_eq_ok] at fitting
      subst fitting
      exact ⟨⟨modes, found⟩, fits⟩
    · simp at fitting
  · rintro ⟨⟨modes, found⟩, fits⟩
    exact ⟨(expression, modes), found, by simp [fits]⟩

theorem compile_eq_ok
    {pattern : List Char}
    {expression : Expr} :
    compile pattern = .ok expression ↔
      ∃ tree, Tree.read pattern = .ok tree ∧ expressionOf tree = .ok expression := by
  rw [compile, bind_eq_ok]

/-- The expression of a pattern between the marks is that of the pattern alone between the marks,
if the pattern can be read alone and does not end in a comment. -/
theorem compile_anchored_of_reaches
    {pattern : List Char}
    {progress : Progress}
    (reaches : Progress.start.Reaches pattern progress)
    (bottom : progress.outer = [])
    (expression : Expr) :
    compile (anchored pattern) = .ok expression ↔
      progress.level.tree.depth + 2 ≤ nestingLimit ∧
        ∃ inner modes,
          progress.level.tree.expression Modes.start = .ok (inner, modes) ∧
            expression = inner.sealed ∧ inner.sealed.fits = true := by
  rw [compile_eq_ok]
  simp only [read_anchored_of_reaches reaches bottom, expressionOf_eq_ok]
  constructor
  · rintro ⟨tree, ⟨rfl, shallow⟩, ⟨modes, found⟩, fits⟩
    rw [depth_marked] at shallow
    rw [expression_marked] at found
    cases own : progress.level.tree.expression Modes.start with
    | error fault => simp [own, Except.map] at found
    | ok result =>
        simp only [own, Except.map, Except.ok.injEq, Prod.mk.injEq] at found
        exact ⟨shallow, result.1, result.2, rfl, found.1.symm, found.1 ▸ fits⟩
  · rintro ⟨shallow, inner, modes, own, rfl, fits⟩
    refine ⟨_, ⟨rfl, ?_⟩, ⟨Modes.start, ?_⟩, fits⟩
    · rw [depth_marked]
      exact shallow
    · rw [expression_marked, own]
      rfl

end VersionGrammar
end PathVersions
