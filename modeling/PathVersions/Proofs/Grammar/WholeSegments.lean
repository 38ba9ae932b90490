import PathVersions.Proofs.Grammar.Validity
import PathVersions.Proofs.Pattern.FirstBranch

/-!
# Versions as whole segments

The marks around a pattern are there to make it match whole segments. They do this for every
pattern that can be read by itself. A pattern that closes the group between the marks moves them
into alternatives of its own: then the first alternative only has to start where the segment
starts, and others only have to end where it ends, or not even that.
-/

namespace PathVersions
namespace VersionGrammar

open Pattern

/-- A grammar whose versions are matched from their first to their last character. -/
def TakesWhole (grammar : VersionGrammar) : Prop :=
  ∀ segment, grammar.isVersion segment = true -> grammar.expression.MatchesAll segment

/-- An expression with a first alternative that is bound to the start of a text, in which every
segment that this alternative matches a start of, or that another alternative matches a part of,
is matched as a whole by one of the alternatives. -/
def Covered (expression : Expr) : Prop :=
  ∃ first others,
    expression.alternatives = .seq (.look .textStart) first :: others ∧
      ∀ segment, segment ≠ [] ->
        ((∃ finish, first.Matches segment 0 finish) ∨
          ∃ other ∈ others, other.MatchesSome segment) ->
        ∃ alternative ∈ expression.alternatives, alternative.MatchesAll segment

theorem isVersion_iff (grammar : VersionGrammar) (segment : List Char) :
    grammar.isVersion segment = true ↔
      segment ≠ [] ∧ grammar.expression.MatchesSome segment := by
  rw [isVersion, Bool.and_eq_true, Expr.foundIn_iff_matchesSome]
  simp

theorem ofPattern_eq_ok
    {pattern : String}
    {grammar : VersionGrammar} :
    ofPattern pattern = .ok grammar ↔
      grammar.pattern = pattern ∧ compile (anchored pattern.toList) = .ok grammar.expression := by
  rcases grammar with ⟨own, expression⟩
  unfold ofPattern
  cases compile (anchored pattern.toList) with
  | error fault => simp
  | ok found => simp [eq_comm]

/-- A grammar whose pattern does not join the marks to groups of its own is that of an expression
between the marks. -/
theorem exists_sealed_of_ofPattern
    {pattern : String}
    {grammar : VersionGrammar}
    (made : ofPattern pattern = .ok grammar)
    (alone : ¬Rejoins pattern) :
    ∃ inner : Expr, grammar.expression = inner.sealed := by
  have found := (ofPattern_eq_ok.mp made).2
  obtain ⟨tree, read, _⟩ := compile_eq_ok.mp found
  cases ran : Progress.start.run pattern.toList with
  | error fault => exact absurd (rejoins_of_accepted ran ⟨grammar, made⟩) alone
  | ok progress =>
      by_cases bottom : progress.outer = []
      · obtain reaches | fades := Progress.reaches_or_fades ran
        · obtain ⟨_, inner, _, _, same, _⟩ :=
            (compile_anchored_of_reaches reaches bottom grammar.expression).mp found
          exact ⟨inner, same⟩
        · simp [read_anchored_of_fades fades] at read
      · exact absurd read (read_anchored_of_unclosed ran bottom tree)

/-- The first branch of a pattern between the marks starts with the mark of the start. -/
theorem exists_expression_of_branch
    {item : Tree}
    {more : List Tree}
    {expression : Expr}
    {modes : Modes}
    (found : Tree.expression Modes.start
      (.concatenation (.anchor .lineStart :: item :: more)) = .ok (expression, modes)) :
    ∃ first, expression = .seq (.look .textStart) first := by
  rw [Tree.expression] at found
  obtain ⟨⟨parts, _⟩, listed, found⟩ := bind_eq_ok.mp found
  simp only [pure_eq_ok, Prod.mk.injEq] at found
  rw [Tree.expressions] at listed
  obtain ⟨⟨mark, after⟩, marked, listed⟩ := bind_eq_ok.mp listed
  obtain ⟨⟨rest, _⟩, remaining, listed⟩ := bind_eq_ok.mp listed
  simp only [pure_eq_ok, Prod.mk.injEq] at listed
  rw [Tree.expression, Except.ok.injEq, Prod.mk.injEq] at marked
  rw [Tree.expressions] at remaining
  obtain ⟨⟨second, _⟩, _, remaining⟩ := bind_eq_ok.mp remaining
  obtain ⟨⟨others, _⟩, _, remaining⟩ := bind_eq_ok.mp remaining
  simp only [pure_eq_ok, Prod.mk.injEq] at remaining
  refine ⟨.ofSequence (second :: others), ?_⟩
  rw [← found.1, ← listed.1, ← remaining.1, ← marked.1]
  rfl

/-- The alternatives of branches of which the first one starts with the mark of the start. -/
theorem exists_alternatives_of_branches
    {item : Tree}
    {more others : List Tree}
    {expression : Expr}
    {modes : Modes}
    (found : Tree.expression Modes.start
      (Tree.ofBranches (.concatenation (.anchor .lineStart :: item :: more) :: others)) =
        .ok (expression, modes)) :
    ∃ first rest, expression.alternatives = .seq (.look .textStart) first :: rest := by
  cases others with
  | nil =>
      obtain ⟨first, rfl⟩ := exists_expression_of_branch found
      exact ⟨first, [], rfl⟩
  | cons branch others =>
      rw [Tree.ofBranches.eq_def] at found
      dsimp only at found
      rw [Tree.expression] at found
      obtain ⟨⟨parts, _⟩, listed, found⟩ := bind_eq_ok.mp found
      simp only [pure_eq_ok, Prod.mk.injEq] at found
      rw [Tree.expressions] at listed
      obtain ⟨⟨own, after⟩, marked, listed⟩ := bind_eq_ok.mp listed
      obtain ⟨⟨rest, _⟩, _, listed⟩ := bind_eq_ok.mp listed
      simp only [pure_eq_ok, Prod.mk.injEq] at listed
      obtain ⟨first, rfl⟩ := exists_expression_of_branch marked
      refine ⟨first, (Expr.ofAlternatives rest).alternatives, ?_⟩
      rw [← found.1, ← listed.1]
      rfl

theorem exists_alternatives_of_rejoins
    {pattern : String}
    {grammar : VersionGrammar}
    (made : ofPattern pattern = .ok grammar)
    (rejoins : Rejoins pattern) :
    ∃ first others,
      grammar.expression.alternatives = .seq (.look .textStart) first :: others := by
  have compiled := (ofPattern_eq_ok.mp made).2
  obtain ⟨before, after, progress, _, shape, reaches, bottom, _⟩ := rejoins
  rw [shape, compile_anchored_of_closing reaches bottom] at compiled
  obtain ⟨tree, read, compiled⟩ := bind_eq_ok.mp compiled
  obtain ⟨last, ran, finished, rfl, _⟩ := Progress.read_eq_ok.mp read
  have starts : (afterGroup progress).bottom.StartsWith (.anchor .lineStart) :=
    .inl ⟨rfl, _, [], rfl⟩
  have remains := Progress.run_startsWith starts ran
  rw [Progress.bottom, finished, Progress.bottomOf] at remains
  obtain ⟨item, more, others, same⟩ := remains.exists_tree
  obtain ⟨⟨modes, found⟩, _⟩ := expressionOf_eq_ok.mp compiled
  rw [same] at found
  exact exists_alternatives_of_branches found

theorem takesWhole_of_not_rejoins
    {pattern : String}
    {grammar : VersionGrammar}
    (made : ofPattern pattern = .ok grammar)
    (alone : ¬Rejoins pattern) :
    TakesWhole grammar := by
  obtain ⟨inner, same⟩ := exists_sealed_of_ofPattern made alone
  intro segment version
  have found := ((isVersion_iff grammar segment).mp version).2
  rw [same] at found ⊢
  exact (inner.matchesAll_sealed_iff segment).mpr ((inner.matchesSome_sealed_iff segment).mp found)

/-- With a first alternative that is bound to the start, covering is what it takes to match whole
segments. -/
theorem takesWhole_iff_covered
    {grammar : VersionGrammar}
    {first : Expr}
    {others : List Expr}
    (shape : grammar.expression.alternatives = .seq (.look .textStart) first :: others) :
    TakesWhole grammar ↔ Covered grammar.expression := by
  have whole (segment : List Char) :=
    grammar.expression.matchesAll_iff_exists_alternative segment
  have part (segment : List Char) :
      grammar.expression.MatchesSome segment ↔
        (∃ finish, first.Matches segment 0 finish) ∨
          ∃ other ∈ others, other.MatchesSome segment := by
    rw [Expr.matchesSome_iff_exists_alternative, shape]
    simp only [List.mem_cons, exists_eq_or_imp, Expr.matchesSome_textStart_seq_iff]
  unfold TakesWhole Covered
  simp only [isVersion_iff, whole, part, and_imp]
  constructor
  · intro takes
    exact ⟨first, others, shape, takes⟩
  · rintro ⟨own, rest, same, covers⟩
    rw [shape, List.cons.injEq, Expr.seq.injEq] at same
    rw [same.1.2, same.2]
    exact covers

/-- A grammar takes whole segments exactly if its pattern does not join the marks to groups of its
own, or if its alternatives cover all that they find. So it does for every valid pattern. -/
theorem takesWhole_iff
    {pattern : String}
    {grammar : VersionGrammar}
    (made : ofPattern pattern = .ok grammar) :
    (TakesWhole grammar ↔ ¬Rejoins pattern ∨ Covered grammar.expression) ∧
      (Valid pattern -> TakesWhole grammar) := by
  refine ⟨?_, ?_⟩
  · by_cases rejoins : Rejoins pattern
    · obtain ⟨first, others, shape⟩ := exists_alternatives_of_rejoins made rejoins
      rw [takesWhole_iff_covered shape]
      simp [rejoins]
    · simp [rejoins, takesWhole_of_not_rejoins made rejoins]
  · rintro ⟨expression, valid⟩
    refine takesWhole_of_not_rejoins made fun rejoins => ?_
    simp [compile_of_rejoins rejoins] at valid

/-- A valid pattern, and so one that takes whole segments. -/
theorem takesWhole_iff_at_major_version :
    ∃ grammar,
      ofPattern "v[0-9]+" = .ok grammar ∧ Valid "v[0-9]+" ∧ TakesWhole grammar ∧
        (TakesWhole grammar ↔ ¬Rejoins "v[0-9]+" ∨ Covered grammar.expression) := by
  have accepted : ∃ grammar, ofPattern "v[0-9]+" = .ok grammar := ⟨_, by cbv⟩
  have valid : ∃ expression, compile "v[0-9]+".toList = .ok expression := ⟨_, by cbv⟩
  obtain ⟨grammar, made⟩ := accepted
  obtain ⟨exactly, whole⟩ := takesWhole_iff made
  exact ⟨grammar, made, valid, whole valid, exactly⟩

/-- The first alternative of a pattern that joins the marks to groups of its own is found in a
longer segment than it matches. -/
theorem not_matchesAll_of_crossing_groups :
    ∃ grammar,
      ofPattern "a)|(b" = .ok grammar ∧ grammar.isVersion ['a', 'x'] = true ∧
        ¬grammar.expression.MatchesAll ['a', 'x'] := by
  refine ⟨⟨"a)|(b",
      .alt (.seq (.look .textStart) (.chars (.single 'a')))
        (.alt (.seq (.capture (.chars (.single 'b'))) (.look .textEnd)) (.chars .none))⟩,
    by cbv, by cbv, ?_⟩
  simp [Expr.MatchesAll, Expr.Matches]

end VersionGrammar
end PathVersions
