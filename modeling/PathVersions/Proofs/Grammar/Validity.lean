import Mathlib
import PathVersions.Config.Load
import PathVersions.Proofs.Grammar.Marks

/-!
# Accepted patterns and valid patterns

A pattern is accepted if it can be read between the marks, and it is valid if it can be read by
itself. The two differ in two ways. A valid pattern that ends in a comment hides the closing
parenthesis and is refused, and a pattern that closes the group between the marks and opens
another one is accepted although it is not valid.
-/

namespace PathVersions
namespace VersionGrammar

open Pattern

/-- A pattern that makes a grammar. -/
def Accepted (pattern : String) : Prop :=
  ∃ grammar, ofPattern pattern = .ok grammar

/-- A pattern that has a meaning by itself. -/
def Valid (pattern : String) : Prop :=
  ∃ expression, compile pattern.toList = .ok expression

/-- A pattern after which the rest of the line belongs to a comment. -/
def EndsInComment (pattern : String) : Prop :=
  ∃ progress, Progress.start.Fades pattern.toList progress

/-- A pattern with a parenthesis that closes the group between the marks after a first part that
can be read alone, and with a second part that closes it again together with the marks. -/
def Rejoins (pattern : String) : Prop :=
  ∃ before after progress expression,
    pattern.toList = before ++ ')' :: after ∧
      Progress.start.Reaches before progress ∧
      progress.outer = [] ∧
      ((afterGroup progress).read (after ++ [')', '$']) >>= expressionOf) = .ok expression

/-- A pattern that is neither nested nearly as deeply nor nearly as large as is allowed. -/
def ClearOfLimits (pattern : String) : Prop :=
  ∀ progress, Progress.start.run pattern.toList = .ok progress -> progress.outer = [] ->
    (progress.level.tree.depth + 2 ≤ nestingLimit ∨ nestingLimit < progress.level.tree.depth) ∧
      ∀ expression modes,
        progress.level.tree.expression Modes.start = .ok (expression, modes) ->
          expression.shape.machineSize.ClearOfLimit

/-- A pattern is accepted exactly if it compiles inside the marks around it. -/
theorem accepted_iff_compile (pattern : String) :
    Accepted pattern ↔ ∃ expression, compile (anchored pattern.toList) = .ok expression := by
  unfold Accepted ofPattern
  cases compile (anchored pattern.toList) with
  | error fault => simp
  | ok expression => simp

/-- A pattern that is read to its end is valid if all its groups are closed and it can be compiled.
-/
theorem valid_iff_of_run
    {pattern : String}
    {progress : Progress}
    (ran : Progress.start.run pattern.toList = .ok progress) :
    Valid pattern ↔
      progress.outer = [] ∧ progress.level.tree.depth ≤ nestingLimit ∧
        ∃ expression, expressionOf progress.level.tree = .ok expression := by
  unfold Valid
  simp only [compile_eq_ok, Tree.read, Progress.read_eq_ok, ran]
  constructor
  · rintro ⟨expression, tree, ⟨last, same, bottom, rfl, shallow⟩, found⟩
    cases same
    exact ⟨bottom, shallow, expression, found⟩
  · rintro ⟨bottom, shallow, expression, found⟩
    exact ⟨expression, _, ⟨progress, rfl, bottom, rfl, shallow⟩, found⟩

/-- A pattern that can be read alone up to what follows it is accepted if and only if it is
valid. -/
theorem accepted_iff_valid_of_reaches
    {pattern : String}
    {progress : Progress}
    (reaches : Progress.start.Reaches pattern.toList progress)
    (clear : ClearOfLimits pattern) :
    Accepted pattern ↔ Valid pattern := by
  rw [accepted_iff_compile, valid_iff_of_run reaches.ran]
  by_cases bottom : progress.outer = []
  · obtain ⟨depth, size⟩ := clear progress reaches.ran bottom
    simp only [compile_anchored_of_reaches reaches bottom, expressionOf_eq_ok]
    constructor
    · rintro ⟨_, shallow, inner, modes, found, _, fits⟩
      exact ⟨bottom, by omega, inner, ⟨modes, found⟩,
        (Expr.fits_sealed_iff (size inner modes found)).mp fits⟩
    · rintro ⟨_, shallow, inner, ⟨modes, found⟩, fits⟩
      exact ⟨inner.sealed, by omega, inner, modes, found, rfl,
        (Expr.fits_sealed_iff (size inner modes found)).mpr fits⟩
  · constructor
    · rintro ⟨expression, found⟩
      obtain ⟨tree, read, _⟩ := compile_eq_ok.mp found
      exact absurd read (read_anchored_of_unclosed reaches.ran bottom tree)
    · rintro ⟨closed, _⟩
      exact absurd closed bottom

/-- A comment at the end hides the parenthesis that closes the group around a pattern. -/
theorem ofPattern_of_endsInComment
    {pattern : String}
    (ends : EndsInComment pattern) :
    ofPattern pattern = .error ⟨pattern, .groupUnclosed⟩ := by
  obtain ⟨progress, fades⟩ := ends
  rw [ofPattern, compile, read_anchored_of_fades fades]
  rfl

/-- A closing parenthesis in a pattern may close the group around it, and what follows is read
outside. -/
theorem compile_anchored_of_closing
    {before after : List Char}
    {progress : Progress}
    (reaches : Progress.start.Reaches before progress)
    (bottom : progress.outer = []) :
    compile (anchored (before ++ ')' :: after)) =
      ((afterGroup progress).read (after ++ [')', '$']) >>= expressionOf) := by
  rw [compile, Tree.read, Progress.read, Progress.read, run_anchored_of_reaches reaches bottom]

/-- A pattern that closes the group around it closes one too many by itself. -/
theorem run_of_rejoins
    {pattern : String}
    (rejoins : Rejoins pattern) :
    Progress.start.run pattern.toList = .error .groupUnopened := by
  obtain ⟨before, after, progress, _, shape, reaches, bottom, _⟩ := rejoins
  have next := reaches.next [] after
  rw [Progress.enclosed_nil, Progress.enclosed_nil] at next
  rw [shape, next, Progress.run_of_cons (skip_mark _ after), Progress.step,
    Progress.closed, bottom]
  rfl

theorem compile_of_rejoins
    {pattern : String}
    (rejoins : Rejoins pattern) :
    compile pattern.toList = .error .groupUnopened := by
  rw [compile, Tree.read, Progress.read, run_of_rejoins rejoins]
  rfl

/-- Inside the marks such a pattern is accepted, as it opens again what it has closed. -/
theorem accepted_of_rejoins
    {pattern : String}
    (rejoins : Rejoins pattern) :
    Accepted pattern := by
  obtain ⟨before, after, progress, expression, shape, reaches, bottom, found⟩ := rejoins
  rw [accepted_iff_compile, shape, compile_anchored_of_closing reaches bottom]
  exact ⟨expression, found⟩

/-- A pattern that cannot be read alone is only accepted if it closes the group between the marks
and opens another one. -/
theorem rejoins_of_accepted
    {pattern : String}
    {fault : Fault}
    (refused : Progress.start.run pattern.toList = .error fault)
    (accepted : Accepted pattern) :
    Rejoins pattern := by
  obtain ⟨expression, found⟩ := (accepted_iff_compile pattern).mp accepted
  obtain ⟨tree, read, _⟩ := compile_eq_ok.mp found
  obtain ⟨before, after, progress, shape, reaches, bottom⟩ :=
    exists_reaches_of_read_anchored refused read
  rw [shape, compile_anchored_of_closing reaches bottom] at found
  exact ⟨before, after, progress, expression, shape, reaches, bottom, found⟩

/-- Where the parenthesis is read, no comment has hidden it. -/
theorem not_endsInComment_of_reaches
    {pattern : String}
    {progress : Progress}
    (reaches : Progress.start.Reaches pattern.toList progress)
    (bottom : progress.outer = []) :
    ¬EndsInComment pattern := by
  rintro ⟨other, fades⟩
  have read := (reaches.next [] []).symm.trans (fades.next [] [] (by simp))
  rw [Progress.run_of_cons (skip_mark _ [])] at read
  simp [Progress.step, Progress.closed, bottom, bind, Except.bind] at read

/-- Which patterns are accepted, unless they are close to a limit. -/
theorem accepted_iff_of_clear
    {pattern : String}
    (clear : ClearOfLimits pattern) :
    Accepted pattern ↔ Valid pattern ∧ ¬EndsInComment pattern ∨ Rejoins pattern := by
  cases ran : Progress.start.run pattern.toList with
  | error fault =>
      have invalid : ¬Valid pattern := by
        rintro ⟨expression, found⟩
        obtain ⟨tree, read, _⟩ := compile_eq_ok.mp found
        obtain ⟨last, whole, _⟩ := Progress.read_eq_ok.mp read
        simp [ran] at whole
      simp only [invalid, false_and, false_or]
      exact ⟨rejoins_of_accepted ran, accepted_of_rejoins⟩
  | ok progress =>
      have alone : ¬Rejoins pattern := by
        intro rejoins
        simp [run_of_rejoins rejoins] at ran
      simp only [alone, or_false]
      obtain reaches | fades := Progress.reaches_or_fades ran
      · rw [accepted_iff_valid_of_reaches reaches clear]
        refine ⟨fun valid => ⟨valid, ?_⟩, And.left⟩
        exact not_endsInComment_of_reaches reaches ((valid_iff_of_run ran).mp valid).1
      · have ends : EndsInComment pattern := ⟨progress, fades⟩
        have refused : ¬Accepted pattern := by
          rintro ⟨grammar, accepted⟩
          simp [ofPattern_of_endsInComment ends] at accepted
        simp [refused, ends]

/-- A configuration passes the check exactly if its pattern is accepted. -/
theorem validate_iff_accepted (logLevel : LogLevel) (pattern : String) :
    (Config.mk logLevel (some pattern)).validate = .ok () ↔ Accepted pattern := by
  unfold Config.validate Config.grammar Accepted
  cases made : ofPattern pattern with
  | error bad => simp [made]
  | ok grammar => simp [made]

/-- Being accepted and being valid come to the same exactly if the pattern does not end in a
comment, being valid, and does not join the marks to groups of its own. In the first case it is
refused for the group that it seems to leave open, and in the second it is accepted for all that
it is not valid; in all others a configuration with the pattern is good if the pattern is. -/
theorem accepted_iff_valid_iff
    (pattern : String)
    (clear : ClearOfLimits pattern) :
    ((Accepted pattern ↔ Valid pattern) ↔
      ¬(Valid pattern ∧ EndsInComment pattern) ∧ ¬Rejoins pattern) ∧
    (EndsInComment pattern -> ofPattern pattern = .error ⟨pattern, .groupUnclosed⟩) ∧
    (Rejoins pattern ->
      Accepted pattern ∧ compile pattern.toList = .error .groupUnopened) ∧
    ∀ logLevel,
      (Config.mk logLevel none).validate = .ok () ∧
        ((Config.mk logLevel (some pattern)).validate = .ok () ↔ Accepted pattern) := by
  refine ⟨?_, ofPattern_of_endsInComment, fun rejoins => ⟨accepted_of_rejoins rejoins, ?_⟩,
    fun logLevel => ⟨rfl, validate_iff_accepted logLevel pattern⟩⟩
  · have exclusive : Rejoins pattern -> ¬Valid pattern := by
      rintro rejoins ⟨expression, found⟩
      simp [compile_of_rejoins rejoins] at found
    rw [accepted_iff_of_clear clear]
    tauto
  · exact compile_of_rejoins rejoins

/-- A valid pattern with a comment at its end is far from all limits, and refused. -/
theorem accepted_iff_valid_iff_at_comment :
    ClearOfLimits "(?x)v1 # c" ∧ Valid "(?x)v1 # c" ∧ ¬Accepted "(?x)v1 # c" ∧
      ((Accepted "(?x)v1 # c" ↔ Valid "(?x)v1 # c") ↔
        ¬(Valid "(?x)v1 # c" ∧ EndsInComment "(?x)v1 # c") ∧ ¬Rejoins "(?x)v1 # c") := by
  have ran : Progress.start.run "(?x)v1 # c".toList =
      .ok ⟨⟨[], [.literal ⟨'1', false⟩, .literal ⟨'v', false⟩, .setFlags ⟨[.ignoreSpace], []⟩],
        true⟩, [], []⟩ := by
    cbv
  have clear : ClearOfLimits "(?x)v1 # c" := by
    intro progress read _
    cases read.symm.trans ran
    refine ⟨.inl (by decide), fun expression modes found => ?_⟩
    have meaning : Tree.expression Modes.start
        (.concatenation [.setFlags ⟨[.ignoreSpace], []⟩, .literal ⟨'v', false⟩,
          .literal ⟨'1', false⟩]) =
        .ok (.seq .empty (.seq (.chars (.single 'v')) (.chars (.single '1'))), Modes.start) := by
      cbv
    cases found.symm.trans meaning
    exact .inl (by cbv)
  refine ⟨clear, ?_, ?_, (accepted_iff_valid_iff "(?x)v1 # c" clear).1⟩
  · exact ⟨_, show compile "(?x)v1 # c".toList = .ok _ by cbv⟩
  · rintro ⟨grammar, accepted⟩
    have refused : ofPattern "(?x)v1 # c" = .error ⟨"(?x)v1 # c", .groupUnclosed⟩ := by cbv
    simp [refused] at accepted

/-- A pattern that joins the marks to groups of its own is accepted, and not valid. -/
theorem accepted_not_valid_of_crossing_groups :
    Accepted "a)|(b" ∧ ¬Valid "a)|(b" := by
  refine ⟨⟨_, show ofPattern "a)|(b" = .ok _ by cbv⟩, ?_⟩
  rintro ⟨expression, valid⟩
  have refused : compile "a)|(b".toList = .error .groupUnopened := by cbv
  cases valid.symm.trans refused

end VersionGrammar
end PathVersions
