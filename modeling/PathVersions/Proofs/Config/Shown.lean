import Mathlib
import PathVersions.Proofs.Config.Rendered

/-!
# Shown configurations read back

A configuration is shown as its document, followed by a comment with the pattern in effect. The
pattern stands in the comment as it is, so that a control character in it ends the comment and the
rest of the pattern is read as part of the document. What is read then is still the configuration
that was shown or nothing at all.
-/

namespace PathVersions

/-! ## Documents after a comment -/

namespace Toml

/-- Whether a text is a document in which every number has a value. -/
def WellFormed (document : String) : Prop :=
  ∃ entries, read? document.toList = some entries ∧ Node.numbersHaveValues.inEntries entries = true

/-- A comment without control characters goes on to the end. -/
theorem skipLines_comment
    {text : List Char}
    (plain : ∀ c ∈ text, isControl c = false) :
    skipLines true text = [] := by
  induction text with
  | nil => rfl
  | cons c rest inductionHypothesis =>
      have own := plain c (by simp)
      have others := inductionHypothesis fun other member => plain other (by simp [member])
      rw [skipLines]
      · simp [own, others]
      · rintro rfl
        exact absurd own (by decide)
      · rintro _ rfl
        exact absurd own (by decide)

/-- Such a comment has no statements. -/
theorem readStatements_comment
    {text : List Char}
    (plain : ∀ c ∈ text, isControl c = false) :
    readStatements? ('#' :: text) = some [] := by
  have skipped : skipLines false ('#' :: text) = [] := by
    simp [skipLines, isBlank, skipLines_comment plain]
  rw [readStatements?, skipped]

end Toml

namespace Config

open Toml

/-- A document describes a configuration with a pattern whatever statements follow. -/
theorem Described.keeps
    {config : Config}
    {pattern : String}
    {before after : Entries}
    (known : config.pattern? = some pattern)
    (described : Described config before)
    (keeps : before.Keeps after) :
    Described config after where
  general := keeps _ _ _ described.general
  versioning := by
    have said := described.versioning
    rw [known] at said ⊢
    exact keeps _ _ _ said

/-- A context is made of a configuration that passes the check, and keeps it. -/
theorem validate_of_context
    {config : Config}
    {context : Context}
    (made : Context.ofConfig config = .ok context) :
    config.validate = .ok () ∧ context.config = config := by
  unfold Context.ofConfig at made
  unfold validate
  cases known : config.grammar with
  | error bad => simp [known] at made
  | ok grammar =>
      rw [known] at made
      cases made
      exact ⟨rfl, rfl⟩

end Config

/-! ## Shown configurations -/

namespace Command.Settings

open Toml

/-- What is shown of a configuration. -/
def shown (config : Config) : String := annotated config config.toToml

/-- The comment with the pattern in effect. -/
def patternComment (config : Config) : List Char :=
  '#' :: (" effective version pattern: ".toList ++ config.effectivePattern.toList)

theorem marker_plain : ∀ c ∈ " effective version pattern: ".toList, isControl c = false := by
  simp [isControl]

theorem defaultPattern_plain :
    ∀ c ∈ VersionGrammar.defaultPattern.toList, isControl c = false := by
  simp [isControl, VersionGrammar.defaultPattern]

/-- Every form of a text ends with a mark that is visible. -/
theorem writeText_closed (text : List Char) :
    ∃ front mark, writeText text = front ++ [mark] ∧ Unicode.isBlank mark = false := by
  have quote : Unicode.isBlank '"' = false := by decide
  have apostrophe : Unicode.isBlank '\'' = false := by decide
  unfold writeText
  dsimp only
  cases TextForm.choose text with
  | quoted => exact ⟨_, _, rfl, quote⟩
  | literal => exact ⟨_, _, rfl, apostrophe⟩
  | quotedLines =>
      exact ⟨_, _, List.append_assoc _ ['"', '"'] ['"'] |>.symm, quote⟩
  | literalLines =>
      exact ⟨_, _, List.append_assoc _ ['\'', '\''] ['\''] |>.symm, apostrophe⟩

/-- A document ends with one line end behind something visible. -/
theorem toToml_closed (config : Config) :
    ∃ front c, config.toToml.toList = front ++ [c, '\n'] ∧ Unicode.isBlank c = false := by
  rw [Config.toToml_toList]
  unfold Config.patternEntry
  cases config.pattern? with
  | none =>
      refine ⟨writeHeader "general".toList ++
        (writeEntry "log_level".toList config.logLevel.name.toList ++
          '\n' :: '[' :: "versioning".toList), ']', ?_, by decide⟩
      simp [writeHeader]
  | some pattern =>
      obtain ⟨front, mark, shape, visible⟩ := writeText_closed pattern.toList
      refine ⟨writeHeader "general".toList ++
        (writeEntry "log_level".toList config.logLevel.name.toList ++
          '\n' :: (writeHeader "versioning".toList ++
            ("pattern".toList ++ [' ', '=', ' '] ++ front))), mark, ?_, visible⟩
      simp only [writeEntry, shape, List.append_assoc, List.cons_append, List.nil_append]

/-- Only the last line end of the document is dropped, and the comment puts it back. -/
theorem shown_toList (config : Config) :
    (shown config).toList = config.toToml.toList ++ patternComment config := by
  obtain ⟨front, c, shape, visible⟩ := toToml_closed config
  unfold shown annotated patternComment
  rw [String.toList_append, String.toList_append, String.toList_ofList, shape,
    Unicode.trimEnd_append_newline visible]
  simp

/-- The document of a configuration can be written, so showing it never fails. -/
theorem show_result (context : Context) (arguments : List String) :
    ((Settings.show context).run arguments).result = .ok (shown context.config) :=
  rendered_eq context.config

/-- What is shown is read as the configuration that it shows, or is malformed. -/
theorem ofToml_shown (config : Config) :
    (∀ entries, Toml.read? (shown config).toList = some entries ->
        Config.ofToml (shown config).toList =
          Config.given (Node.numbersHaveValues.inEntries entries) config) ∧
      ((∀ c ∈ config.effectivePattern.toList, isControl c = false) ->
        WellFormed (shown config)) := by
  obtain ⟨first, base, read, table, described, valued⟩ :=
    Config.exists_read_append config (patternComment config)
  rw [← shown_toList] at read
  have comment (plain : ∀ c ∈ config.effectivePattern.toList, isControl c = false) :
      readStatements? (patternComment config) = some [] := by
    apply readStatements_comment
    intro c member
    obtain marker | shown := List.mem_append.mp member
    · exact marker_plain c marker
    · exact plain c shown
  refine ⟨?_, ?_⟩
  · intro entries whole
    rw [Config.ofToml, whole]
    dsimp only
    apply Config.ofEntries_described
    cases known : config.pattern? with
    | none =>
        have default : config.effectivePattern = VersionGrammar.defaultPattern := by
          rw [Config.effectivePattern, known]
          rfl
        rw [read, comment (default ▸ defaultPattern_plain), Option.bind_some, List.append_nil,
          table] at whole
        cases whole
        exact described
    | some pattern =>
        rw [read] at whole
        obtain ⟨more, _, build⟩ := Option.bind_eq_some_iff.mp whole
        obtain ⟨before, same, keeps⟩ := ofStatements_append build
        cases table.symm.trans same
        exact described.keeps known keeps
  · intro plain
    rw [comment plain, Option.bind_some, List.append_nil, table] at read
    exact ⟨base, read, valued⟩

/-- A well-formed text that is shown reads back. -/
theorem ofText_of_wellFormed
    {config : Config}
    (valid : config.validate = .ok ())
    (wellFormed : WellFormed (shown config)) :
    Config.ofText (shown config) = .ok config := by
  obtain ⟨entries, whole, valued⟩ := wellFormed
  have read := (ofToml_shown config).1 entries whole
  rw [valued] at read
  rw [Config.ofText, Config.ofDocument, read]
  change (do config.validate; return config) = _
  rw [valid]
  rfl

/-- A text that is not well formed is refused for its syntax. -/
theorem ofText_of_not_wellFormed
    {config : Config}
    (malformed : ¬WellFormed (shown config)) :
    Config.ofText (shown config) = .error (.malformed "string" "syntax") := by
  have read : Config.ofToml (shown config).toList = .error .malformed := by
    cases whole : Toml.read? (shown config).toList with
    | none => rw [Config.ofToml, whole]
    | some entries =>
        have unvalued : Node.numbersHaveValues.inEntries entries = false := by
          by_contra valued
          exact malformed ⟨entries, whole, by simpa using valued⟩
        rw [(ofToml_shown config).1 entries whole, unvalued]
        rfl
  rw [Config.ofText, Config.ofDocument, read]
  rfl

/-- The command that shows a configuration prints a text that is read as this configuration exactly
if it is a well-formed document, and that is refused otherwise. It is well formed if the pattern
in effect has no control character but tabs. -/
theorem ofText_show
    {config : Config}
    {context : Context}
    (made : Context.ofConfig config = .ok context)
    (arguments : List String) :
    ∃ text, ((Settings.show context).run arguments).result = .ok text ∧
      (Config.ofText text = .ok config ↔ WellFormed text) ∧
      (¬WellFormed text -> Config.ofText text = .error (.malformed "string" "syntax")) ∧
      ((∀ c ∈ config.effectivePattern.toList, isControl c = false) -> WellFormed text) := by
  obtain ⟨valid, same⟩ := Config.validate_of_context made
  refine ⟨shown config, by rw [show_result, same], ⟨?_, ofText_of_wellFormed valid⟩,
    ofText_of_not_wellFormed, (ofToml_shown config).2⟩
  intro read
  by_contra malformed
  rw [ofText_of_not_wellFormed malformed] at read
  contradiction

/-- The default configuration is shown as a text that reads back. -/
theorem ofText_show_default :
    ∃ context, Context.ofConfig Config.default = .ok context ∧
      ∃ text, ((Settings.show context).run []).result = .ok text ∧
        Config.ofText text = .ok Config.default := by
  have made : Context.ofConfig Config.default = .ok ⟨Config.default, .default⟩ := rfl
  obtain ⟨text, output, same, _, plain⟩ := ofText_show made []
  exact ⟨_, made, text, output, same.mpr (plain defaultPattern_plain)⟩

/-- A pattern over two lines leaves its comment and makes the document malformed. -/
theorem not_wellFormed_show_verbose :
    ∃ context, Context.ofConfig ⟨.warn, some "(?x)v\n[0-9]+"⟩ = .ok context ∧
      ∃ text, ((Settings.show context).run []).result = .ok text ∧ ¬WellFormed text ∧
        Config.ofText text = .error (.malformed "string" "syntax") := by
  have made : ∃ context, Context.ofConfig ⟨.warn, some "(?x)v\n[0-9]+"⟩ = .ok context :=
    ⟨_, by cbv⟩
  obtain ⟨context, made⟩ := made
  have malformed : ¬WellFormed (shown ⟨.warn, some "(?x)v\n[0-9]+"⟩) := by
    have unread : readStatements? (patternComment ⟨.warn, some "(?x)v\n[0-9]+"⟩) = none := by
      cbv
    obtain ⟨first, _, read, _⟩ := Config.exists_read_append ⟨.warn, some "(?x)v\n[0-9]+"⟩
      (patternComment ⟨.warn, some "(?x)v\n[0-9]+"⟩)
    rw [← shown_toList, unread] at read
    rintro ⟨entries, whole, _⟩
    exact absurd (read.symm.trans whole) (by simp)
  have same := (Config.validate_of_context made).2
  exact ⟨context, made, shown ⟨.warn, some "(?x)v\n[0-9]+"⟩, by rw [show_result, same], malformed,
    ofText_of_not_wellFormed malformed⟩

end Command.Settings
end PathVersions
