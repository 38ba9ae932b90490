import Mathlib
import PathVersions.Command.Service
import PathVersions.Proofs.Command.Registry
import PathVersions.Proofs.Grammar.DefaultPattern
import PathVersions.Proofs.Path.Stripping
import PathVersions.SourcePath

/-!
# Answers of the commands on paths

There are several ways to the same grammar: the default one is there from the start, a pattern can
be compiled, and the context of commands keeps the one that its configuration describes. Whichever
way it was come by, the commands on paths, the operations of the grammar and those on source paths
answer the same.
-/

namespace PathVersions

/-- What there is to say about the versions of a path: how it reads without them, whether it ends in
one, and how it reads up to the first. -/
structure Answers where
  strip : Except Command.Fault String
  check : Except Command.Fault String
  versioned : Except Command.Fault String

/-- What the commands on paths say. -/
def Service.answers (service : Service) (path : String) : Answers where
  strip := (service.execute "path" "strip" [path]).result
  check := (service.execute "path" "check" [path]).result
  versioned := (service.execute "path" "versioned" [path]).result

/-- What the operations of a grammar say. -/
def VersionGrammar.answers (grammar : VersionGrammar) (path : String) : Answers where
  strip := .ok (grammar.stripVersions path)
  check := .ok (if grammar.endsInVersion path then "true" else "false")
  versioned := .ok (grammar.cutAtVersion path)

/-- What the operations on a source path say. -/
def SourcePath.answers (path : SourcePath) (grammar : VersionGrammar) : Answers where
  strip := .ok (path.withoutVersion grammar).text
  check := .ok (if path.endsInVersion grammar then "true" else "false")
  versioned := .ok (path.versionedPart grammar).text

/-! ## The grammar of a configuration -/

/-- The grammar of a configuration is always that of the pattern in effect. -/
theorem Config.grammar_eq_ofPattern (config : Config) :
    config.grammar = VersionGrammar.ofPattern config.effectivePattern := by
  rw [Config.grammar, Config.effectivePattern]
  cases config.pattern? with
  | none => exact VersionGrammar.ofPattern_defaultPattern.symm
  | some pattern => rfl

theorem Context.ofPattern_of_ofConfig
    {config : Config}
    {context : Context}
    (made : Context.ofConfig config = .ok context) :
    VersionGrammar.ofPattern config.effectivePattern = .ok context.grammar := by
  rw [Context.ofConfig] at made
  rw [← Config.grammar_eq_ofPattern]
  cases described : config.grammar with
  | error bad => simp [described] at made
  | ok grammar =>
      rw [described] at made
      cases made
      rfl

theorem Context.ofConfig_of_effectivePattern_eq
    {config : Config}
    (default : config.effectivePattern = VersionGrammar.defaultPattern) :
    Context.ofConfig config = .ok ⟨config, .default⟩ := by
  rw [Context.ofConfig, Config.grammar_eq_ofPattern, default,
    VersionGrammar.ofPattern_defaultPattern]

/-! ## The answers of a grammar -/

theorem VersionGrammar.check_answers_iff (grammar : VersionGrammar) (path : String) :
    (grammar.answers path).check = .ok "true" ↔ (grammar.answers path).strip ≠ .ok path := by
  have changed := Path.stripVersions_ne_self_iff grammar.isVersion_nil path.toList
  have kept : grammar.stripVersions path = path ↔
      Path.stripVersions grammar.isVersion path.toList = path.toList := by
    rw [VersionGrammar.stripVersions, ← String.toList_inj, String.toList_ofList]
  simp only [answers, ne_eq, Except.ok.injEq, kept]
  rw [← Ne, changed, ← VersionGrammar.endsInVersion]
  cases grammar.endsInVersion path <;> simp

/-! ## The commands -/

namespace Service

open Command

theorem find?_withBuiltins
    {context : Context}
    {command : Command}
    (builtin : command ∈ [Paths.strip context, Paths.check context, Paths.versioned context]) :
    (Registry.empty.withBuiltins context).find? Paths.category command.metadata.name =
      some command := by
  simp only [List.mem_cons, List.not_mem_nil, or_false] at builtin
  obtain rfl | rfl | rfl := builtin
  all_goals
    simp [Registry.withBuiltins, Registry.find?_register, Paths.category, Settings.category,
      Paths.strip, Paths.check, Paths.versioned, Paths.command]

/-- A command on paths is the one that is registered under its name. -/
theorem execute_ofContext
    {context : Context}
    {command : Command}
    (builtin : command ∈ [Paths.strip context, Paths.check context, Paths.versioned context])
    (arguments : List String) :
    (ofContext context).execute Paths.category command.metadata.name arguments =
      Registry.answer Paths.category command.metadata.name command arguments := by
  rw [Service.execute, if_neg (by decide)]
  exact Registry.execute_of_find? (find?_withBuiltins builtin) arguments

/-- The commands on paths answer as the grammar of their context does. -/
theorem answers_eq (context : Context) (path : String) :
    (ofContext context).answers path = context.grammar.answers path := by
  let builtins := [Paths.strip context, Paths.check context, Paths.versioned context]
  have strip : Paths.strip context ∈ builtins := by simp [builtins]
  have check : Paths.check context ∈ builtins := by simp [builtins]
  have versioned : Paths.versioned context ∈ builtins := by simp [builtins]
  rw [answers, VersionGrammar.answers, Answers.mk.injEq]
  refine ⟨?_, ?_, ?_⟩
  · exact congrArg Reply.result (execute_ofContext strip [path])
  · exact congrArg Reply.result (execute_ofContext check [path])
  · exact congrArg Reply.result (execute_ofContext versioned [path])

/-- Commands with any configuration that has a context answer as the grammar of the pattern in
effect does, and a path ends in a version exactly if it reads otherwise without it. With no pattern,
or with the default one spelled out, there is a context, and the answers are those of the default
grammar and those on source paths. -/
theorem answers_ofContext (config : Config) (path : String) :
    (∀ context, Context.ofConfig config = .ok context ->
      (∃ grammar, VersionGrammar.ofPattern config.effectivePattern = .ok grammar ∧
        (ofContext context).answers path = grammar.answers path) ∧
      (((ofContext context).answers path).check = .ok "true" ↔
        ((ofContext context).answers path).strip ≠ .ok path)) ∧
    (config.pattern? = none ∨ config.pattern? = some VersionGrammar.defaultPattern ->
      ∃ context, Context.ofConfig config = .ok context ∧
        (ofContext context).answers path = VersionGrammar.default.answers path ∧
        (ofContext context).answers path = SourcePath.answers ⟨path⟩ .default) := by
  refine ⟨fun context made => ⟨?_, ?_⟩, fun unset => ?_⟩
  · exact ⟨context.grammar, Context.ofPattern_of_ofConfig made, answers_eq context path⟩
  · rw [answers_eq, VersionGrammar.check_answers_iff]
  · have default : config.effectivePattern = VersionGrammar.defaultPattern := by
      obtain unset | spelled := unset
      · rw [Config.effectivePattern, unset, Option.getD_none]
      · rw [Config.effectivePattern, spelled, Option.getD_some]
    have answered := answers_eq ⟨config, .default⟩ path
    exact ⟨_, Context.ofConfig_of_effectivePattern_eq default, answered, answered⟩

theorem answers_ofContext_at_release_candidates :
    (∃ context, Context.ofConfig ⟨.warn, some "rc[0-9]+"⟩ = .ok context ∧
      (∃ grammar, VersionGrammar.ofPattern "rc[0-9]+" = .ok grammar ∧
        (ofContext context).answers "google/rc1" = grammar.answers "google/rc1") ∧
      (((ofContext context).answers "google/rc1").check = .ok "true" ↔
        ((ofContext context).answers "google/rc1").strip ≠ .ok "google/rc1")) ∧
    ∃ context, Context.ofConfig ⟨.warn, some VersionGrammar.defaultPattern⟩ = .ok context ∧
      (ofContext context).answers "google/rc1" = VersionGrammar.default.answers "google/rc1" ∧
      (ofContext context).answers "google/rc1" = SourcePath.answers ⟨"google/rc1"⟩ .default := by
  have made : ∃ context, Context.ofConfig ⟨.warn, some "rc[0-9]+"⟩ = .ok context := ⟨_, by cbv⟩
  obtain ⟨context, made⟩ := made
  obtain ⟨configured, _⟩ := answers_ofContext ⟨.warn, some "rc[0-9]+"⟩ "google/rc1"
  obtain ⟨_, default⟩ :=
    answers_ofContext ⟨.warn, some VersionGrammar.defaultPattern⟩ "google/rc1"
  exact ⟨⟨context, made, configured context made⟩, default (.inr rfl)⟩

end Service
end PathVersions
