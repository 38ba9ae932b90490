import PathVersions.Proofs.Cli.Outcomes
import PathVersions.Proofs.Cli.Positions
import PathVersions.Proofs.Command.Answers

/-!
# Runs of the commands on paths

A run of a command on a path, with any configuration that loads, prints what the grammar of the
configuration says about this path. Every text can be given as the path behind two dashes, and every
text that begins with no dash can be given without them. Only the configuration file must not look
like an option.
-/

namespace PathVersions
namespace Cli

/-- The commands on paths. -/
inductive PathCommand
  | strip
  | check
  | versioned
deriving DecidableEq, Repr

namespace PathCommand

/-- The name of a command on paths. -/
def name : PathCommand -> String
  | .strip => "strip"
  | .check => "check"
  | .versioned => "versioned"

/-- What a grammar says about a path. -/
def result (grammar : VersionGrammar) (path : String) : PathCommand -> String
  | .strip => grammar.stripVersions path
  | .check => if grammar.endsInVersion path then "true" else "false"
  | .versioned => grammar.cutAtVersion path

/-- The ways to write a run of a command on a path: with two dashes before the path, or without them
if the path begins with no dash. -/
inductive Spelled
    (file? : Option RawText)
    (command : PathCommand)
    (path : String) :
    List RawText -> Prop
  | separated :
      Spelled file? command path
        (fileOption file? ++
          [RawText.ofString "path", RawText.ofString command.name, separator,
            RawText.ofString path])
  | direct :
      path.toList.head? ≠ some '-' ->
      Spelled file? command path
        (fileOption file? ++
          [RawText.ofString "path", RawText.ofString command.name, RawText.ofString path])

/-- What a run of a command on a path asks for. -/
def invocation
    (file? : Option RawText)
    (command : PathCommand)
    (path : String) :
    Invocation :=
  ⟨file?, some "path", some command.name, [path]⟩

/-- A command on a path answers what the grammar says about the path. -/
theorem execute_result
    (command : PathCommand)
    (context : Context)
    (path : String) :
    ((Service.ofContext context).execute "path" command.name [path]).result =
      .ok (command.result context.grammar path) := by
  have answered := Service.answers_eq context path
  cases command with
  | strip => exact congrArg Answers.strip answered
  | check => exact congrArg Answers.check answered
  | versioned => exact congrArg Answers.versioned answered

/-- The category and the name of a command on paths do not look like options. -/
theorem plain_words (command : PathCommand) :
    ∀ word ∈ ["path", command.name], ¬LooksLikeOption (.ofString word) := by
  intro word member
  apply not_looksLikeOption_ofString
  simp only [List.mem_cons, List.not_mem_nil, or_false] at member
  obtain rfl | rfl := member
  · decide
  · cases command <;> decide

variable
  {file? : Option RawText}
  {command : PathCommand}
  {path : String}
  {arguments : List RawText}

/-- The path reaches the command as it was given. -/
theorem Spelled.read
    (spelled : Spelled file? command path arguments)
    (plain : ∀ file ∈ file?, ¬LooksLikeOption file)
    (named : ∀ file ∈ file?, file.bytes ≠ []) :
    Request.read arguments = .ok (.run (invocation file? command path)) := by
  cases spelled with
  | separated => exact read_separated plain named command.plain_words [path]
  | direct begins =>
      refine read_direct plain named (fun word member => ?_) []
      have words : word ∈ ["path", command.name] ∨ word = path := by
        simpa [or_assoc] using member
      obtain known | rfl := words
      · exact command.plain_words word known
      · exact not_looksLikeOption_ofString begins

theorem Spelled.startsWith_fileOption (spelled : Spelled file? command path arguments) :
    fileOption file? <+: arguments := by
  cases spelled with
  | separated => exact ⟨_, rfl⟩
  | direct _ => exact ⟨_, rfl⟩

end PathCommand

/-! ## Configuration files -/

theorem loadFrom_of_bytes_eq_nil
    (files : FileSystem)
    {file : RawText}
    (nameless : file.bytes = []) :
    Config.loadFrom file (files.probe file) =
      .error (.unreadable file.shown Files.Fault.notFound.details) := by
  have missing : files.resolve file = .error .notFound := by
    rw [FileSystem.resolve, nameless]
    rfl
  rw [FileSystem.probe, missing]
  rfl

/-- A configuration file that loads has a name. -/
theorem bytes_ne_nil_of_config
    {invocation : Invocation}
    {environment : Environment}
    {files : FileSystem}
    {config : Config}
    (loaded : invocation.config environment files.probe = .ok config) :
    ∀ file ∈ invocation.configFile?, file.bytes ≠ [] := by
  intro file chosen nameless
  rw [Invocation.config, Option.mem_def.mp chosen] at loaded
  dsimp only at loaded
  rw [loadFrom_of_bytes_eq_nil files nameless] at loaded
  contradiction

/-- A run whose configuration file looks like an option ends with the status of refused arguments.
-/
theorem run_of_looksLikeOption
    {file : RawText}
    (looks : LooksLikeOption file)
    (rest : List RawText)
    (environment : Environment)
    (probe : RawText -> Files.Probe) :
    (Cli.run (fileOption (some file) ++ rest) environment probe).status = 2 ∧
      (Cli.run (fileOption (some file) ++ rest) environment probe).output = "" := by
  obtain ⟨fault, refused⟩ := read_of_looksLikeOption looks rest
  rw [Cli.run, refused]
  exact ⟨rfl, rfl⟩

/-! ## Runs -/

/-- If the configuration loads, a run of a command on a path gets the path as it was given and
prints what the grammar of the configuration says about it, unless the configuration file looks like
an option: then the arguments are refused. -/
theorem run_of_spelled
    (command : PathCommand)
    (path : String)
    {file? : Option RawText}
    {environment : Environment}
    {files : FileSystem}
    {config : Config}
    (loaded : (command.invocation file? path).config environment files.probe = .ok config) :
    ∃ grammar, VersionGrammar.ofPattern config.effectivePattern = .ok grammar ∧
      ∀ arguments, PathCommand.Spelled file? command path arguments ->
        ((∀ file ∈ file?, ¬LooksLikeOption file) ->
          Request.read arguments = .ok (.run (command.invocation file? path)) ∧
            (Cli.run arguments environment files.probe).Prints (command.result grammar path)) ∧
        ((∃ file ∈ file?, LooksLikeOption file) ->
          (Cli.run arguments environment files.probe).status = 2 ∧
            (Cli.run arguments environment files.probe).output = "") := by
  obtain ⟨context, made⟩ := Invocation.exists_context loaded
  refine ⟨context.grammar, Context.ofPattern_of_ofConfig made, fun arguments spelled => ⟨?_, ?_⟩⟩
  · intro plain
    have read := spelled.read plain (bytes_ne_nil_of_config loaded)
    refine ⟨read, ?_⟩
    rw [run_of_accepted read]
    exact Invocation.run_prints loaded made (command.execute_result context path)
  · rintro ⟨file, chosen, looks⟩
    obtain ⟨rest, rfl⟩ := spelled.startsWith_fileOption
    rw [Option.mem_def.mp chosen]
    exact run_of_looksLikeOption looks rest environment files.probe

/-- A path that is written like an option, one that is blank without its version, and a
configuration file that is written like an option. -/
theorem run_of_spelled_at_release_candidates :
    let file : RawText := .ofString "settings.toml"
    let dashed : RawText := .ofString "-settings.toml"
    let settings : Files.Tree := .file (.ofString "versioning.pattern = \"rc[0-9]+\"")
    let files : FileSystem :=
      ⟨.directory [(file, settings), (dashed, settings)], .ofString "/"⟩
    let environment : Environment := Environment.empty
    let config : Config := ⟨.warn, some "rc[0-9]+"⟩
    let strip (file : RawText) (rest : List RawText) : List RawText :=
      .ofString "--config" :: file :: .ofString "path" :: .ofString "strip" :: rest
    (∀ path, (PathCommand.strip.invocation (some file) path).config environment files.probe =
        .ok config ∧
      (PathCommand.strip.invocation (some dashed) path).config environment files.probe =
        .ok config) ∧
    (¬LooksLikeOption file ∧ ∃ grammar, VersionGrammar.ofPattern "rc[0-9]+" = .ok grammar ∧
      (Cli.run (strip file [separator, .ofString "--help/rc1"]) environment files.probe).Prints
        (grammar.stripVersions "--help/rc1") ∧
      (Cli.run (strip file [.ofString "\u2003/rc1"]) environment files.probe).Prints
        (grammar.stripVersions "\u2003/rc1")) ∧
    LooksLikeOption dashed ∧
      (Cli.run (strip dashed [.ofString "a/rc1"]) environment files.probe).status = 2 := by
  intro file dashed settings files environment config strip
  have read : Config.loadFrom file (files.probe file) = .ok config := by
    decide +kernel
  have readDashed : Config.loadFrom dashed (files.probe dashed) = .ok config := by
    decide +kernel
  have loaded (path : String) :
      (PathCommand.strip.invocation (some file) path).config environment files.probe =
          .ok config ∧
        (PathCommand.strip.invocation (some dashed) path).config environment files.probe =
          .ok config :=
    ⟨read, readDashed⟩
  have plain : ¬LooksLikeOption file := not_looksLikeOption_ofString (by decide)
  have plainFile : ∀ chosen ∈ some file, ¬LooksLikeOption chosen := by
    simpa using plain
  have looks : LooksLikeOption dashed := ⟨_, _, rfl⟩
  obtain ⟨grammar, compiled, runs⟩ := run_of_spelled .strip "--help/rc1" (loaded _).1
  obtain ⟨same, recompiled, blankRuns⟩ := run_of_spelled .strip "\u2003/rc1" (loaded _).1
  cases compiled.symm.trans recompiled
  obtain ⟨_, _, dashedRuns⟩ := run_of_spelled .strip "a/rc1" (loaded _).2
  refine ⟨loaded, ⟨plain, grammar, compiled, ?_, ?_⟩, looks, ?_⟩
  · exact ((runs _ .separated).1 plainFile).2
  · exact ((blankRuns _ (.direct (by decide))).1 plainFile).2
  · exact ((dashedRuns _ (.direct (by decide))).2 ⟨dashed, rfl, looks⟩).1

/-- A configuration file that begins with a dash loads, but no run can choose it. -/
theorem not_prints_of_dashed_file :
    let file : RawText := .ofString "-x.toml"
    let files : FileSystem := ⟨.directory [(file, .file (.ofString ""))], .ofString "/"⟩
    let arguments : List RawText :=
      [.ofString "--config", file, .ofString "path", .ofString "strip", .ofString "--",
        .ofString "a/v1"]
    Config.loadFrom file (files.probe file) = .ok Config.default ∧
      (Cli.run arguments Environment.empty files.probe).status = 2 ∧
      ¬(Cli.run arguments Environment.empty files.probe).Prints
        (VersionGrammar.default.stripVersions "a/v1") := by
  intro file files arguments
  have looks : LooksLikeOption file := ⟨_, _, rfl⟩
  have loaded : Config.loadFrom file (files.probe file) = .ok Config.default := by
    decide +kernel
  have refused := (run_of_looksLikeOption looks
    [.ofString "path", .ofString "strip", .ofString "--", .ofString "a/v1"]
    Environment.empty files.probe).1
  refine ⟨loaded, refused, fun prints => ?_⟩
  have status := refused.symm.trans prints.status
  contradiction

end Cli
end PathVersions
