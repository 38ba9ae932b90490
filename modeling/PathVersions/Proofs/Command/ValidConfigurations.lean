import PathVersions.Command.Service
import PathVersions.Proofs.Command.Execution
import PathVersions.Proofs.Config.Rendered

/-!
# Commands with a configuration that was loaded

A configuration is checked when it is loaded, from wherever it comes. After that nothing is left
that could be wrong with it: there is a context for it, every configuration and its schema can be
written, and a call of a command can only fail because of the call itself, by naming an unknown
command or by a wrong number of arguments.
-/

namespace PathVersions

/-! ## Loading -/

namespace Config

/-- A configuration that was loaded, with any text, any environment, and any look of the files. -/
inductive Loaded (config : Config) : Prop
  | ofText (document : String) :
      Config.ofText document = .ok config -> Loaded config
  | fromFile (path : RawText) (probe : Files.Probe) :
      loadFrom path probe = .ok config -> Loaded config
  | fromFileOrDefault (path : RawText) (probe : Files.Probe) :
      loadOrDefault path probe = .ok config -> Loaded config
  | fromEnvironment (environment : Environment) (probe : RawText -> Files.Probe) :
      load environment probe = .ok config -> Loaded config

/-- Reading a document ends with the check. -/
theorem validate_of_ofDocument
    {location document : String}
    {config : Config}
    (loaded : ofDocument location document = .ok config) :
    config.validate = .ok () := by
  rw [ofDocument] at loaded
  cases decoded : ofToml document.toList with
  | error fault => simp [decoded] at loaded
  | ok read =>
      cases checked : read.validate with
      | error failure => simp [decoded, checked] at loaded
      | ok _ =>
          simp only [decoded, checked] at loaded
          cases loaded
          exact checked

/-- The default configuration passes the check, although it is never checked. -/
theorem validate_default : default.validate = .ok () := rfl

theorem validate_of_loadFrom
    {path : RawText}
    {probe : Files.Probe}
    {config : Config}
    (loaded : loadFrom path probe = .ok config) :
    config.validate = .ok () := by
  rw [loadFrom] at loaded
  cases text : probe.text with
  | error fault => simp [text] at loaded
  | ok document =>
      rw [text] at loaded
      exact validate_of_ofDocument loaded

/-- A file that is missing stands for the default configuration. -/
theorem validate_of_loadOrDefault
    {path : RawText}
    {probe : Files.Probe}
    {config : Config}
    (loaded : loadOrDefault path probe = .ok config) :
    config.validate = .ok () := by
  rw [loadOrDefault] at loaded
  split_ifs at loaded
  · exact validate_of_loadFrom loaded
  · cases loaded
    exact validate_default

/-- Whatever is loaded has been checked. -/
theorem Loaded.validate {config : Config} (loaded : config.Loaded) : config.validate = .ok () := by
  cases loaded with
  | ofText document loaded => exact validate_of_ofDocument loaded
  | fromFile path probe loaded => exact validate_of_loadFrom loaded
  | fromFileOrDefault path probe loaded => exact validate_of_loadOrDefault loaded
  | fromEnvironment environment probe loaded =>
      rw [load] at loaded
      cases place : environment.configFile? with
      | none => simp [place] at loaded
      | some path =>
          rw [place] at loaded
          exact validate_of_loadOrDefault loaded

end Config

/-! ## Contexts -/

namespace Context

/-- Making a context checks a configuration in the same way, with the same failures. -/
theorem ofConfig_eq_error_iff (config : Config) (failure : Failure) :
    ofConfig config = .error failure ↔ config.validate = .error failure := by
  rw [ofConfig, Config.validate]
  cases config.grammar with
  | ok grammar => simp
  | error bad => simp

/-- What passes the check has a context. -/
theorem exists_ofConfig {config : Config} (valid : config.validate = .ok ()) :
    ∃ context, ofConfig config = .ok context := by
  cases made : ofConfig config with
  | ok context => exact ⟨context, rfl⟩
  | error failure =>
      rw [ofConfig_eq_error_iff, valid] at made
      contradiction

end Context

/-! ## Calls -/

namespace Command

/-- What a call of a command may come to: an output, or a fault of the call itself. -/
inductive Foreseen : Except Fault String -> Prop
  | output (text : String) : Foreseen (.ok text)
  | unknownCommand (details : String) : Foreseen (.error (.notFound details))
  | wrongArguments (details : String) : Foreseen (.error (.invalidArguments details))

/-- A command that only comes to what is foreseen. -/
def Foreseeable (command : Command) : Prop :=
  ∀ arguments, Foreseen (command.run arguments).result

/-- A command on paths only fails without a path. -/
theorem Paths.foreseeable_command
    {name description : String}
    {examples : List String}
    {answer : String -> Reply}
    (foreseen : ∀ path, Foreseen (answer path).result) :
    (Paths.command name description examples answer).Foreseeable := by
  intro arguments
  cases arguments with
  | nil => exact .wrongArguments _
  | cons path _ => exact foreseen path

/-- A command on settings is foreseeable if its one answer is. -/
theorem Settings.foreseeable_command
    {name description : String}
    {examples : List String}
    {answer : Except Fault String}
    (foreseen : Foreseen answer) :
    (Settings.command name description examples answer).Foreseeable :=
  fun _ => foreseen

/-- The document of a configuration can always be written, whichever pattern it has. -/
theorem Settings.foreseeable_show (context : Context) : (Settings.show context).Foreseeable := by
  apply foreseeable_command
  rw [rendered_eq]
  exact .output _

/-- The schema of configurations can be written. -/
theorem Settings.foreseeable_schema : Settings.schema.Foreseeable := by
  apply foreseeable_command
  rw [renderedSchema_eq]
  exact .output _

end Command

namespace Registry

open Command

/-- A registry in which only such commands are found. -/
def Foreseeable (registry : Registry) : Prop :=
  ∀ category name command, registry.find? category name = some command -> command.Foreseeable

theorem foreseeable_empty : empty.Foreseeable := by
  intro category name command found
  contradiction

/-- One more such command, in place of another one or not. -/
theorem Foreseeable.register
    {registry : Registry}
    {command : Command}
    (foreseeable : registry.Foreseeable)
    (category : String)
    (registered : command.Foreseeable) :
    (registry.register category command).Foreseeable := by
  intro asked name other found
  rw [find?_register] at found
  split_ifs at found with same
  · cases found
    exact registered
  · exact foreseeable asked name other found

/-- All five commands that are built in are such commands. -/
theorem foreseeable_withBuiltins (context : Context) :
    (empty.withBuiltins context).Foreseeable := by
  have strip : (Paths.strip context).Foreseeable :=
    Paths.foreseeable_command fun path => .output _
  have check : (Paths.check context).Foreseeable :=
    Paths.foreseeable_command fun path => .output _
  have versioned : (Paths.versioned context).Foreseeable :=
    Paths.foreseeable_command fun path => .output _
  exact ((((foreseeable_empty.register _ strip).register _ check).register _ versioned).register
    _ Settings.foreseeable_schema).register _ (Settings.foreseeable_show context)

/-- A call fails at its lookup, at its number of arguments, or as the command does. -/
theorem Foreseeable.execute
    {registry : Registry}
    (foreseeable : registry.Foreseeable)
    (category name : String)
    (arguments : List String) :
    Foreseen (registry.execute category name arguments).result := by
  cases found : registry.find? category name with
  | none =>
      rw [execute_of_find?_eq_none found]
      split_ifs
      · exact .unknownCommand _
      · exact .unknownCommand _
  | some command =>
      by_cases taken : command.metadata.Takes arguments.length
      · rw [execute_of_takes found taken]
        exact foreseeable category name command found arguments
      · obtain ⟨bound, refused⟩ := execute_of_not_takes found taken
        rw [refused]
        exact .wrongArguments _

theorem foreseen_commandHelp (registry : Registry) (category name : String) :
    Foreseen (registry.commandHelp category name) := by
  rw [commandHelp]
  cases registry.find? category name with
  | none => exact .unknownCommand _
  | some command => exact .output _

end Registry

namespace Service

open Command

/-- Help lists what there is, or is about one command, which may be unknown. -/
theorem foreseen_help (service : Service) (category : String) (arguments : List String) :
    Foreseen (service.help category arguments) := by
  rw [Service.help.eq_def]
  split_ifs
  · exact .output _
  · cases arguments with
    | nil => exact .wrongArguments _
    | cons name _ => exact service.registry.foreseen_commandHelp category name

/-- Whatever is called, help included. Neither a configuration nor the schema ever makes a call fail,
since both can be written. -/
theorem foreseen_execute
    (context : Context)
    (category name : String)
    (arguments : List String) :
    Foreseen ((ofContext context).execute category name arguments).result := by
  rw [execute]
  split_ifs
  · exact foreseen_help _ name arguments
  · exact (Registry.foreseeable_withBuiltins context).execute category name arguments

/-- Every configuration that was loaded has a context, and whatever is called with it comes to an
output, or to a fault of the call itself. In general a configuration has no context exactly if it
does not pass the check, with the same failure. -/
theorem foreseen_of_loaded :
    (∀ config : Config, config.Loaded ->
      ∃ context, Context.ofConfig config = .ok context ∧
        ∀ category name arguments,
          Foreseen ((ofContext context).execute category name arguments).result) ∧
    ∀ (config : Config) (failure : Failure),
      Context.ofConfig config = .error failure ↔ config.validate = .error failure := by
  refine ⟨fun config loaded => ?_, Context.ofConfig_eq_error_iff⟩
  obtain ⟨context, made⟩ := Context.exists_ofConfig loaded.validate
  exact ⟨context, made, foreseen_execute context⟩

/-- A configuration with a pattern in the usual directory, and a call of a command with an argument
that it does not take. -/
theorem foreseen_of_loaded_at_configuration_directory :
    let document := "versioning.pattern = \"rc[0-9]+\""
    let directory : Files.Tree :=
      .directory [(.ofString "config.toml", .file (.ofString document))]
    let files : FileSystem := ⟨.directory [(.ofString "protopath", directory)], .ofString "/"⟩
    let environment : Environment := { Environment.empty with configHome? := some (.ofString "/") }
    let config : Config := ⟨.warn, some "rc[0-9]+"⟩
    Config.load environment files.probe = .ok config ∧
      ∃ context, Context.ofConfig config = .ok context ∧
        Foreseen ((ofContext context).execute "config" "show" ["all"]).result := by
  intro document directory files environment config
  have loaded : Config.load environment files.probe = .ok config := by
    decide +kernel
  obtain ⟨context, made, foreseen⟩ := foreseen_of_loaded.1 config (.fromEnvironment _ _ loaded)
  exact ⟨loaded, context, made, foreseen "config" "show" ["all"]⟩

end Service
end PathVersions
