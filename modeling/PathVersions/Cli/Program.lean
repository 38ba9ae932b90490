import PathVersions.Cli.Arguments
import PathVersions.Command.Service
import PathVersions.Log.Filter

/-!
# Runs of the program

What a run prints, logs and returns, given its arguments, its environment and how to look at
files.
-/

namespace PathVersions
namespace Cli

/-- The outcome of a run. -/
structure Outcome where
  /-- The exit status. -/
  status : Nat
  /-- What is printed. -/
  output : String
  /-- The events that are logged, in the form in which they are written. -/
  logged : List Log.Event
  format : Log.Format
  /-- What is said about a failure. -/
  complaint? : Option String

/-- What is printed on how to call the program. -/
def usage : String :=
  "Version handling for protocol-buffer source paths

Usage: protopath [OPTIONS] [CATEGORY] [COMMAND] [ARGS]...

Arguments:
  [CATEGORY]  Command category (path, config, help)
  [COMMAND]   Command within the category
  [ARGS]...   Command arguments

Options:
  -c, --config <CONFIG>  Configuration file to use instead of the XDG default
  -h, --help             Print help
"

namespace Outcome

/-- A run that prints something and logs nothing. -/
def printed (output : String) : Outcome := ⟨0, output, [], .compact, none⟩

/-- A run whose arguments are refused. -/
def refused (fault : Fault) : Outcome := ⟨2, "", [], .compact, some fault.message⟩

/-- What is said about a failure of a run. -/
def complaint (message : String) : String := Style.error "Error" ++ ": " ++ message

/-- A run that fails before logging starts. -/
def failed (failure : Failure) : Outcome :=
  ⟨1, "", [], .compact, some (complaint failure.message)⟩

end Outcome

namespace Invocation

/-- The configuration of a run. -/
def config
    (invocation : Invocation)
    (environment : Environment)
    (probe : RawText -> Files.Probe) :
    Except Failure Config :=
  match invocation.configFile? with
  | some path => Config.loadFrom path (probe path)
  | none => Config.load environment probe

/-- Whether the configuration of a run comes from a file. -/
def readsFile
    (invocation : Invocation)
    (environment : Environment)
    (probe : RawText -> Files.Probe) :
    Bool :=
  invocation.configFile?.isSome ||
    environment.configFile?.any fun path => (probe path).found

/-- The event of a configuration that has been loaded. -/
def loadedEvent (invocation : Invocation) : Log.Event where
  target := "protopath"
  message := "Configuration loaded"
  fields :=
    [("config_file",
      .shown
        (match invocation.configFile? with
         | none => "None"
         | some path => "Some(" ++ path.quoted ++ ")"))]

/-- The event of a grammar that has been built. -/
def builtEvent (config : Config) : Log.Event where
  target := "protopath::proto_path::version"
  message := "compiled version matcher"
  fields := [("pattern", .text config.effectivePattern)]

/-- The events of building the grammar of a configuration. The default grammar is built only
once, and reading a configuration file that sets no pattern has built it already. -/
def builtEvents (config : Config) (fromFile : Bool) : List Log.Event :=
  if config.pattern?.isNone && fromFile then [] else [builtEvent config]

/-- Which events a run logs. -/
def filter (environment : Environment) (config : Config) : Log.Filter :=
  match (Environment.text? environment.logFilter?).bind Log.Filter.read? with
  | some filter => filter
  | none => Log.Filter.ofLevel config.logLevel

/-- The answer of the command that a run is for; without a command it is the overview. -/
def reply (invocation : Invocation) (context : Context) : Command.Reply :=
  (Service.ofContext context).execute
    (invocation.category?.getD Service.helpCategory)
    (invocation.command?.getD "")
    invocation.arguments

/-- The outcome of a run with some configuration. Logging starts first. It could only be refused
where it has been started before, and a run starts it once, in a process of its own; so nothing is
made of a failure. -/
def runWith
    (invocation : Invocation)
    (environment : Environment)
    (config : Config)
    (fromFile : Bool) :
    Outcome :=
  let format := Log.Format.ofSetting (Environment.text? environment.logFormat?)
  let log (events : List Log.Event) : List Log.Event :=
    (loadedEvent invocation :: events).filter (filter environment config).allows
  match Context.ofConfig config with
  | .error failure =>
      ⟨1, "", log [], format, some (Outcome.complaint failure.message)⟩
  | .ok context =>
      let reply := invocation.reply context
      let logged := log (builtEvents config fromFile ++ reply.events)
      match reply.result with
      | .error fault => ⟨1, "", logged, format, some (Outcome.complaint fault.message)⟩
      | .ok output =>
          let printed := if Unicode.allBlank output then "" else output ++ "\n"
          ⟨0, printed, logged, format, none⟩

/-- The outcome of a run. -/
def run
    (invocation : Invocation)
    (environment : Environment)
    (probe : RawText -> Files.Probe) :
    Outcome :=
  match invocation.config environment probe with
  | .error failure => .failed failure
  | .ok config =>
      invocation.runWith environment config (invocation.readsFile environment probe)

end Invocation

/-- The outcome of a run with some arguments. -/
def run
    (arguments : List RawText)
    (environment : Environment)
    (probe : RawText -> Files.Probe) :
    Outcome :=
  match Request.read arguments with
  | .error fault => .refused fault
  | .ok .help => .printed usage
  | .ok (.run invocation) => invocation.run environment probe

/-- The path at which a run looks, if it looks at one. -/
def path? (arguments : List RawText) (environment : Environment) : Option RawText :=
  match Request.read arguments with
  | .ok (.run invocation) => invocation.configFile?.or environment.configFile?
  | _ => none

end Cli
end PathVersions
