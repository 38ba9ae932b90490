import PathVersions.Command.Paths
import PathVersions.Command.Registry
import PathVersions.Command.Settings

/-!
# All commands together

The registry of the built-in commands, and the help about them.
-/

namespace PathVersions

/-- Register all built-in commands. -/
def Registry.withBuiltins (registry : Registry) (context : Context) : Registry :=
  let paths := Command.Paths.category
  let settings := Command.Settings.category
  ((((registry.register paths (Command.Paths.strip context)).register
    paths (Command.Paths.check context)).register
    paths (Command.Paths.versioned context)).register
    settings Command.Settings.schema).register
    settings (Command.Settings.show context)

/-- The built-in commands. -/
structure Service where
  registry : Registry

namespace Service

/-- The service of a context. -/
def ofContext (context : Context) : Service := ⟨Registry.empty.withBuiltins context⟩

/-- The category of the help. -/
def helpCategory : String := "help"

/-- The help on a command, or on all commands if no name is given. -/
def help (service : Service) (category : String) (arguments : List String) :
    Except Command.Fault String :=
  if category.isEmpty then .ok service.registry.helpText
  else
    match arguments with
    | name :: _ => service.registry.commandHelp category name
    | [] => .error (.invalidArguments ("Expected 'help " ++ category ++ " <command>'"))

/-- Run a command, or show help. -/
def execute (service : Service) (category name : String) (arguments : List String) :
    Command.Reply :=
  if category == helpCategory then .of (service.help name arguments)
  else service.registry.execute category name arguments

/-- The categories and the names of their commands. -/
def list (service : Service) : List (String × List String) := service.registry.list

end Service

end PathVersions
