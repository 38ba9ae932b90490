import PathVersions.Log.Event

/-!
# Commands

A command has a description of how it is called, and answers lists of arguments.
-/

namespace PathVersions
namespace Command

/-- Why a command gives no output. -/
inductive Fault
  | notFound (details : String)
  | invalidArguments (details : String)
  | configuration (details : String)
  | service (details : String)
deriving DecidableEq, Repr

/-- The wording of a fault. -/
def Fault.message : Fault -> String
  | .notFound details => "Command not found: " ++ details
  | .invalidArguments details => "Invalid arguments: " ++ details
  | .configuration details => "Configuration error: " ++ details
  | .service details => "Service error: " ++ details

/-- A parameter of a command. Its value is always a path. -/
structure Parameter where
  name : String
  description : String
  required : Bool
deriving DecidableEq, Repr

/-- The wording of the kind of value of every parameter. -/
def Parameter.kindName : String := "proto path"

/-- How a command is called. -/
structure Metadata where
  name : String
  description : String
  parameters : List Parameter
  examples : List String
  category : String
deriving DecidableEq, Repr

/-- What a command answers: the events on the way, and its output. -/
structure Reply where
  events : List Log.Event
  result : Except Fault String

/-- The answer of a command that only has an output. -/
def Reply.of (result : Except Fault String) : Reply := ⟨[], result⟩

end Command

/-- A command. -/
structure Command where
  metadata : Command.Metadata
  run : List String -> Command.Reply

end PathVersions
