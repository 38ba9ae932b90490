import PathVersions.Command.Basic
import PathVersions.Command.Context

/-!
# Commands on paths
-/

namespace PathVersions
namespace Command
namespace Paths

/-- The category of these commands. -/
def category : String := "path"

/-- The parameter of these commands. -/
def parameter : Parameter where
  name := "proto_path"
  description := "Slash-delimited proto path (e.g., google/cloud/aiplatform/v1)"
  required := true

/-- A command on the path that is its first argument. -/
def command
    (name description : String)
    (examples : List String)
    (answer : String -> Reply) :
    Command where
  metadata :=
    { name
      description
      parameters := [parameter]
      examples
      category }
  run arguments :=
    match arguments with
    | path :: _ => answer path
    | [] =>
        .of (.error (.invalidArguments
          ("Expected <proto_path> argument for '" ++ name ++ "' command")))

/-- The event of a path that was stripped. -/
def strippedEvent (path stripped : String) : Log.Event where
  target := "protopath::cli::commands::path::strip"
  message := "Stripped version"
  fields := [("proto_path", .text path), ("stripped", .shown stripped)]

/-- The command that removes the versions at the end of a path. -/
def strip (context : Context) : Command :=
  command "strip" "Remove the trailing version segment"
    ["protopath path strip google/cloud/aiplatform/v1",
     "protopath path strip google/cloud/kms/v1beta1"]
    fun path =>
      let stripped := context.grammar.stripVersions path
      ⟨[strippedEvent path stripped], .ok stripped⟩

/-- The command that says whether a path ends in a version. -/
def check (context : Context) : Command :=
  command "check" "Print whether the path ends with a version"
    ["protopath path check google/cloud/aiplatform/v1"]
    fun path => .of (.ok (if context.grammar.endsInVersion path then "true" else "false"))

/-- The command that cuts a path after its first version. -/
def versioned (context : Context) : Command :=
  command "versioned" "Truncate the path after its first version segment"
    ["protopath path versioned google/cloud/aiplatform/v1/schema/predict"]
    fun path => .of (.ok (context.grammar.cutAtVersion path))

end Paths
end Command
end PathVersions
