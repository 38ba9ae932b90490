import PathVersions.Command.Basic
import PathVersions.Command.Context
import PathVersions.Config.Schema
import PathVersions.Json.Rendered
import PathVersions.Toml.Rendered

/-!
# Commands on the configuration
-/

namespace PathVersions
namespace Command
namespace Settings

/-- The category of these commands. -/
def category : String := "config"

/-- A command without parameters, which has one answer. -/
def command
    (name description : String)
    (examples : List String)
    (answer : Except Fault String) :
    Command where
  metadata :=
    { name
      description
      parameters := []
      examples
      category }
  run _ := .of answer

/-- The schema of configurations, unless it cannot be written. -/
def renderedSchema : Except Fault String :=
  (Json.render Config.schema.value.datum).mapError fun fault => .service fault.message

/-- The command that prints the schema of configurations. -/
def schema : Command :=
  command "schema" "Print the JSON schema of config.toml" ["protopath config schema"]
    renderedSchema

/-- A document of a configuration, and the pattern in effect as a comment. -/
def annotated (config : Config) (document : String) : String :=
  String.ofList (Unicode.trimEnd document.toList) ++ "\n# effective version pattern: " ++
    config.effectivePattern

/-- A configuration with the pattern in effect, unless it cannot be written. -/
def rendered (config : Config) : Except Fault String := do
  let document ←
    (Toml.writeDocument config.datum).mapError fun fault => .configuration fault.message
  return annotated config document

/-- The command that prints the configuration. -/
def «show» (context : Context) : Command :=
  command "show" "Print the effective configuration"
    ["protopath --config ./protopath.toml config show"]
    (rendered context.config)

end Settings
end Command
end PathVersions
