import PathVersions.Json.Schema

/-!
# The schema of configurations

What a configuration may look like, for editors and other programs.
-/

namespace PathVersions
namespace Config

/-- The schema of levels of logging. -/
def levelSchema : Json.Schema :=
  .oneOf
    "Logging level for the application.

Defaults to `warn` so that command output is not interleaved with
diagnostics unless asked for."
    [.constant "Only show errors." "error",
     .constant "Show warnings and errors (default level)." "warn",
     .constant "Show informational messages, warnings, and errors." "info",
     .constant "Show debug information such as the version grammar in use." "debug",
     .constant "Show detailed trace information (very verbose)." "trace"]

/-- The schema of the general settings. -/
def generalSchema : Json.Schema :=
  .object "General configuration settings."
    [("log_level",
      .reference "Logging level for the application." "LogLevel" (.text "warn"))]

/-- The schema of the settings for versions. -/
def versioningSchema : Json.Schema :=
  .object "Settings for recognizing version segments."
    [("pattern",
      .textOrNull
        "Regular expression a whole segment must match to count as a version.

Anchoring is implicit. When unset, `v[1-9][0-9]*[a-z0-9]*` is used.")]

/-- The schema of configurations. -/
def schema : Json.SchemaDocument where
  title := "Config"
  root :=
    .object
      "Main configuration structure for protopath.

Represents the complete configuration schema that can be loaded
from TOML files. All fields have sensible defaults."
      [("general",
        .reference "General application settings." "GeneralConfig"
          (.object [("log_level", .text "warn")])),
       ("versioning",
        .reference "Version segment recognition." "VersioningConfig" (.object []))]
  definitions :=
    [("GeneralConfig", generalSchema), ("LogLevel", levelSchema),
     ("VersioningConfig", versioningSchema)]

end Config
end PathVersions
