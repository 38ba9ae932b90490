import PathVersions.Config.LogLevel
import PathVersions.Datum
import PathVersions.Toml.Written
import PathVersions.VersionGrammar

/-!
# Configurations

A configuration sets how much is logged and which segments are versions. Both have a default.
-/

namespace PathVersions

/-- A configuration. -/
structure Config where
  /-- How much is logged. -/
  logLevel : LogLevel
  /-- The pattern of versions, if it is not the default one. -/
  pattern? : Option String
deriving DecidableEq, Repr

namespace Config

/-- The level of logging unless another one is set. -/
def defaultLogLevel : LogLevel := .warn

/-- The configuration in which nothing is set. -/
def default : Config := ⟨defaultLogLevel, none⟩

/-- The pattern that is in effect. -/
def effectivePattern (config : Config) : String :=
  config.pattern?.getD VersionGrammar.defaultPattern

/-- The grammar that a configuration describes. -/
def grammar (config : Config) : Except BadPattern VersionGrammar :=
  match config.pattern? with
  | none => .ok .default
  | some pattern => VersionGrammar.ofPattern pattern

/-- What is written of a configuration. A pattern that is not set is left out. -/
def datum (config : Config) : Datum :=
  let pattern :=
    match config.pattern? with
    | none => []
    | some pattern => [(some "pattern", .text pattern)]
  .map
    [(some "general", .map [(some "log_level", .text config.logLevel.name)]),
     (some "versioning", .map pattern)]

/-- The document that is written of a configuration. -/
def toToml (config : Config) : String :=
  let pattern :=
    match config.pattern? with
    | none => ""
    | some pattern => "pattern = " ++ String.ofList (Toml.writeText pattern.toList) ++ "\n"
  "[general]\nlog_level = \"" ++ config.logLevel.name ++ "\"\n\n[versioning]\n" ++ pattern

end Config

end PathVersions
