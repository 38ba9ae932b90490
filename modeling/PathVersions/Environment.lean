import PathVersions.Files.Tree

/-!
# The environment of a run

The variables that a run looks at, and the place of the configuration file that follows from
them.
-/

namespace PathVersions

/-- The variables that a run looks at, each of which may be unset. -/
structure Environment where
  /-- The directory of configurations. -/
  configHome? : Option RawText
  /-- The home of the user. -/
  home? : Option RawText
  /-- Which events are logged. -/
  logFilter? : Option RawText
  /-- How events are logged. -/
  logFormat? : Option RawText
deriving DecidableEq, Repr

namespace Environment

/-- The environment in which no variable is set. -/
def empty : Environment := ⟨none, none, none, none⟩

/-- What is said when the place of the configuration does not follow from an environment. -/
def noHomeDetails : String :=
  "Neither XDG_CONFIG_HOME nor HOME environment variable found"

/-- A variable that is set to text. -/
def text? (value? : Option RawText) : Option String := value?.bind RawText.text?

/-- The directory of all configurations: the one that is set, or else one in the home. -/
def baseDirectory? (environment : Environment) : Option String :=
  match text? environment.configHome? with
  | some directory => some directory
  | none => (text? environment.home?).map fun home => home ++ "/.config"

/-- The directory of the configuration. -/
def configDirectory? (environment : Environment) : Option RawText :=
  environment.baseDirectory?.map fun base =>
    Files.joinPaths (.ofString base) (.ofString "protopath")

/-- The file of the configuration. -/
def configFile? (environment : Environment) : Option RawText :=
  environment.configDirectory?.map fun directory =>
    Files.joinPaths directory (.ofString "config.toml")

end Environment

end PathVersions
