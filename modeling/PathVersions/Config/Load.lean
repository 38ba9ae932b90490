import PathVersions.Config.Decode
import PathVersions.Environment
import PathVersions.Failure

/-!
# Loading configurations

A configuration is read from a text or from a file, and its pattern is checked at once. A file
that was not asked for may be absent.
-/

namespace PathVersions
namespace Config

/-- Check that the pattern of a configuration is good. -/
def validate (config : Config) : Except Failure Unit :=
  match config.grammar with
  | .ok _ => .ok ()
  | .error bad => .error (.ofBadSetting bad)

/-- The configuration of a document that comes from somewhere. -/
def ofDocument (location document : String) : Except Failure Config := do
  match ofToml document.toList with
  | .error fault => .error (.malformed location (fault.details document.toList))
  | .ok config => do
      config.validate
      return config

/-- The configuration of a text. -/
def ofText (document : String) : Except Failure Config := ofDocument "string" document

/-- The configuration of a file that has been looked at. -/
def loadFrom (path : RawText) (probe : Files.Probe) : Except Failure Config :=
  match probe.text with
  | .error fault => .error (.unreadable path.shown fault.details)
  | .ok document => ofDocument probe.location.shown document

/-- The configuration of a file that has been looked at, or the default one if its path leads
nowhere. -/
def loadOrDefault (path : RawText) (probe : Files.Probe) : Except Failure Config :=
  if probe.found then loadFrom path probe else .ok default

/-- The failure of an environment from which the place of the configuration does not follow. -/
def noPlace : Failure := .unreadable "$XDG_CONFIG_HOME" Environment.noHomeDetails

/-- The configuration of an environment, given how to look at paths. -/
def load (environment : Environment) (probe : RawText -> Files.Probe) :
    Except Failure Config :=
  match environment.configFile? with
  | none => .error noPlace
  | some path => loadOrDefault path (probe path)

end Config
end PathVersions
