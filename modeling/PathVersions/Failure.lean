import PathVersions.VersionGrammar

/-!
# Failures

What can go wrong when a grammar is built or a configuration is loaded. Operations on paths
never fail.
-/

namespace PathVersions

/-- A failure and what it is about. -/
inductive Failure
  /-- A pattern is refused. -/
  | invalidPattern (pattern details : String)
  /-- A setting of a configuration cannot be used. -/
  | invalidSetting (setting details : String)
  /-- A file cannot be read. -/
  | unreadable (path details : String)
  /-- A document describes no configuration. -/
  | malformed (location details : String)
deriving DecidableEq, Repr

namespace Failure

/-- The wording of a failure. -/
def message : Failure -> String
  | .invalidPattern pattern details =>
      "invalid version pattern '" ++ pattern ++ "': " ++ details
  | .invalidSetting setting details =>
      "configuration validation failed for '" ++ setting ++ "': " ++ details
  | .unreadable path details => "I/O error on '" ++ path ++ "': " ++ details
  | .malformed location details =>
      "failed to parse TOML at '" ++ location ++ "': " ++ details

/-- The failure of a refused pattern. -/
def ofBadPattern (bad : BadPattern) : Failure :=
  .invalidPattern bad.pattern bad.fault.reason

/-- The failure of a refused pattern in a configuration. -/
def ofBadSetting (bad : BadPattern) : Failure :=
  .invalidSetting "versioning.pattern" (ofBadPattern bad).message

end Failure

end PathVersions
