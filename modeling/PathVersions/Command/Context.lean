import PathVersions.Config.Load

/-!
# The context of commands
-/

namespace PathVersions

/-- What commands know: the configuration, and the grammar that it describes. -/
structure Context where
  config : Config
  grammar : VersionGrammar
deriving DecidableEq, Repr

/-- The context of a configuration. -/
def Context.ofConfig (config : Config) : Except Failure Context :=
  match config.grammar with
  | .ok grammar => .ok ⟨config, grammar⟩
  | .error bad => .error (.ofBadSetting bad)

end PathVersions
