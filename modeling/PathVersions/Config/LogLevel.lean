/-!
# Log levels
-/

namespace PathVersions

/-- How much is logged. -/
inductive LogLevel
  | error
  | warn
  | info
  | debug
  | trace
deriving DecidableEq, Repr

namespace LogLevel

/-- The name of a level. -/
def name : LogLevel -> String
  | error => "error"
  | warn => "warn"
  | info => "info"
  | debug => "debug"
  | trace => "trace"

/-- All levels, from the one that shows least. -/
def all : List LogLevel := [error, warn, info, debug, trace]

/-- The level of a name. -/
def ofName? (name : String) : Option LogLevel :=
  all.find? fun level => level.name == name

@[simp] theorem ofName?_name (level : LogLevel) : ofName? level.name = some level := by
  cases level <;> decide

end LogLevel

end PathVersions
