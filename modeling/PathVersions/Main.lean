import PathVersions.Cli.Program

/-!
# The program

Reading the arguments, the environment and the one file that a run looks at, and printing its
outcome.
-/

namespace PathVersions

/-- The variables that a run looks at. -/
def readEnvironment : IO Environment := do
  let look (name : String) : IO (Option RawText) := do
    return (← IO.getEnv name).map RawText.ofString
  return {
    configHome? := ← look "XDG_CONFIG_HOME"
    home? := ← look "HOME"
    logFilter? := ← look "RUST_LOG"
    logFormat? := ← look "PROTOPATH_LOG_FORMAT" }

/-- The fault that the system reports. -/
def faultOf (error : IO.Error) : Files.Fault :=
  match error with
  | .noFileOrDirectory _ _ _ => .notFound
  | .inappropriateType _ 20 _ => .notDirectory
  | .inappropriateType _ 21 _ => .isDirectory
  | .permissionDenied _ _ _ => .other "Permission denied (os error 13)"
  | other => .other (toString other)

/-- Look at a path. It is found if the system can follow it, so that links and closed directories
count as well. -/
def lookAt (path : RawText) : IO Files.Probe := do
  let place ← (IO.FS.realPath path.shown).toBaseIO
  let read ← (IO.FS.readBinFile path.shown).toBaseIO
  let contents : Except Files.Fault RawText :=
    match read with
    | .ok bytes => .ok ⟨bytes.toList⟩
    | .error error => .error (faultOf error)
  match place with
  | .ok place => return ⟨true, .ofString place.toString, contents⟩
  | .error _ => return ⟨false, path, contents⟩

/-- Print an event in a form. -/
def printEvent (format : Log.Format) (event : Log.Event) : IO Unit :=
  match format with
  | .compact => IO.eprintln event.compact
  | .json => IO.eprintln event.toJson.line

end PathVersions

open PathVersions

/-- Run the program. -/
def main (arguments : List String) : IO UInt32 := do
  let environment ← readEnvironment
  let arguments := arguments.map RawText.ofString
  let probe ←
    match Cli.path? arguments environment with
    | some path => lookAt path
    | none => pure ⟨false, ⟨[]⟩, .error .notFound⟩
  let outcome := Cli.run arguments environment fun _ => probe
  outcome.logged.forM (printEvent outcome.format)
  IO.print outcome.output
  match outcome.complaint? with
  | some complaint => IO.eprintln complaint
  | none => pure ()
  return outcome.status.toUInt32
