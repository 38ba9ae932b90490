import PathVersions.Utf8.RawText

/-!
# Arguments of a run

The arguments of a run are options and positions: a category, a command, and the arguments of
the command. From the first argument of the command on everything is an argument of it. An
option that needs a value takes it from the same argument or from the next one.
-/

namespace PathVersions
namespace Cli

/-- What a run is asked to do. -/
structure Invocation where
  /-- The configuration file, if it is not the usual one. -/
  configFile? : Option RawText
  category? : Option String
  command? : Option String
  arguments : List String
deriving DecidableEq, Repr

/-- Why arguments are refused. -/
inductive Fault
  | unexpectedArgument (written : String)
  | unexpectedHelpValue (written : String)
  | valueMissing
  | repeated
  | notUtf8
deriving DecidableEq, Repr

/-- The wording of a refusal. -/
def Fault.message : Fault -> String
  | .unexpectedArgument written => "error: unexpected argument '" ++ written ++ "' found"
  | .unexpectedHelpValue written =>
      "error: unexpected value '" ++ written ++ "' for '--help' found; no more were expected"
  | .valueMissing =>
      "error: a value is required for '--config <CONFIG>' but none was supplied"
  | .repeated => "error: the argument '--config <CONFIG>' cannot be used multiple times"
  | .notUtf8 => "error: invalid UTF-8 was detected in one or more arguments"

/-- What arguments ask for. -/
inductive Request
  | help
  | run (invocation : Invocation)
deriving DecidableEq, Repr

/-- What has been read but not yet been taken in, since more of it may follow. -/
inductive Pending
  | nothing
  /-- The option for the configuration file, of which the value may be missing. -/
  | configFile (value? : Option RawText)
  /-- A position. -/
  | position (value : RawText)
deriving DecidableEq, Repr

/-- How far arguments have been read. -/
structure Progress where
  configFile? : Option RawText
  positions : List String
  pending : Pending
  /-- How many positions have been met, those that are pending included. -/
  met : Nat
deriving DecidableEq, Repr

namespace Progress

/-- Nothing has been read. -/
def start : Progress := ⟨none, [], .nothing, 0⟩

/-- Take in the configuration file, which may be chosen only once and has a name. -/
def chooseFile (progress : Progress) (file : RawText) : Except Fault Progress :=
  if progress.configFile?.isSome then .error .repeated
  else if file.bytes.isEmpty then .error .valueMissing
  else .ok { progress with configFile? := some file, pending := .nothing }

/-- Take in what is pending. -/
def settle (progress : Progress) : Except Fault Progress :=
  match progress.pending with
  | .nothing => .ok progress
  | .configFile none => .error .valueMissing
  | .configFile (some value) => progress.chooseFile value
  | .position value =>
      match value.text? with
      | none => .error .notUtf8
      | some text =>
          .ok { progress with positions := progress.positions ++ [text], pending := .nothing }

/-- Whether the option for the configuration file waits for its value. -/
def waiting (progress : Progress) : Bool := progress.pending == .configFile none

/-- Whether the next position is an argument of the command. -/
def atArguments (progress : Progress) : Bool := 2 ≤ progress.met

/-- Take a value: of the option that waits for one, or else of a position. -/
def takeValue (progress : Progress) (value : RawText) : Except Fault Progress :=
  if progress.waiting then .ok { progress with pending := .configFile (some value) }
  else do
    let progress ← progress.settle
    return { progress with pending := .position value, met := progress.met + 1 }

/-- Start the option for the configuration file. A value in the same argument is taken in at once;
without one the option waits. -/
def startOption (progress : Progress) (value? : Option RawText) : Except Fault Progress := do
  let progress ← progress.settle
  match value? with
  | none => return { progress with pending := .configFile none }
  | some value => progress.chooseFile value

/-- The request of arguments that have been read to their end. -/
def finish (progress : Progress) : Except Fault Request := do
  let progress ← progress.settle
  return .run
    { configFile? := progress.configFile?
      category? := progress.positions[0]?
      command? := progress.positions[1]?
      arguments := progress.positions.drop 2 }

end Progress

/-- What an argument leads to: help, or more reading. -/
inductive Step
  | help
  | more (progress : Progress)
deriving DecidableEq, Repr

/-- The byte that options start with. -/
def dash : UInt8 := 0x2d

/-- The byte between an option and its value. -/
def equals : UInt8 := 0x3d

/-- The byte of the short option for the configuration file. -/
def shortConfig : UInt8 := 0x63

/-- The byte of the short option for help. -/
def shortHelp : UInt8 := 0x68

/-- The bytes of an ASCII text. -/
def ascii (text : String) : List UInt8 := (RawText.ofString text).bytes

/-- Read an option with a long name, given without its dashes. What is wrong with the option itself
is told before what is wrong with anything that is pending. -/
def readLong (progress : Progress) (argument : RawText) (body : List UInt8) :
    Except Fault Step :=
  let name := body.takeWhile (· != equals)
  let value? : Option RawText :=
    match body.dropWhile (· != equals) with
    | _ :: value => some ⟨value⟩
    | [] => none
  if name == ascii "config" then Step.more <$> progress.startOption value?
  else if name == ascii "help" then
    match value? with
    | some value => .error (.unexpectedHelpValue value.shown)
    | none => do
        let _ ← progress.settle
        return .help
  else if progress.atArguments then Step.more <$> progress.takeValue argument
  else .error (.unexpectedArgument ("--" ++ RawText.shown ⟨name⟩))

/-- Read options with short names, given without their dash. The first of them that takes a value
takes the rest. -/
def readCluster (progress : Progress) (body : List UInt8) : Except Fault Step :=
  match body with
  | [] => .ok (.more progress)
  | byte :: rest =>
      if byte == shortHelp then do
        let _ ← progress.settle
        return .help
      else if byte == shortConfig then
        match rest with
        | [] => Step.more <$> progress.startOption none
        | next :: value =>
            Step.more <$> progress.startOption (some ⟨if next == equals then value else rest⟩)
      else
        let unknown :=
          match RawText.pieces ⟨body⟩ with
          | .char c :: _ => String.singleton c
          | _ => RawText.shown ⟨body⟩
        .error (.unexpectedArgument ("-" ++ unknown))

/-- Read options with short names. Where an argument of the command may stand, names that are no
options make it one. -/
def readShort (progress : Progress) (argument : RawText) (body : List UInt8) :
    Except Fault Step :=
  if progress.atArguments && !body.all fun byte => byte == shortHelp || byte == shortConfig then
    Step.more <$> progress.takeValue argument
  else readCluster progress body

/-- Read an argument while options may stand. -/
def readArgument (progress : Progress) (argument : RawText) : Except Fault Step :=
  match argument.bytes with
  | first :: second :: rest =>
      if first == dash then
        if second == dash then readLong progress argument rest
        else readShort progress argument (second :: rest)
      else Step.more <$> progress.takeValue argument
  | _ => Step.more <$> progress.takeValue argument

/-- Read arguments that are all positions. -/
def readPositions (progress : Progress) : List RawText -> Except Fault Request
  | [] => progress.finish
  | argument :: rest => do
      let progress ← progress.settle
      readPositions
        { progress with pending := .position argument, met := progress.met + 1 } rest

/-- Read arguments. Two dashes alone end the options. -/
def readFrom (progress : Progress) : List RawText -> Except Fault Request
  | [] => progress.finish
  | argument :: rest =>
      if 3 ≤ progress.met then readPositions progress (argument :: rest)
      else if argument.bytes == [dash, dash] then readPositions progress rest
      else
        match readArgument progress argument with
        | .error fault => .error fault
        | .ok .help => .ok .help
        | .ok (.more next) => readFrom next rest

/-- What the arguments of a run ask for. -/
def Request.read (arguments : List RawText) : Except Fault Request :=
  readFrom .start arguments

end Cli
end PathVersions
