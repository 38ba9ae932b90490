import PathVersions.Config.Basic
import PathVersions.Text.Quoted
import PathVersions.Toml.Document
import PathVersions.Toml.Excerpt

/-!
# Configurations in documents

Which documents describe a configuration. A setting may be absent and there may be others, but a
value of the wrong kind is refused. A table of settings may also be given as the list of their
values, and a level of logging as a table of one entry without content.
-/

namespace PathVersions
namespace Config

/-- What was found where something else was expected. -/
inductive Found
  | text (content : String)
  | integer (value : Int)
  | float (value : Number.Binary64)
  | boolean (truth : Bool)
  | sequence
  | map
deriving DecidableEq, Repr

/-- What was expected. -/
inductive Expected
  | generalSettings
  | versioningSettings
  | text
deriving DecidableEq, Repr

/-- Why a value does not fit. -/
inductive MisfitCause
  | unknownLevel (name : String)
  | unexpected (found : Found) (expected : Expected)
  | neitherTextNorTable
  | noEntry
  | manyEntries
  | noTable (kind : String)
  | tableNotEmpty
  | arrayNotEmpty
deriving DecidableEq, Repr

/-- A value that does not fit, and where it stands. -/
structure Misfit where
  span : Toml.Span
  cause : MisfitCause
deriving DecidableEq, Repr

/-- The wording of an integer. Those that do not fit into 64 bits are marked. -/
def integerText (value : Int) : String :=
  let size :=
    if -(Int.pow 2 63) ≤ value && value < Int.pow 2 64 then ""
    else if value < Int.pow 2 127 then " as i128"
    else " as u128"
  "integer \x60" ++ toString value ++ "\x60" ++ size

/-- The wording of what was found. -/
def Found.wording : Found -> String
  | .text content => "string " ++ Quoted.ofString content
  | .integer value => integerText value
  | .float value => "floating point \x60" ++ value.text ++ "\x60"
  | .boolean truth => "boolean \x60" ++ (if truth then "true" else "false") ++ "\x60"
  | .sequence => "sequence"
  | .map => "map"

/-- The wording of what was expected. -/
def Expected.wording : Expected -> String
  | .generalSettings => "struct GeneralConfig"
  | .versioningSettings => "struct VersioningConfig"
  | .text => "a string"

/-- The wording of a cause. -/
def MisfitCause.reason : MisfitCause -> String
  | .unknownLevel name =>
      "unknown variant \x60" ++ name ++ "\x60, expected one of " ++
        String.intercalate ", " (LogLevel.all.map fun level => "\x60" ++ level.name ++ "\x60")
  | .unexpected found expected =>
      "invalid type: " ++ found.wording ++ ", expected " ++ expected.wording
  | .neitherTextNorTable => "wanted string or table"
  | .noEntry => "wanted exactly 1 element, found 0 elements"
  | .manyEntries => "wanted exactly 1 element, more than 1 element"
  | .noTable kind => "expected table, found " ++ kind
  | .tableNotEmpty => "expected empty table"
  | .arrayNotEmpty => "expected empty array"

/-- Why a document describes no configuration. -/
inductive DocumentFault
  /-- The document, or a number whose value is asked for, is written badly. -/
  | malformed
  | misfit (misfit : Misfit)
deriving DecidableEq, Repr

/-- The wording of a fault of a document. -/
def DocumentFault.details (document : List Char) : DocumentFault -> String
  | .malformed => "syntax"
  | .misfit own => own.span.complain document own.cause.reason

/-- A part of a document that may be at fault. -/
abbrev Reading (α : Type) : Type := Except DocumentFault α

/-- A refusal of the value at a place. -/
def refuse {α : Type} (span : Toml.Span) (cause : MisfitCause) : Reading α :=
  .error (.misfit ⟨span, cause⟩)

/-- What a value is found to be, if it can be told. -/
def found? : Toml.Node -> Option Found
  | .text _ content => some (.text content)
  | .integer _ value? => value?.map .integer
  | .float _ value? => value?.map .float
  | .boolean _ truth => some (.boolean truth)
  | .moment _ _ => some .map
  | .array _ _ _ => some .sequence
  | .table _ _ _ => some .map

/-- A refusal of a value. -/
def unexpected {α : Type} (node : Toml.Node) (expected : Expected) : Reading α :=
  match found? node with
  | some found => refuse node.span (.unexpected found expected)
  | none => .error .malformed

/-- Pass over a value that is of no interest. -/
def ignore (node : Toml.Node) : Reading Unit :=
  if node.numbersHaveValues then .ok () else .error .malformed

/-- The level of a name. -/
def levelOfName (span : Toml.Span) (name : String) : Reading LogLevel :=
  match LogLevel.ofName? name with
  | some level => .ok level
  | none => refuse span (.unknownLevel name)

/-- Check that the entry of a level has no content. -/
def checkEmpty (node : Toml.Node) : Reading Unit :=
  match node with
  | .table _ _ [] => .ok ()
  | .table span _ _ => refuse span .tableNotEmpty
  | .array _ _ [] => .ok ()
  | .array span _ _ => refuse span .arrayNotEmpty
  | .text span _ => refuse span (.noTable "string")
  | .integer span _ => refuse span (.noTable "integer")
  | .float span _ => refuse span (.noTable "float")
  | .boolean span _ => refuse span (.noTable "boolean")
  | .moment span _ => refuse span (.noTable "datetime")

/-- The level of logging that a value gives. -/
def levelOf (node : Toml.Node) : Reading LogLevel :=
  match node with
  | .text span content => levelOfName span content
  | .table span _ [] => refuse span .noEntry
  | .table _ _ [(key, content)] => do
      let level ← levelOfName key.span key.name
      checkEmpty content
      return level
  | .table span _ _ => refuse span .manyEntries
  | other => refuse other.span .neitherTextNorTable

/-- The pattern that a value gives. -/
def patternOf (node : Toml.Node) : Reading String :=
  match node with
  | .text _ content => .ok content
  | other => unexpected other .text

/-- Read the setting of a name from entries and pass over all others, in the order of their
names. -/
def settingIn {α : Type}
    (name : String)
    (read : Toml.Node -> Reading α)
    (entries : Toml.Entries) :
    Reading (Option α) :=
  entries.sorted.foldlM
    (fun setting (key, node) =>
      if key.name == name then some <$> read node
      else do
        ignore node
        return setting)
    none

/-- Read one setting from a table or a list. A date or time counts as a table without it, and what
follows the first item of a list is not looked at. -/
def settingOf {α : Type}
    (expected : Expected)
    (name : String)
    (read : Toml.Node -> Reading α)
    (node : Toml.Node) :
    Reading (Option α) :=
  match node with
  | .table _ _ entries => settingIn name read entries
  | .array _ _ [] => .ok none
  | .array _ _ (value :: _) => some <$> read value
  | .moment _ _ => .ok none
  | other => unexpected other expected

/-- Take in one part of a document. -/
def readPart (config : Config) (key : Toml.Key) (node : Toml.Node) : Reading Config :=
  if key.name == "general" then do
    let level? ← settingOf .generalSettings "log_level" levelOf node
    return { config with logLevel := level?.getD defaultLogLevel }
  else if key.name == "versioning" then do
    let pattern? ← settingOf .versioningSettings "pattern" patternOf node
    return { config with pattern? }
  else do
    ignore node
    return config

/-- The configuration that the table of a document describes. Its parts are read in the order of
their names, so that the first one at fault decides. -/
def ofEntries (entries : Toml.Entries) : Reading Config :=
  entries.sorted.foldlM (fun config (key, node) => readPart config key node) default

/-- The configuration that a document describes, whether its pattern is good or not. -/
def ofToml (document : List Char) : Reading Config :=
  match Toml.read? document with
  | none => .error .malformed
  | some entries => ofEntries entries

end Config
end PathVersions
