import PathVersions.Json.Schema
import PathVersions.VersionGrammar

/-!
# Source paths

A source path names a directory of protocol-buffer sources. Any text is one, and no separator
is normalised.
-/

namespace PathVersions

/-- A slash-delimited path. -/
structure SourcePath where
  text : String
deriving DecidableEq, Repr

namespace SourcePath

/-- The segments of a path from left to right. -/
def segments (path : SourcePath) : List String :=
  (Path.segments path.text.toList).map String.ofList

/-- The last segment, which is the whole path if it has no separator. -/
def lastSegment (path : SourcePath) : String :=
  String.ofList (Path.lastSegment path.text.toList)

/-- A path without the versions at its end. -/
def withoutVersion (path : SourcePath) (grammar : VersionGrammar) : SourcePath :=
  ⟨grammar.stripVersions path.text⟩

/-- Whether a path ends in a version. -/
def endsInVersion (path : SourcePath) (grammar : VersionGrammar) : Bool :=
  grammar.endsInVersion path.text

/-- A path up to its first version. -/
def versionedPart (path : SourcePath) (grammar : VersionGrammar) : SourcePath :=
  ⟨grammar.cutAtVersion path.text⟩

/-- How two texts compare by code points, which is also how their UTF-8 encodings compare. -/
def compareChars : List Char -> List Char -> Ordering
  | [], [] => .eq
  | [], _ :: _ => .lt
  | _ :: _, [] => .gt
  | left :: lefts, right :: rights =>
      if left < right then .lt
      else if right < left then .gt
      else compareChars lefts rights

/-- How two paths compare. -/
def compare (left right : SourcePath) : Ordering :=
  compareChars left.text.toList right.text.toList

/-- A path as a JSON text. -/
def toJson (path : SourcePath) : String :=
  String.ofList (Json.encode path.text.toList)

/-- The path of a JSON text. -/
def ofJson? (document : String) : Option SourcePath :=
  (Json.decode? document.toList).map fun text => ⟨String.ofList text⟩

/-- The schema of a path in JSON. -/
def schema : Json.SchemaDocument where
  title := "ProtoPath"
  root :=
    .text
      "A slash-delimited identifier naming a protocol-buffer source directory.

Any string is accepted; no separator normalization takes place."
  definitions := []

end SourcePath

end PathVersions
