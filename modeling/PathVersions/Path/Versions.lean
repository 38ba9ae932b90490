import PathVersions.Path.Segments

/-!
# Versions in a path

Operations on paths for any rule that says which segments are versions. `stripVersions` removes
the versions at the end, `endsInVersion` looks for one there, and `cutAtVersion` keeps a path up
to its first version.
-/

namespace PathVersions
namespace Path

/-- A path without the versions at its end. -/
def stripVersions (isVersion : List Char -> Bool) (path : List Char) : List Char :=
  match equation : splitLast path with
  | (some parent, last) =>
      if isVersion last then
        have _shorter : parent.length < path.length := splitLast_length_lt equation
        stripVersions isVersion parent
      else path
  | (none, last) => if isVersion last then [] else path
termination_by path.length

/-- Whether the last segment of a path is a version. -/
def endsInVersion (isVersion : List Char -> Bool) (path : List Char) : Bool :=
  isVersion (lastSegment path)

/-- The length of a text in bytes. -/
def byteLength : List Char -> Nat
  | [] => 0
  | c :: rest => c.utf8Size + byteLength rest

/-- The number of bytes up to the end of the first version among some segments, which begin
after a number of bytes. -/
def versionEnd? (isVersion : List Char -> Bool) (start : Nat) : List (List Char) -> Option Nat
  | [] => none
  | segment :: rest =>
      let finish := start + byteLength segment
      if isVersion segment then some finish
      else versionEnd? isVersion (finish + separator.utf8Size) rest

/-- The start of a text up to a number of bytes, if a character ends there. -/
def takeBytes? : Nat -> List Char -> Option (List Char)
  | 0, _ => some []
  | _ + 1, [] => none
  | count, c :: rest =>
      if c.utf8Size ≤ count then (takeBytes? (count - c.utf8Size) rest).map (c :: ·)
      else none

/-- A path up to the end of its first version, or the whole path if it has none. The end of a
segment is always the end of a character, so that the whole path is not taken otherwise. -/
def cutAtVersion (isVersion : List Char -> Bool) (path : List Char) : List Char :=
  match versionEnd? isVersion 0 (segments path) with
  | none => path
  | some finish => (takeBytes? finish path).getD path

end Path
end PathVersions
