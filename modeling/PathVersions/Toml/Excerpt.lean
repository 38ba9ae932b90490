import PathVersions.Toml.Node

/-!
# Showing a place in a document

A complaint about a document names the line and the column of a place, shows the line and marks
the place in it. Columns count characters, but the marks count bytes.
-/

namespace PathVersions
namespace Toml

/-- The last line of a text. -/
def lastLine (text : List Char) : List Char :=
  (text.reverse.takeWhile (· != '\n')).reverse

/-- The number of bytes of a text. -/
def byteCount (text : List Char) : Nat := (text.map Char.utf8Size).foldr (· + ·) 0

/-- Where a place is in its document. -/
structure Location where
  /-- The number of the line, counted from one. -/
  line : Nat
  /-- How many characters of the line stand before the place. -/
  column : Nat
  /-- The whole line. -/
  content : List Char
  /-- How many bytes of the line to mark. -/
  marks : Nat
deriving DecidableEq, Repr

/-- The location of a stretch of a document. -/
def Span.locate (span : Span) (document : List Char) : Location :=
  let offset := document.length - span.start
  let before := document.take offset
  let after := document.drop offset
  let column := (lastLine before).length
  let content := lastLine before ++ after.takeWhile (· != '\n')
  let stretch := byteCount (after.take (span.start - span.finish))
  { line := before.count '\n' + 1
    column
    content
    marks := max 1 (min stretch (byteCount content - column)) }

/-- A complaint about a stretch of a document. -/
def Span.complain (span : Span) (document : List Char) (reason : String) : String :=
  let location := span.locate document
  let number := toString location.line
  let repeated (count : Nat) (c : Char) : String := String.ofList (List.replicate count c)
  let margin := repeated (number.length + 1) ' ' ++ "|"
  "TOML parse error at line " ++ number ++ ", column " ++ toString (location.column + 1) ++
    "\n" ++ margin ++ "\n" ++ number ++ " | " ++ String.ofList location.content ++ "\n" ++
    margin ++ repeated (location.column + 1) ' ' ++ repeated location.marks '^' ++ "\n" ++
    reason ++ "\n"

end Toml
end PathVersions
