/-!
# Spacing in TOML

Blanks, line ends and comments. A comment runs from a number sign to the end of its line and
holds no control character but tabs.
-/

namespace PathVersions
namespace Toml

/-- Whether a character is a blank within a line. -/
def isBlank (c : Char) : Bool := c == ' ' || c == '\t'

/-- Whether a character must not appear as it is, not even in a comment. -/
def isControl (c : Char) : Bool :=
  (c.toNat < 0x20 && c != '\t') || c.toNat == 0x7f

/-- Drop blanks. -/
def skipBlanks (text : List Char) : List Char := text.dropWhile isBlank

/-- Drop a line end, if there is one. -/
def newline? : List Char -> Option (List Char)
  | '\n' :: rest => some rest
  | '\r' :: '\n' :: rest => some rest
  | _ => none

/-- Drop a comment, if there is one. -/
def skipComment : List Char -> List Char
  | '#' :: rest => rest.dropWhile fun c => !isControl c
  | text => text

/-- Read to the end of a line, or of the document, on which nothing but blanks and a comment may
stand. -/
def readLineEnd? (text : List Char) : Option (List Char) :=
  match skipComment (skipBlanks text) with
  | [] => some []
  | rest => newline? rest

/-- Drop blanks, comments and line ends; `comment` says whether the text starts in a comment. A
comment ends before the first control character, which is left unless it ends a line. -/
def skipLines (comment : Bool) : List Char -> List Char
  | [] => []
  | '\n' :: rest => skipLines false rest
  | '\r' :: '\n' :: rest => skipLines false rest
  | c :: rest =>
      if comment then
        if isControl c then c :: rest else skipLines true rest
      else if isBlank c then skipLines false rest
      else if c == '#' then skipLines true rest
      else c :: rest

theorem skipLines_length_le (comment : Bool) (text : List Char) :
    (skipLines comment text).length ≤ text.length := by
  fun_induction skipLines comment text <;> simp_all <;> omega

end Toml
end PathVersions
