import PathVersions.Unicode.Word

/-!
# Places in a text

Conditions on the characters around a position, which match without taking any text.
-/

namespace PathVersions
namespace Pattern

/-- Which characters make up words. -/
inductive WordScope
  | full
  | ascii
deriving DecidableEq, Repr

/-- Whether a character belongs to a word. -/
def WordScope.contains : WordScope -> Char -> Bool
  | .full, c => Unicode.wordClass.contains c
  | .ascii, c => c.isAlphanum || c == '_'

/-- A relation between a position and the words around it. -/
inductive WordPlace
  | boundary
  | notBoundary
  | start
  | finish
  | startHalf
  | finishHalf
deriving DecidableEq, Repr

/-- A condition on a position in a text. -/
inductive Look
  | textStart
  | textEnd
  | lineStart
  | lineEnd
  /-- The start of a line, where a carriage return ends a line too. -/
  | anyLineStart
  /-- The end of a line, where a carriage return ends a line too. -/
  | anyLineEnd
  | word (place : WordPlace) (scope : WordScope)
deriving DecidableEq, Repr

/-- Whether a place in words fits, given whether words stand before and after it. -/
def WordPlace.holds (place : WordPlace) (before after : Bool) : Bool :=
  match place with
  | .boundary => before != after
  | .notBoundary => before == after
  | .start => !before && after
  | .finish => before && !after
  | .startHalf => !before
  | .finishHalf => !after

/-- Whether a condition holds between two characters, which are absent at the ends of the
text. -/
def Look.holds (look : Look) (before after : Option Char) : Bool :=
  match look with
  | .textStart => before.isNone
  | .textEnd => after.isNone
  | .lineStart => before.all (· == '\n')
  | .lineEnd => after.all (· == '\n')
  | .anyLineStart =>
      before.all fun c => c == '\n' || (c == '\r' && after != some '\n')
  | .anyLineEnd =>
      after.all fun c => c == '\r' || (c == '\n' && before != some '\r')
  | .word place scope => place.holds (before.any scope.contains) (after.any scope.contains)

/-- The character before a position of a text. -/
def charBefore (text : List Char) (position : Nat) : Option Char :=
  match position with
  | 0 => none
  | previous + 1 => text[previous]?

/-- Whether a condition holds at a position of a text. -/
def Look.holdsAt (look : Look) (text : List Char) (position : Nat) : Bool :=
  look.holds (charBefore text position) text[position]?

end Pattern
end PathVersions
