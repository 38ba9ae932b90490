import PathVersions.Text.Hex
import PathVersions.Unicode.Word

/-!
# Quoted text for readers

A text between quotation marks in which every character can be told apart: those without a
visible form of their own are written as their numbers.
-/

namespace PathVersions
namespace Quoted

/-- The letter of the short escape of a character, if it has one. -/
def escapeLetter? : Char -> Option Char
  | '\x00' => some '0'
  | '\t' => some 't'
  | '\n' => some 'n'
  | '\r' => some 'r'
  | '"' => some '"'
  | '\\' => some '\\'
  | _ => none

/-- Whether a character is written as it is. -/
def isVisible (c : Char) : Bool :=
  (0x20 ≤ c.toNat && c.toNat < 0x7f) ||
    (0x7f < c.toNat && !Unicode.joiningClass.contains c && !Unicode.unprintableClass.contains c)

/-- Write a character between quotation marks. -/
def writeChar (c : Char) : List Char :=
  match escapeLetter? c with
  | some letter => ['\\', letter]
  | none =>
      if isVisible c then [c]
      else
        let digits := Hex.digits Hex.smallDigit (Hex.width c.toNat) c.toNat
        '\\' :: 'u' :: '{' :: (digits ++ ['}'])

/-- A text between quotation marks. -/
def write (text : List Char) : List Char :=
  '"' :: (text.flatMap writeChar ++ ['"'])

/-- A text between quotation marks. -/
def ofString (text : String) : String := String.ofList (write text.toList)

end Quoted
end PathVersions
