import PathVersions.Text.Hex
import PathVersions.Toml.Spacing

/-!
# Writing texts

A text is written in the first of some forms that shows it without escapes, and with escapes if
there is none. Reading gives the text back in every form.
-/

namespace PathVersions
namespace Toml

/-- A form of a text: with escapes or literal, on one line or over lines. -/
inductive TextForm
  | quoted
  | literal
  | quotedLines
  | literalLines
deriving DecidableEq, Repr

namespace TextForm

/-- Whether a character needs no thought. -/
def isPlain (c : Char) : Bool :=
  c.isAlphanum || c == '_' || c == '-' || c == '.' || c == '/' || c == ' ' || c == ':'

/-- Whether a character can only be written with an escape, line ends apart. -/
def needsEscape (c : Char) : Bool := isControl c && c != '\n'

/-- Whether a mark never stands more than twice in a row; `run` counts those just before. -/
def atMostTwo (mark : Char) (run : Nat) : List Char -> Bool
  | [] => true
  | c :: rest =>
      if c == mark then run < 2 && atMostTwo mark (run + 1) rest else atMostTwo mark 0 rest

/-- The form of a text. -/
def choose (text : List Char) : TextForm :=
  let has (c : Char) : Bool := text.contains c
  let shown := !text.any needsEscape
  if text.all isPlain then .quoted
  else if shown && !has '\\' && !has '"' && !has '\n' then .quoted
  else if shown && !has '\'' && !has '\n' then .literal
  else if shown && !has '\\' && atMostTwo '"' 0 text then .quotedLines
  else if shown && atMostTwo '\'' 0 text then .literalLines
  else if has '\n' then .quotedLines
  else .quoted

end TextForm

/-- The letter of the short escape of a character, quotation marks and line ends apart. -/
def escapeLetter? : Char -> Option Char
  | '\x08' => some 'b'
  | '\t' => some 't'
  | '\x0c' => some 'f'
  | '\r' => some 'r'
  | '\\' => some '\\'
  | _ => none

/-- Write a character that is no quotation mark and no line end. -/
def writeChar (c : Char) : List Char :=
  match escapeLetter? c with
  | some letter => ['\\', letter]
  | none =>
      if isControl c then '\\' :: 'u' :: Hex.digits Hex.capitalDigit 4 c.toNat else [c]

/-- Write the characters of a text on one line. -/
def writeLine : List Char -> List Char
  | [] => []
  | '"' :: rest => '\\' :: '"' :: writeLine rest
  | '\n' :: rest => '\\' :: 'n' :: writeLine rest
  | c :: rest => writeChar c ++ writeLine rest

/-- Write the characters of a text over lines. Of three quotation marks in a row the third is
escaped; `run` counts those just before. -/
def writeLines (run : Nat) : List Char -> List Char
  | [] => []
  | '"' :: rest =>
      if run < 2 then '"' :: writeLines (run + 1) rest else '\\' :: '"' :: writeLines 0 rest
  | '\n' :: rest => '\n' :: writeLines 0 rest
  | c :: rest => writeChar c ++ writeLines 0 rest

/-- Write a text. A form over lines starts with a line end if the text has one. -/
def writeText (text : List Char) : List Char :=
  let opening := if text.contains '\n' then ['\n'] else []
  match TextForm.choose text with
  | .quoted => ['"'] ++ writeLine text ++ ['"']
  | .literal => ['\''] ++ text ++ ['\'']
  | .quotedLines => ['"', '"', '"'] ++ opening ++ writeLines 0 text ++ ['"', '"', '"']
  | .literalLines => ['\'', '\'', '\''] ++ opening ++ text ++ ['\'', '\'', '\'']

end Toml
end PathVersions
