import PathVersions.Text.Hex
import PathVersions.Toml.Spacing

/-!
# Texts in TOML

A text stands between quotation marks, in which a backslash escapes, or between apostrophes, in
which everything is literal. With three of these marks at each end it may run over lines, and
the line end right after the opening marks is dropped.
-/

namespace PathVersions
namespace Toml

/-- The character of an escape of one letter. -/
def escaped? : Char -> Option Char
  | 'b' => some '\x08'
  | 't' => some '\t'
  | 'n' => some '\n'
  | 'f' => some '\x0c'
  | 'r' => some '\r'
  | 'e' => some '\x1b'
  | '"' => some '"'
  | '\\' => some '\\'
  | _ => none

/-- How many hexadecimal digits follow the letter of an escape. -/
def escapeDigits? : Char -> Option Nat
  | 'x' => some 2
  | 'u' => some 4
  | 'U' => some 8
  | _ => none

/-- The character with a number, unless it has none. -/
def scalar? (value : Nat) : Option Char :=
  if value.isValidChar then some (Char.ofNat value) else none

/-- Read an escape after its backslash. -/
def readEscape? : List Char -> Option (Char × List Char)
  | [] => none
  | letter :: rest =>
      match escapeDigits? letter with
      | some digits => do
          let (value, rest) ← Hex.read? digits 0 rest
          return (← scalar? value, rest)
      | none => (escaped? letter).map fun c => (c, rest)

/-- Read a text of one line after its opening quotation mark. An escape leaves less text than it
finds, so the check of the length always succeeds. -/
def readQuoted? (text : List Char) : Option (List Char × List Char) :=
  match text with
  | [] => none
  | '"' :: rest => some ([], rest)
  | '\\' :: rest =>
      match readEscape? rest with
      | none => none
      | some (c, after) =>
          if _shorter : after.length ≤ rest.length then
            (readQuoted? after).map fun (read, left) => (c :: read, left)
          else none
  | c :: rest =>
      if isControl c then none
      else (readQuoted? rest).map fun (read, left) => (c :: read, left)
termination_by text.length

/-- Read a text of one line after its opening apostrophe. -/
def readLiteral? : List Char -> Option (List Char × List Char)
  | [] => none
  | c :: rest =>
      if c == '\'' then some ([], rest)
      else if isControl c then none
      else (readLiteral? rest).map fun (read, left) => (c :: read, left)

/-- Read the marks at the end of a text over lines: three of them, after up to two that belong to
the text. -/
def readClosing? (mark : Char) : List Char -> Option (List Char × List Char)
  | a :: b :: c :: rest =>
      if a == mark && b == mark && c == mark then
        match rest with
        | d :: e :: after =>
            if d == mark && e == mark then some ([mark, mark], after)
            else if d == mark then some ([mark], e :: after)
            else some ([], rest)
        | [d] => if d == mark then some ([mark], []) else some ([], [d])
        | [] => some ([], [])
      else none
  | _ => none

/-- Drop what a backslash at the end of a line escapes: blanks up to the end of the line, and
blanks and empty lines after it. -/
def skipFold? (text : List Char) : Option (List Char) :=
  (newline? (skipBlanks text)).map fun rest => skipFolded rest
where
  /-- Drop blanks and line ends. -/
  skipFolded : List Char -> List Char
    | [] => []
    | '\r' :: '\n' :: rest => skipFolded rest
    | c :: rest => if isBlank c || c == '\n' then skipFolded rest else c :: rest

/-- Read a text over lines between quotation marks, after the opening ones. An escape leaves less
text than it finds, so the checks of the length always succeed. -/
def readQuotedLines? (text : List Char) : Option (List Char × List Char) :=
  match readClosing? '"' text with
  | some (marks, rest) => some (marks, rest)
  | none =>
      match text with
      | [] => none
      | '\\' :: rest =>
          match skipFold? rest with
          | some after =>
              if _shorter : after.length ≤ rest.length then readQuotedLines? after else none
          | none =>
              match readEscape? rest with
              | none => none
              | some (c, after) =>
                  if _shorter : after.length ≤ rest.length then
                    (readQuotedLines? after).map fun (read, left) => (c :: read, left)
                  else none
      | '\r' :: '\n' :: rest =>
          (readQuotedLines? rest).map fun (read, left) => ('\r' :: '\n' :: read, left)
      | c :: rest =>
          if isControl c && c != '\n' then none
          else (readQuotedLines? rest).map fun (read, left) => (c :: read, left)
termination_by text.length

/-- Read a text over lines between apostrophes, after the opening ones. -/
def readLiteralLines? (text : List Char) : Option (List Char × List Char) :=
  match readClosing? '\'' text with
  | some (marks, rest) => some (marks, rest)
  | none =>
      match text with
      | [] => none
      | '\r' :: '\n' :: rest =>
          (readLiteralLines? rest).map fun (read, left) => ('\r' :: '\n' :: read, left)
      | c :: rest =>
          if isControl c && c != '\n' then none
          else (readLiteralLines? rest).map fun (read, left) => (c :: read, left)
termination_by text.length

/-- A text without the line end that it starts with, if it does. -/
def dropFirstNewline (text : List Char) : List Char := (newline? text).getD text

/-- Read a text in any of its forms. -/
def readText? : List Char -> Option (List Char × List Char)
  | '"' :: '"' :: '"' :: rest => readQuotedLines? (dropFirstNewline rest)
  | '\'' :: '\'' :: '\'' :: rest => readLiteralLines? (dropFirstNewline rest)
  | '"' :: rest => readQuoted? rest
  | '\'' :: rest => readLiteral? rest
  | _ => none

end Toml
end PathVersions
