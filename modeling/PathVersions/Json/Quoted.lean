import PathVersions.Text.Hex

/-!
# Text in JSON

`encode` writes a text between quotation marks and escapes no more than it has to; `decode?`
reads any spelling of a text.
-/

namespace PathVersions
namespace Json

/-- The letter of the short escape of a character, if it has one. -/
def escapeLetter? : Char -> Option Char
  | '"' => some '"'
  | '\\' => some '\\'
  | '\x08' => some 'b'
  | '\t' => some 't'
  | '\n' => some 'n'
  | '\x0c' => some 'f'
  | '\r' => some 'r'
  | _ => none

/-- The character of a short escape. -/
def escaped? : Char -> Option Char
  | '"' => some '"'
  | '\\' => some '\\'
  | '/' => some '/'
  | 'b' => some '\x08'
  | 't' => some '\t'
  | 'n' => some '\n'
  | 'f' => some '\x0c'
  | 'r' => some '\r'
  | _ => none

/-- Write a character inside a quoted text. -/
def encodeChar (c : Char) : List Char :=
  match escapeLetter? c with
  | some letter => ['\\', letter]
  | none =>
      if c.toNat < 0x20 then '\\' :: 'u' :: Hex.digits Hex.smallDigit 4 c.toNat else [c]

/-- Write a text between quotation marks. -/
def encode (text : List Char) : List Char :=
  '"' :: (text.flatMap encodeChar ++ ['"'])

/-- Whether a number is the first half of a surrogate pair. -/
def isLeading (unit : Nat) : Bool := 0xd800 ≤ unit && unit ≤ 0xdbff

/-- Whether a number is the second half of a surrogate pair. -/
def isTrailing (unit : Nat) : Bool := 0xdc00 ≤ unit && unit ≤ 0xdfff

/-- Read what follows a backslash and the letter `u`: four digits, and another such escape if
they are the first half of a pair. -/
def decodeUnit? (text : List Char) : Option (Char × List Char) := do
  let (unit, rest) ← Hex.read? 4 0 text
  if isTrailing unit then none
  else if isLeading unit then
    match rest with
    | '\\' :: 'u' :: rest => do
        let (second, rest) ← Hex.read? 4 0 rest
        if isTrailing second then
          some (Char.ofNat (0x10000 + (unit - 0xd800) * 0x400 + (second - 0xdc00)), rest)
        else none
    | _ => none
  else some (Char.ofNat unit, rest)

/-- Read a text after its opening quotation mark, up to and including the closing one. An escape
leaves less text than it finds, so the check of the length always succeeds. -/
def decodeRest? (text : List Char) : Option (List Char × List Char) :=
  match text with
  | [] => none
  | '"' :: rest => some ([], rest)
  | '\\' :: 'u' :: rest =>
      match decodeUnit? rest with
      | none => none
      | some (c, after) =>
          if _shorter : after.length ≤ rest.length then
            (decodeRest? after).map fun (read, left) => (c :: read, left)
          else none
  | '\\' :: letter :: rest =>
      match escaped? letter with
      | none => none
      | some c => (decodeRest? rest).map fun (read, left) => (c :: read, left)
  | c :: rest =>
      if c.toNat < 0x20 || c == '\\' then none
      else (decodeRest? rest).map fun (read, left) => (c :: read, left)
termination_by text.length

/-- Whether a character may stand around a JSON value. -/
def isSpace (c : Char) : Bool :=
  c == ' ' || c == '\t' || c == '\n' || c == '\r'

/-- Read a document that is one text. -/
def decode? (document : List Char) : Option (List Char) :=
  match document.dropWhile isSpace with
  | '"' :: rest =>
      match decodeRest? rest with
      | some (read, left) => if left.all isSpace then some read else none
      | none => none
  | _ => none

end Json
end PathVersions
