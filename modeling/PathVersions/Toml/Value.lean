import PathVersions.Toml.Scalar
import PathVersions.Toml.Table
import PathVersions.Toml.Text

/-!
# Reading values

Keys and values, among them arrays and tables between braces, whose nesting is limited.
-/

namespace PathVersions
namespace Toml

/-- Whether a character may stand in a key without marks. -/
def isBareKey (c : Char) : Bool := c.isAlphanum || c == '_' || c == '-'

/-- Read one part of a key. -/
def readKeyPart? (text : List Char) : Option (Key × List Char) := do
  let (name, rest) ←
    match text with
    | '"' :: rest => readQuoted? rest
    | '\'' :: rest => readLiteral? rest
    | _ =>
        if (text.takeWhile isBareKey).isEmpty then none
        else some (text.takeWhile isBareKey, text.dropWhile isBareKey)
  return (⟨String.ofList name, Span.between text rest⟩, rest)

/-- Read a key with dots between its parts: the parts before the last, the last one, and what
follows it and any blanks. A part leaves less text than it finds, so the check of the length
always succeeds. -/
def readKey? (text : List Char) : Option (List Key × Key × List Char) :=
  match readKeyPart? text with
  | none => none
  | some (key, rest) =>
      match skipBlanks rest with
      | '.' :: after =>
          let after := skipBlanks after
          if _shorter : after.length < text.length then
            (readKey? after).map fun (path, last, left) => (key :: path, last, left)
          else none
      | after => some ([], key, after)
termination_by text.length

/-- A way to read a value. -/
abbrev ValueReader : Type := List Char -> Option (Node × List Char)

/-- Read the items of an array after its opening bracket. An item leaves less text than it finds,
so the checks of the length always succeed. -/
def readItems? (readValue : ValueReader) (text : List Char) : Option (List Node × List Char) :=
  match skipLines false text with
  | ']' :: rest => some ([], rest)
  | start =>
      match readValue start with
      | none => none
      | some (item, rest) =>
          match skipLines false rest with
          | ']' :: rest => some ([item], rest)
          | ',' :: after =>
              if _shorter : after.length < text.length then
                (readItems? readValue after).map fun (items, left) => (item :: items, left)
              else none
          | _ => none
termination_by text.length

/-- Read the entries of a table after its opening brace and add them to those before. An entry
leaves less text than it finds, so the check of the length always succeeds. -/
def readEntries? (readValue : ValueReader) (entries : Entries) (text : List Char) :
    Option (Entries × List Char) :=
  match skipLines false text with
  | '}' :: rest => some (entries, rest)
  | start =>
      match readKey? start with
      | none => none
      | some (path, key, rest) =>
          match skipLines false rest with
          | '=' :: rest =>
              match readValue (skipLines false rest) with
              | none => none
              | some (node, rest) =>
                  match entries.assign path key node with
                  | none => none
                  | some entries =>
                      match skipLines false rest with
                      | '}' :: rest => some (entries, rest)
                      | ',' :: after =>
                          if _shorter : after.length < text.length then
                            readEntries? readValue entries after
                          else none
                      | _ => none
          | _ => none
termination_by text.length

/-- Read a value without marks. -/
def readScalar? (text : List Char) : Option (Node × List Char) := do
  let (written, rest) := Scalar.split text
  let span := Span.between text rest
  match ← Scalar.ofText? written with
  | .integer value? => return (.integer span value?, rest)
  | .float value? => return (.float span value?, rest)
  | .boolean truth => return (.boolean span truth, rest)
  | .moment => return (.moment span (String.ofList written), rest)

/-- Read a value, given how to read what is inside it, if anything may be. -/
def readOuter? (nested : Option ValueReader) (text : List Char) : Option (Node × List Char) :=
  match text with
  | '[' :: rest => do
      let (items, after) ← readItems? (← nested) rest
      return (.array (Span.between text after) .brackets items, after)
  | '{' :: rest => do
      let (entries, after) ← readEntries? (← nested) [] rest
      return (.table (Span.between text after) .braces entries, after)
  | '"' :: _ => readMarked text
  | '\'' :: _ => readMarked text
  | _ => readScalar? text
where
  /-- Read a text. -/
  readMarked (text : List Char) : Option (Node × List Char) := do
    let (content, after) ← readText? text
    return (.text (Span.between text after) (String.ofList content), after)

/-- Read a value in which arrays and tables are nested up to a depth. -/
def readNested? : Nat -> ValueReader
  | 0 => readOuter? none
  | depth + 1 => readOuter? (some (readNested? depth))

/-- How deeply arrays and tables may be nested in a value. -/
def nestingLimit : Nat := 80

/-- Read a value. -/
def readValue? : ValueReader := readNested? nestingLimit

end Toml
end PathVersions
