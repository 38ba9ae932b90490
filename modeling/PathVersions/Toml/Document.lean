import PathVersions.Toml.Value

/-!
# Reading documents

A document is a list of statements, one on each line that is not empty: headers, which open
tables, and entries, which belong to the header before them. The table that a document stands
for is built from its statements. Every fault of a document has the same name here: it is
malformed.
-/

namespace PathVersions
namespace Toml

/-- A statement of a document. -/
inductive Statement
  /-- A header of a table. -/
  | header (span : Span) (path : List Key) (key : Key)
  /-- A header of one table of an array. -/
  | arrayHeader (span : Span) (path : List Key) (key : Key)
  | entry (path : List Key) (key : Key) (node : Node)
deriving Repr

/-- Read a statement. -/
def readStatement? (text : List Char) : Option (Statement × List Char) :=
  match text with
  | '[' :: '[' :: rest => do
      let (path, key, rest) ← readKey? (skipBlanks rest)
      match rest with
      | ']' :: ']' :: after => return (.arrayHeader (Span.between text after) path key, after)
      | _ => none
  | '[' :: rest => do
      let (path, key, rest) ← readKey? (skipBlanks rest)
      match rest with
      | ']' :: after => return (.header (Span.between text after) path key, after)
      | _ => none
  | _ => do
      let (path, key, rest) ← readKey? text
      match rest with
      | '=' :: rest => do
          let (node, rest) ← readValue? (skipBlanks rest)
          return (.entry path key node, rest)
      | _ => none

/-- Read statements to the end of a document. A statement with the rest of its line leaves less
text than it finds, so the check of the length always succeeds. -/
def readStatements? (text : List Char) : Option (List Statement) :=
  match skipLines false text with
  | [] => some []
  | start =>
      match readStatement? start with
      | none => none
      | some (statement, rest) =>
          match readLineEnd? rest with
          | none => none
          | some after =>
              if _shorter : after.length < text.length then
                (readStatements? after).map (statement :: ·)
              else none
termination_by text.length

/-- The table that entries are added to. -/
inductive Section
  /-- The table of the whole document. -/
  | whole
  /-- A table with a header, of which the entries so far are known. -/
  | table (span : Span) (path : List Key) (key : Key) (entries : Entries)
  /-- A table of an array, of which the entries so far are known. -/
  | item (span : Span) (path : List Key) (key : Key) (entries : Entries)
deriving Repr

/-- A document as far as it is built: the finished entries and the table that is being built. -/
structure Building where
  finished : Entries
  latest : Section
deriving Repr

namespace Building

/-- Nothing. -/
def start : Building := ⟨[], .whole⟩

/-- Put the table that is being built into the document. -/
def close? (building : Building) : Option Entries :=
  match building.latest with
  | .whole => some building.finished
  | .table span path key entries =>
      Entries.descend false (Entries.place key (.table span .header entries)) path .header
        building.finished
  | .item span path key entries =>
      Entries.descend false (Entries.append key span (.table span .header entries)) path .header
        building.finished

/-- Take in a statement. A header is refused at once if its table cannot be opened. -/
def add? (building : Building) : Statement -> Option Building
  | .header span path key => do
      let finished ← building.close?
      let entries ← found finished path key
      return ⟨finished, .table span path key entries⟩
  | .arrayHeader span path key => do
      let finished ← building.close?
      let _ ←
        Entries.descend false (Entries.append key span (.table span .header [])) path .header finished
      return ⟨finished, .item span path key []⟩
  | .entry path key node =>
      match building.latest with
      | .whole => do
          return ⟨← building.finished.assign path key node, .whole⟩
      | .table span outer name entries => do
          return ⟨building.finished, .table span outer name (← entries.assign path key node)⟩
      | .item span outer name entries => do
          return ⟨building.finished, .item span outer name (← entries.assign path key node)⟩
where
  /-- The entries that the table of a header has already. -/
  found (finished : Entries) (path : List Key) (key : Key) : Option Entries :=
    match path with
    | [] => finished.opened key
    | outer :: path =>
        match finished.find? outer.name with
        | none => some []
        | some (_, .table _ origin inner) =>
            if origin == .braces then none else found inner path key
        | some (_, .array _ .headers items) =>
            match items.getLast? with
            | some (.table _ _ inner) => found inner path key
            | _ => none
        | some _ => none

end Building

/-- The table of a list of statements. -/
def ofStatements? (statements : List Statement) : Option Entries := do
  let building ← statements.foldlM Building.add? .start
  building.close?

/-- A document without the mark that may stand at its start. -/
def dropMark : List Char -> List Char
  | '\ufeff' :: rest => rest
  | text => text

/-- The table of a document, unless it is malformed. -/
def read? (document : List Char) : Option Entries := do
  ofStatements? (← readStatements? (dropMark document))

end Toml
end PathVersions
