import PathVersions.Datum
import PathVersions.Toml.Value
import PathVersions.Toml.Written

/-!
# Writing documents

A document is a table. The entries that fit on a line come first, and each table within it follows
under a header of its own, with a blank line between. Not every datum has a document: there is no
way to write a value that says nothing, a key that is not a text, or a document that is no table.
-/

namespace PathVersions
namespace Toml

/-- Why a datum is not written. -/
inductive WriteFault
  | unsupported (kind : String)
  | keyNotText
deriving DecidableEq, Repr

/-- The wording of a fault. -/
def WriteFault.message : WriteFault -> String
  | .unsupported kind => "unsupported " ++ kind ++ " type"
  | .keyNotText => "map key was not a string"

/-- Write a key, without marks if it can be. It stays on one line. -/
def writeKey (name : String) : String :=
  let text := name.toList
  if !text.isEmpty && text.all isBareKey then name
  else
    match TextForm.choose text with
    | .literal => "'" ++ name ++ "'"
    | _ => "\"" ++ String.ofList (writeLine text) ++ "\""

/-! ## Data on one line -/

/-- Written items as an array. -/
def bracketed (written : List String) : String := "[" ++ String.intercalate ", " written ++ "]"

/-- Written entries as a table on one line. -/
def braced (written : List String) : String :=
  if written.isEmpty then "\x7b\x7d" else "\x7b " ++ String.intercalate ", " written ++ " \x7d"

mutual

/-- Write a datum on one line, texts over lines apart. -/
def writeInline : Datum -> Except WriteFault String
  | .unit => .error (.unsupported "unit")
  | .bool true => .ok "true"
  | .bool false => .ok "false"
  | .text content => .ok (String.ofList (writeText content.toList))
  | .array items => bracketed <$> writeInlineItems items
  | .map entries => braced <$> writeInlineMembers entries

/-- Write each item of an array. -/
def writeInlineItems : List Datum -> Except WriteFault (List String)
  | [] => .ok []
  | item :: rest => do
      let written ← writeInline item
      let others ← writeInlineItems rest
      return written :: others

/-- Write each entry of a map on one line. -/
def writeInlineMembers : List (Option String × Datum) -> Except WriteFault (List String)
  | [] => .ok []
  | (none, _) :: _ => .error .keyNotText
  | (some name, value) :: rest => do
      let written ← writeInline value
      let others ← writeInlineMembers rest
      return (writeKey name ++ " = " ++ written) :: others

end

/-! ## Tables under headers -/

/-- Where the entries of a table stand: at the start of a document, under a header with the keys
that lead to the table, or under the header of an element of an array. -/
inductive Heading
  | start
  | table (keys : List String)
  | element (keys : List String)
deriving DecidableEq, Repr

/-- The keys that lead to a table. -/
def Heading.keys : Heading -> List String
  | .start => []
  | .table keys => keys
  | .element keys => keys

/-- What has been written of a table: its own lines, and the blocks of the tables within it. -/
structure WrittenTable where
  lines : String
  blocks : List String
deriving DecidableEq, Repr

namespace WrittenTable

/-- The blocks of tables within a table. -/
def ofBlocks (blocks : List String) : WrittenTable := ⟨"", blocks⟩

/-- An entry on a line. -/
def ofEntry (name written : String) : WrittenTable :=
  ⟨writeKey name ++ " = " ++ written ++ "\n", []⟩

/-- The entries of two tables. -/
def append (first second : WrittenTable) : WrittenTable :=
  ⟨first.lines ++ second.lines, first.blocks ++ second.blocks⟩

/-- The blocks of a table. One that only has tables within it needs no header. -/
def under (heading : Heading) (table : WrittenTable) : List String :=
  let path := String.intercalate "." (heading.keys.map writeKey)
  match heading with
  | .start => if table.lines.isEmpty then table.blocks else table.lines :: table.blocks
  | .table _ =>
      if table.lines.isEmpty && !table.blocks.isEmpty then table.blocks
      else ("[" ++ path ++ "]\n" ++ table.lines) :: table.blocks
  | .element _ => ("[[" ++ path ++ "]]\n" ++ table.lines) :: table.blocks

end WrittenTable

mutual

/-- Write a table with its heading. -/
def writeTable (heading : Heading) : Datum -> Except WriteFault (List String)
  | .map entries => WrittenTable.under heading <$> writeMembers heading.keys entries
  | other => .error (.unsupported other.kind)

/-- Write the entries of a table to which some keys lead. -/
def writeMembers (keys : List String) :
    List (Option String × Datum) -> Except WriteFault WrittenTable
  | [] => .ok (.ofBlocks [])
  | (none, _) :: _ => .error .keyNotText
  | (some name, value) :: rest => do
      let entry ← writeMember keys name value
      let others ← writeMembers keys rest
      return entry.append others

/-- Write an entry of a table to which some keys lead. A map is a table within it, and so is each
element of an array that holds only maps. -/
def writeMember (keys : List String) (name : String) : Datum -> Except WriteFault WrittenTable
  | .map entries =>
      .ofBlocks <$> WrittenTable.under (.table (keys ++ [name])) <$>
        writeMembers (keys ++ [name]) entries
  | .array items =>
      if !items.isEmpty && items.all Datum.isMap then
        .ofBlocks <$> writeElements (keys ++ [name]) items
      else WrittenTable.ofEntry name <$> writeInline (.array items)
  | value => WrittenTable.ofEntry name <$> writeInline value

/-- Write the elements of an array of tables to which some keys lead. -/
def writeElements (keys : List String) : List Datum -> Except WriteFault (List String)
  | [] => .ok []
  | element :: rest => do
      let blocks ← writeTable (.element keys) element
      let others ← writeElements keys rest
      return blocks ++ others

end

/-- Write a document. -/
def writeDocument (datum : Datum) : Except WriteFault String :=
  String.intercalate "\n" <$> writeTable .start datum

end Toml
end PathVersions
