import PathVersions.Number.Binary64

/-!
# TOML documents as trees

The values of a document, each with the place where it stands. A place is measured from the end
of the document, by the characters that are left where it starts and where it ends, so that
reading needs no count of what it has passed.
-/

namespace PathVersions
namespace Toml

/-- A stretch of a document: how many characters are left at its start and at its end. -/
structure Span where
  start : Nat
  finish : Nat
deriving DecidableEq, Repr

/-- The stretch from one rest of a document to a later one. -/
def Span.between (text rest : List Char) : Span := ⟨text.length, rest.length⟩

/-- A key and where it stands. -/
structure Key where
  name : String
  span : Span
deriving DecidableEq, Repr

/-- How a table has come about, which decides how it can be extended. -/
inductive TableOrigin
  /-- By its own header. -/
  | header
  /-- By the header of a table inside it. -/
  | outerHeader
  /-- By a dotted key. -/
  | dottedKey
  /-- Between braces. -/
  | braces
deriving DecidableEq, Repr

/-- How an array has come about. -/
inductive ArrayOrigin
  /-- By the headers of its tables. -/
  | headers
  /-- Between brackets. -/
  | brackets
deriving DecidableEq, Repr

/-- A value of a document. The value of a number may be missing, for which nothing but its use is
at fault. -/
inductive Node
  | text (span : Span) (content : String)
  | integer (span : Span) (value? : Option Int)
  | float (span : Span) (value? : Option Number.Binary64)
  | boolean (span : Span) (truth : Bool)
  /-- A date, a time or both, as written. -/
  | moment (span : Span) (written : String)
  | array (span : Span) (origin : ArrayOrigin) (items : List Node)
  | table (span : Span) (origin : TableOrigin) (entries : List (Key × Node))
deriving Repr

/-- The entries of a table in the order in which they were added. -/
abbrev Entries : Type := List (Key × Node)

/-- Where a value stands. -/
def Node.span : Node -> Span
  | .text span _ => span
  | .integer span _ => span
  | .float span _ => span
  | .boolean span _ => span
  | .moment span _ => span
  | .array span _ _ => span
  | .table span _ _ => span

/-- Whether every number in a value has a value itself. -/
def Node.numbersHaveValues : Node -> Bool
  | .text _ _ => true
  | .integer _ value? => value?.isSome
  | .float _ value? => value?.isSome
  | .boolean _ _ => true
  | .moment _ _ => true
  | .array _ _ items => inItems items
  | .table _ _ entries => inEntries entries
where
  /-- Whether every number in the items of an array has a value. -/
  inItems : List Node -> Bool
    | [] => true
    | item :: rest => item.numbersHaveValues && inItems rest
  /-- Whether every number in the entries of a table has a value. -/
  inEntries : List (Key × Node) -> Bool
    | [] => true
    | (_, node) :: rest => node.numbersHaveValues && inEntries rest

/-- Entries in the order of their names. -/
def Entries.sorted (entries : Entries) : Entries :=
  entries.mergeSort fun left right => left.1.name ≤ right.1.name

/-- The entry of a name. -/
def Entries.find? (entries : Entries) (name : String) : Option (Key × Node) :=
  List.find? (fun entry => entry.1.name == name) entries

end Toml
end PathVersions
