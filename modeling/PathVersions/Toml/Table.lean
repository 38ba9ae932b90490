import PathVersions.Toml.Node

/-!
# Building tables

A table is built entry by entry. Nothing that a document has said is ever changed: a name is
given once, a table is opened by a header once, and only some tables can be extended later.
-/

namespace PathVersions
namespace Toml

/-- A way to extend the entries of a table, which depends on how the table has come about. -/
abbrev Extension : Type := TableOrigin -> Entries -> Option Entries

namespace Entries

/-- Change the value of a name. -/
def replace (name : String) (node : Node) : Entries -> Entries
  | [] => []
  | (key, other) :: rest =>
      if key.name == name then (key, node) :: rest else (key, other) :: replace name node rest

/-- Change the last item of an array, if it has one. -/
def changeLast? (change : Node -> Option Node) : List Node -> Option (List Node)
  | [] => none
  | [item] => (change item).map fun changed => [changed]
  | item :: next :: rest => (changeLast? change (next :: rest)).map (item :: ·)

/-- Extend a table that a path leads to. Tables on the way that are absent come about. Whether
the path is a dotted key decides which tables it may lead through: such a key does not lead
into a table with a header, and nothing leads into a table between braces. In an array of
tables the path goes on in the last one. -/
def descend (dotted : Bool) (extension : Extension) : List Key -> Extension
  | [], origin, entries => extension origin entries
  | key :: path, _, entries =>
      match entries.find? key.name with
      | none => do
          let origin := if dotted then .dottedKey else .outerHeader
          let inner ← descend dotted extension path origin []
          return entries ++ [(key, .table key.span origin inner)]
      | some (_, .table span origin inner) =>
          if origin == .braces || (dotted && origin == .header) then none
          else do
            let inner ← descend dotted extension path origin inner
            return entries.replace key.name (.table span origin inner)
      | some (_, .array span .headers items) => do
          let items ←
            changeLast? (fun
              | .table span origin inner => do
                  return .table span origin (← descend dotted extension path origin inner)
              | _ => none) items
          return entries.replace key.name (.array span .headers items)
      | some _ => none

/-- Add an entry to a table of some origin. A dotted key only adds to tables that dotted keys
have made. -/
def add (dotted : Bool) (key : Key) (node : Node) : Extension
  | origin, entries =>
      if dotted != (origin == .dottedKey) then none
      else if (entries.find? key.name).isSome then none
      else some (entries ++ [(key, node)])

/-- Add an entry under a dotted key, whose last part is given apart. -/
def assign (path : List Key) (key : Key) (node : Node) (entries : Entries) : Option Entries :=
  descend true (add (!path.isEmpty) key node) path .header entries

/-- The entries that a header finds in its table: those that headers of inner tables have
made. -/
def opened (key : Key) (entries : Entries) : Option Entries :=
  match entries.find? key.name with
  | none => some []
  | some (_, .table _ .outerHeader inner) => some inner
  | some _ => none

/-- Put a table with a header into the table around it. -/
def place (key : Key) (node : Node) : Extension
  | _, entries =>
      if (entries.find? key.name).isSome then some (entries.replace key.name node)
      else some (entries ++ [(key, node)])

/-- Add a table to the array of tables of a name. -/
def append (key : Key) (span : Span) (node : Node) : Extension
  | _, entries =>
      match entries.find? key.name with
      | none => some (entries ++ [(key, .array span .headers [node])])
      | some (_, .array span .headers items) =>
          some (entries.replace key.name (.array span .headers (items ++ [node])))
      | some _ => none

end Entries

end Toml
end PathVersions
