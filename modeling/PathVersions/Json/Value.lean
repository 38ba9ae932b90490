import PathVersions.Json.Quoted

/-!
# JSON values

Values without numbers, and their layout over lines with an indentation of two spaces.
-/

namespace PathVersions
namespace Json

/-- A JSON value. The members of an object are in the order in which they are written. -/
inductive Value
  | null
  | bool (truth : Bool)
  | text (content : String)
  | array (items : List Value)
  | object (members : List (String × Value))
deriving Repr

namespace Value

/-- A quoted text. -/
def quoted (content : String) : String := String.ofList (encode content.toList)

/-- The start of a line at a depth of nesting. -/
def newline (depth : Nat) : String := "\n" ++ String.ofList (List.replicate (2 * depth) ' ')

mutual

/-- Lay out a value that stands at a depth of nesting. -/
def layout (depth : Nat) : Value -> String
  | .null => "null"
  | .bool true => "true"
  | .bool false => "false"
  | .text content => quoted content
  | .array [] => "[]"
  | .array (item :: rest) =>
      "[" ++ newline (depth + 1) ++ item.layout (depth + 1) ++ layoutItems (depth + 1) rest ++
        newline depth ++ "]"
  | .object [] => "\x7b\x7d"
  | .object ((name, value) :: rest) =>
      "\x7b" ++ newline (depth + 1) ++ quoted name ++ ": " ++ value.layout (depth + 1) ++
        layoutMembers (depth + 1) rest ++ newline depth ++ "\x7d"

/-- Lay out the items after the first one. -/
def layoutItems (depth : Nat) : List Value -> String
  | [] => ""
  | item :: rest => "," ++ newline depth ++ item.layout depth ++ layoutItems depth rest

/-- Lay out the members after the first one. -/
def layoutMembers (depth : Nat) : List (String × Value) -> String
  | [] => ""
  | (name, value) :: rest =>
      "," ++ newline depth ++ quoted name ++ ": " ++ value.layout depth ++
        layoutMembers depth rest

end

/-- A value laid out over lines. -/
def pretty (value : Value) : String := value.layout 0

mutual

/-- A value on one line. -/
def line : Value -> String
  | .null => "null"
  | .bool true => "true"
  | .bool false => "false"
  | .text content => quoted content
  | .array items => "[" ++ String.intercalate "," (lines items) ++ "]"
  | .object members => "\x7b" ++ String.intercalate "," (memberLines members) ++ "\x7d"

/-- Each value on one line. -/
def lines : List Value -> List String
  | [] => []
  | item :: rest => item.line :: lines rest

/-- Each member on one line. -/
def memberLines : List (String × Value) -> List String
  | [] => []
  | (name, value) :: rest => (quoted name ++ ":" ++ value.line) :: memberLines rest

end

end Value

end Json
end PathVersions
