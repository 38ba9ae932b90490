import PathVersions.Datum
import PathVersions.Json.Value

/-!
# Writing JSON

A datum is written as a JSON value over lines, unless one of its maps has a key that is not a text.
-/

namespace PathVersions
namespace Json

/-- Why a datum is not written. -/
inductive WriteFault
  | keyNotText
deriving DecidableEq, Repr

/-- The wording of a fault. -/
def WriteFault.message : WriteFault -> String
  | .keyNotText => "key must be a string"

namespace Value

mutual

/-- The value that a datum is written as. -/
def ofDatum : Datum -> Except WriteFault Value
  | .unit => .ok .null
  | .bool truth => .ok (.bool truth)
  | .text content => .ok (.text content)
  | .array items => .array <$> ofItems items
  | .map entries => .object <$> ofEntries entries

/-- The values that the items of an array are written as. -/
def ofItems : List Datum -> Except WriteFault (List Value)
  | [] => .ok []
  | item :: rest => do
      let value ← ofDatum item
      let others ← ofItems rest
      return value :: others

/-- The members that the entries of a map are written as. -/
def ofEntries : List (Option String × Datum) -> Except WriteFault (List (String × Value))
  | [] => .ok []
  | (none, _) :: _ => .error .keyNotText
  | (some name, datum) :: rest => do
      let value ← ofDatum datum
      let others ← ofEntries rest
      return (name, value) :: others

end

mutual

/-- What is written of a value. -/
def datum : Value -> Datum
  | .null => .unit
  | .bool truth => .bool truth
  | .text content => .text content
  | .array items => .array (itemData items)
  | .object members => .map (memberData members)

/-- What is written of the items of an array. -/
def itemData : List Value -> List Datum
  | [] => []
  | item :: rest => item.datum :: itemData rest

/-- What is written of the members of an object. -/
def memberData : List (String × Value) -> List (Option String × Datum)
  | [] => []
  | (name, value) :: rest => (some name, value.datum) :: memberData rest

end

end Value

/-- Write a datum over lines. -/
def render (datum : Datum) : Except WriteFault String := Value.pretty <$> Value.ofDatum datum

end Json
end PathVersions
