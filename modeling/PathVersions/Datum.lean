/-!
# Data

What is known of a value to those that write it, whatever the format is. A structure is a map from
the names of its fields, and a value that is one of several names is the text of its name. Nothing
that is written here has numbers, and so data have none.
-/

namespace PathVersions

/-- What is written of a value. -/
inductive Datum
  /-- A value that says nothing. -/
  | unit
  | bool (truth : Bool)
  | text (content : String)
  | array (items : List Datum)
  /-- The entries of a map in the order in which they are written. The name of an entry is missing
  if its key is not a text. -/
  | map (entries : List (Option String × Datum))
deriving Repr

namespace Datum

/-- The name of the kind of a datum. -/
def kind : Datum -> String
  | .unit => "unit"
  | .bool _ => "bool"
  | .text _ => "string"
  | .array _ => "array"
  | .map _ => "map"

/-- Whether a datum is a map. -/
def isMap : Datum -> Bool
  | .map _ => true
  | _ => false

end Datum
end PathVersions
