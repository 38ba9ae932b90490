import PathVersions.Json.Value

/-!
# JSON schemas

Descriptions of what a JSON value may look like, and the values that publish them.
-/

namespace PathVersions
namespace Json

/-- What a value may look like, each with a description for readers. -/
inductive Schema
  /-- Any text. -/
  | text (description : String)
  /-- Any text, or nothing. -/
  | textOrNull (description : String)
  /-- One text only. -/
  | constant (description content : String)
  /-- What exactly one of some schemas allows. -/
  | oneOf (description : String) (choices : List Schema)
  /-- An object. Each of its properties may be absent, and it may have more properties. -/
  | object (description : String) (properties : List (String × Schema))
  /-- What the definition of a name allows, with a default for when the value is absent. -/
  | reference (description name : String) (default : Value)
deriving Repr

namespace Schema

mutual

/-- The members of the object that publishes a schema. -/
def members : Schema -> List (String × Value)
  | .text description => [("description", .text description), ("type", .text "string")]
  | .textOrNull description =>
      [("description", .text description), ("type", .array [.text "string", .text "null"])]
  | .constant description content =>
      [("description", .text description), ("type", .text "string"), ("const", .text content)]
  | .oneOf description choices =>
      [("description", .text description), ("oneOf", .array (values choices))]
  | .object description properties =>
      [("description", .text description), ("type", .text "object"),
       ("properties", .object (named properties))]
  | .reference description name default =>
      [("description", .text description), ("$ref", .text ("#/$defs/" ++ name)),
       ("default", default)]

/-- The values that publish some schemas. -/
def values : List Schema -> List Value
  | [] => []
  | schema :: rest => .object schema.members :: values rest

/-- The members that publish some schemas under their names. -/
def named : List (String × Schema) -> List (String × Value)
  | [] => []
  | (name, schema) :: rest => (name, .object schema.members) :: named rest

end

end Schema

/-- A schema with a title and the definitions that it refers to. -/
structure SchemaDocument where
  title : String
  root : Schema
  definitions : List (String × Schema)
deriving Repr

/-- The value that publishes a schema with its definitions. -/
def SchemaDocument.value (document : SchemaDocument) : Value :=
  let heading :=
    [("$schema", .text "https://json-schema.org/draft/2020-12/schema"),
     ("title", .text document.title)]
  let definitions :=
    if document.definitions.isEmpty then []
    else [("$defs", .object (Schema.named document.definitions))]
  .object (heading ++ document.root.members ++ definitions)

end Json
end PathVersions
