import PathVersions.Config.LogLevel
import PathVersions.Json.Value
import PathVersions.Text.Quoted

/-!
# Log events

What is logged, and the two forms in which an event is written.
-/

namespace PathVersions
namespace Log

/-- The value of a field. -/
inductive FieldValue
  /-- A text, which is quoted between other text. -/
  | text (content : String)
  /-- A text that is written as it is. -/
  | shown (content : String)
deriving DecidableEq, Repr

/-- An event. All events are for finding faults. -/
structure Event where
  /-- The part of the program that reports the event. -/
  target : String
  message : String
  fields : List (String × FieldValue)
deriving DecidableEq, Repr

namespace Event

/-- The level of all events. -/
def level : LogLevel := .debug

/-- The name of the level of all events, as it is written. -/
def levelName : String := "DEBUG"

/-- A field between other text. -/
def compactField : String × FieldValue -> String
  | (name, .text content) => " " ++ name ++ "=" ++ Quoted.ofString content
  | (name, .shown content) => " " ++ name ++ "=" ++ content

/-- An event as text. -/
def compact (event : Event) : String :=
  levelName ++ " " ++ event.target ++ ": " ++ event.message ++
    String.join (event.fields.map compactField)

/-- A field as a member of an object. -/
def member : String × FieldValue -> String × Json.Value
  | (name, .text content) => (name, .text content)
  | (name, .shown content) => (name, .text content)

/-- An event as a JSON value. -/
def toJson (event : Event) : Json.Value :=
  .object
    [("level", .text levelName),
     ("fields", .object (("message", .text event.message) :: event.fields.map member)),
     ("target", .text event.target)]

end Event

/-- A form in which events are written. -/
inductive Format
  | compact
  | json
deriving DecidableEq, Repr

/-- The form that a setting asks for. -/
def Format.ofSetting (setting? : Option String) : Format :=
  if setting? == some "json" then .json else .compact

end Log
end PathVersions
