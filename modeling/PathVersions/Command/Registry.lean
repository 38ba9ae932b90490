import PathVersions.Command.Basic
import PathVersions.Style
import PathVersions.Unicode.Blank

/-!
# The registry of commands

Commands are registered in categories under their names. The later of two commands with the
same name in one category counts. The tables that hold them have no order of their own: commands
are found by name, and whatever is listed is put in order first.
-/

namespace PathVersions

/-- A table of values under names. It may hold its entries in any order. -/
abbrev NameMap (α : Type) : Type := List (String × α)

namespace NameMap

variable {α : Type}

/-- The value of a name. -/
def find? (name : String) : NameMap α -> Option α
  | [] => none
  | (other, value) :: rest => if other == name then some value else find? name rest

/-- Change the value of a name, which may be absent. -/
def update (name : String) (change : Option α -> α) : NameMap α -> NameMap α
  | [] => [(name, change none)]
  | (other, value) :: rest =>
      if other == name then (name, change (some value)) :: rest
      else (other, value) :: update name change rest

/-- The names of a table. -/
def names (table : NameMap α) : List String := table.map (·.1)

end NameMap

/-- The registered commands by category and name. -/
structure Registry where
  categories : NameMap (NameMap Command)

namespace Registry

/-- The registry without commands. -/
def empty : Registry := ⟨[]⟩

/-- Register a command in a category. -/
def register (registry : Registry) (category : String) (command : Command) : Registry where
  categories :=
    registry.categories.update category fun commands? =>
      NameMap.update command.metadata.name (fun _ => command) (commands?.getD [])

/-- The command of a name in a category. -/
def find? (registry : Registry) (category name : String) : Option Command :=
  (registry.categories.find? category).bind fun commands => commands.find? name

/-- Names in order. -/
def sortNames (names : List String) : List String :=
  names.mergeSort fun left right => left ≤ right

/-- Whether a category with its names may stand before another one. Names decide between equal
categories. -/
def mayPrecede (left right : String × List String) : Bool :=
  if left.1 == right.1 then ¬right.2 < left.2 else left.1 ≤ right.1

/-- The categories and the names of their commands, all in order. -/
def list (registry : Registry) : List (String × List String) :=
  let entries := registry.categories.map fun (category, commands) =>
    (category, sortNames commands.names)
  entries.mergeSort mayPrecede

/-- The fault of an unknown category. -/
def unknownCategory (category : String) : Command.Fault :=
  .notFound ("Failed to find category '" ++ category ++ "'")

/-- The fault of an unknown command. -/
def unknownCommand (category name : String) : Command.Fault :=
  .notFound ("Failed to find command '" ++ name ++ "' in category '" ++ category ++ "'")

/-- Check that the number of arguments fits the parameters of a command. -/
def checkArity (metadata : Command.Metadata) (arguments : List String) :
    Except Command.Fault Unit :=
  let least := (metadata.parameters.filter (·.required)).length
  let most := metadata.parameters.length
  let given := arguments.length
  if given < least then
    .error (.invalidArguments
      ("Expected at least " ++ toString least ++ " arguments, got " ++ toString given))
  else if most < given then
    .error (.invalidArguments
      ("Expected at most " ++ toString most ++ " arguments, got " ++ toString given))
  else .ok ()

/-- A list of texts, quoted. -/
def quoteAll (texts : List String) : String :=
  "[" ++ String.intercalate ", " (texts.map Quoted.ofString) ++ "]"

/-- The event of a command that is about to run. -/
def executing (category name : String) (arguments : List String) : Log.Event where
  target := "protopath::cli::registry"
  message := "Executing command"
  fields :=
    [("category", .text category), ("command", .text name),
     ("args", .shown (quoteAll arguments))]

/-- Run the command of a name in a category. -/
def execute (registry : Registry) (category name : String) (arguments : List String) :
    Command.Reply :=
  match registry.categories.find? category with
  | none => .of (.error (unknownCategory category))
  | some commands =>
      match commands.find? name with
      | none => .of (.error (unknownCommand category name))
      | some command =>
          match checkArity command.metadata arguments with
          | .error fault => .of (.error fault)
          | .ok () =>
              let reply := command.run arguments
              { reply with events := executing category name arguments :: reply.events }

/-- A parameter in the overview. -/
def usageOf (parameter : Command.Parameter) : String :=
  if parameter.required then " <" ++ parameter.name ++ ">" else " [" ++ parameter.name ++ "]"

/-- The line of a command in the overview. -/
def entryLine (metadata : Command.Metadata) : String :=
  "  " ++ Style.command metadata.name ++ String.join (metadata.parameters.map usageOf) ++
    "  " ++ Style.description metadata.description

/-- The lines of a category in the overview. A name without a command is passed over. -/
def categoryLines (registry : Registry) (category : String) (names : List String) :
    List String :=
  let entries := names.filterMap fun name =>
    (registry.find? category name).map fun command => entryLine command.metadata
  Style.category category :: entries ++ [""]

/-- The lines above all categories in the overview. -/
def headingLines : List String :=
  [Style.header "Usage: protopath [--config <FILE>] <category> <command> [args...]",
   Style.description "Run 'protopath help <category> <command>' for details", ""]

/-- The overview of all commands. -/
def helpText (registry : Registry) : String :=
  let lines :=
    headingLines ++ registry.list.flatMap fun (category, names) =>
      registry.categoryLines category names
  String.ofList (Unicode.trimEnd (String.intercalate "\n" lines).toList)

/-- The line of a parameter in the help of a command. -/
def parameterLine (parameter : Command.Parameter) : String :=
  "  " ++ Style.command parameter.name ++ " (" ++ Command.Parameter.kindName ++ ", " ++
    (if parameter.required then "required" else "optional") ++ ")  " ++
    Style.description parameter.description

/-- A part of the help of a command under a heading, unless it is empty. -/
def helpPart (heading : String) (lines : List String) : List String :=
  if lines.isEmpty then [] else "" :: Style.category heading :: lines

/-- The help of a command from its description. -/
def helpOf (metadata : Command.Metadata) : String :=
  String.intercalate "\n"
    ([Style.header ("protopath " ++ metadata.category ++ " " ++ metadata.name),
      Style.description metadata.description] ++
      helpPart "Arguments" (metadata.parameters.map parameterLine) ++
      helpPart "Examples" (metadata.examples.map fun line => "  " ++ line))

/-- The help of the command of a name in a category. -/
def commandHelp (registry : Registry) (category name : String) :
    Except Command.Fault String :=
  match registry.find? category name with
  | some command => .ok (helpOf command.metadata)
  | none => .error (unknownCommand category name)

end Registry

end PathVersions
