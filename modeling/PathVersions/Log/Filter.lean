import PathVersions.Log.Event
import PathVersions.Unicode.Blank

/-!
# Log filters

A filter is a list of directives, each of which sets a level for the targets that start in some
way. Of the directives for a target the one with the longest start counts.
-/

namespace PathVersions
namespace Log

/-- How much a directive lets through; nothing if there is no level. -/
abbrev Threshold : Type := Option LogLevel

/-- A field that an event has to have; `valued` says whether a value is asked for too. -/
structure FieldMatch where
  name : String
  valued : Bool
deriving DecidableEq, Repr

/-- A directive of a filter. -/
structure Directive where
  /-- How the target starts, if that matters. -/
  target? : Option String
  /-- Whether the directive is only for events inside spans of a given name. -/
  inSpan : Bool
  fields : List FieldMatch
  threshold : Threshold
deriving DecidableEq, Repr

/-- The number that a text stands for, with a plus sign or without. -/
def number? (text : List Char) : Option Nat :=
  let digits :=
    match text with
    | '+' :: rest => rest
    | _ => text
  if digits.isEmpty || !digits.all Char.isDigit then none
  else some (digits.foldl (fun value c => value * 10 + (c.toNat - '0'.toNat)) 0)

/-- The threshold of a number. -/
def thresholdOfNumber? : Nat -> Option Threshold
  | 0 => some none
  | 1 => some (some .error)
  | 2 => some (some .warn)
  | 3 => some (some .info)
  | 4 => some (some .debug)
  | 5 => some (some .trace)
  | _ => none

/-- The threshold of a name or number. -/
def threshold? (text : List Char) : Option Threshold :=
  match (number? text).bind thresholdOfNumber? with
  | some threshold => some threshold
  | none =>
      let name := String.ofList (text.map Char.toLower)
      if name == "off" then some none else (LogLevel.ofName? name).map some

/-- The threshold after an equals sign, where nothing stands for everything. With white space
around the directive it is not understood. -/
def assigned? (padded : Bool) (text : List Char) : Option Threshold :=
  if padded then none
  else if text.isEmpty then some (some .trace)
  else threshold? text

/-- Read the fields of a directive after their opening brace. -/
def readFields? (field : List Char) : List Char -> Option (List FieldMatch × List Char)
  | [] => none
  | c :: rest =>
      if c == '}' then
        if field.isEmpty then none
        else
          let (name, value) := (field.takeWhile (· != '='), field.dropWhile (· != '='))
          some ([⟨String.ofList name, !value.isEmpty⟩], rest)
      else readFields? (field ++ [c]) rest

/-- Read what may follow the span of a directive. -/
def readThreshold? (padded : Bool) : List Char -> Option Threshold
  | [] => some (some .trace)
  | '=' :: rest => assigned? padded rest
  | _ => none

/-- Read a directive with a span after its opening bracket. -/
def readSpan? (padded : Bool) (target? : Option String) (text : List Char) :
    Option Directive := do
  let ends (c : Char) : Bool := c == ']' || c == '{'
  let name := text.takeWhile (!ends ·)
  match text.dropWhile (!ends ·) with
  | ']' :: rest => return ⟨target?, true, [], ← readThreshold? padded rest⟩
  | '{' :: rest => do
      let (fields, rest) ← readFields? [] rest
      match rest with
      | ']' :: rest => return ⟨target?, !name.isEmpty, fields, ← readThreshold? padded rest⟩
      | _ => none
  | _ => none

/-- Whether a directive may start with a character. -/
def isStart (c : Char) : Bool :=
  c == '-' || c == ':' || c == '_' || Unicode.alphanumericClass.contains c

/-- A text without the white space around it. -/
def trim (text : List Char) : List Char :=
  Unicode.trimEnd (text.dropWhile Unicode.isBlank)

/-- Read a directive. A level alone is for all targets, and a target alone lets everything
through. White space around a directive is kept as a part of its target, so that nothing starts
with that target. -/
def Directive.read? (text : List Char) : Option Directive :=
  let written := trim text
  let padded := written.length != text.length
  match written with
  | [] => none
  | '[' :: rest => readSpan? padded none rest
  | c :: _ =>
      if !isStart c then none
      else
        let ends (c : Char) : Bool := c == '=' || c == '['
        let target := String.ofList (written.takeWhile (!ends ·))
        match written.dropWhile (!ends ·) with
        | '=' :: rest =>
            (assigned? padded rest).map fun threshold => ⟨some target, false, [], threshold⟩
        | '[' :: rest => readSpan? padded (some target) rest
        | _ =>
            match threshold? text with
            | some threshold => some ⟨none, false, [], threshold⟩
            | none => some ⟨some (String.ofList text), false, [], some .trace⟩

/-- The parts of a text between commas. -/
def splitCommas : List Char -> List (List Char)
  | [] => [[]]
  | c :: rest =>
      if c == ',' then [] :: splitCommas rest
      else
        match splitCommas rest with
        | [] => [[c]]
        | part :: parts => (c :: part) :: parts

/-- A list of directives. -/
abbrev Filter : Type := List Directive

namespace Filter

/-- The filter that lets the events of one level and of all graver ones through. -/
def ofLevel (level : LogLevel) : Filter := [⟨none, false, [], some level⟩]

/-- Read a filter. Without directives it lets errors through. -/
def read? (text : String) : Option Filter := do
  let parts := (splitCommas text.toList).filter fun part => !part.isEmpty
  let directives ← parts.mapM Directive.read?
  return if directives.isEmpty then ofLevel .error else directives

/-- Whether a directive is about an event that is in no span. -/
def concerns (event : Event) (directive : Directive) : Bool :=
  !directive.inSpan &&
    directive.target?.all (fun start => start.toList.isPrefixOf event.target.toList) &&
    directive.fields.all fun field =>
      !field.valued &&
        (field.name == "message" || event.fields.any fun own => own.1 == field.name)

/-- How much a directive asks of an event; the directive that asks most counts. -/
def weight (directive : Directive) : Nat × Nat :=
  (match directive.target? with
   | none => 0
   | some target => target.utf8ByteSize + 1,
   directive.fields.length)

/-- The weightier of two directives, the later one if they are equal. -/
def weightier (best? : Option Directive) (directive : Directive) : Option Directive :=
  match best? with
  | none => some directive
  | some best =>
      let (left, right) := (weight best, weight directive)
      if right.1 < left.1 || (right.1 == left.1 && right.2 < left.2) then some best
      else some directive

/-- How much a level shows, as a number. -/
def rank : LogLevel -> Nat
  | .error => 1
  | .warn => 2
  | .info => 3
  | .debug => 4
  | .trace => 5

/-- Whether a filter lets an event through. -/
def allows (filter : Filter) (event : Event) : Bool :=
  match (filter.filter (concerns event)).foldl weightier none with
  | some ⟨_, _, _, some level⟩ => rank Event.level ≤ rank level
  | _ => false

end Filter

end Log
end PathVersions
