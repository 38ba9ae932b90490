import PathVersions.Pattern.Escape

/-!
# Openings of groups

What follows an opening parenthesis: nothing, a name, or flags.
-/

namespace PathVersions
namespace Pattern

/-- The flags of an opening as far as they are read. -/
structure FlagsRead where
  on : List Flag
  off : List Flag
  negating : Bool
deriving DecidableEq, Repr

/-- Read flags up to the colon or parenthesis that ends them, and say which of the two it is. -/
def readFlags (flags : FlagsRead) : List Char -> Except Fault ((FlagChange × Char) × List Char)
  | [] => .error .flagsUnclosed
  | c :: rest =>
      if c == ':' || c == ')' then
        if flags.negating && flags.off.isEmpty then .error .flagNegationDangling
        else .ok ((⟨flags.on, flags.off⟩, c), rest)
      else if c == '-' then
        if flags.negating then .error .flagNegationRepeated
        else readFlags { flags with negating := true } rest
      else
        match Flag.ofLetter? c with
        | none => .error .flagUnknown
        | some flag =>
            if flags.on.contains flag || flags.off.contains flag then .error .flagRepeated
            else if flags.negating then readFlags { flags with off := flags.off ++ [flag] } rest
            else readFlags { flags with on := flags.on ++ [flag] } rest

/-- Whether a character can stand in the name of a group, where the first character has less
choice. -/
def isGroupNameChar (first : Bool) (c : Char) : Bool :=
  c == '_' ||
    (if first then Unicode.alphabeticClass.contains c
     else c == '.' || c == '[' || c == ']' || Unicode.alphanumericClass.contains c)

/-- Read the rest of a group's name. -/
def readGroupNameFrom (first : Bool) : List Char -> Except Fault (List Char × List Char)
  | [] => .error .groupNameUnclosed
  | c :: rest =>
      if c == '>' then .ok ([], rest)
      else if isGroupNameChar first c then do
        let (name, rest) ← readGroupNameFrom false rest
        return (c :: name, rest)
      else .error .groupNameCharacter

/-- Read a group's name, which is not empty and not the name of an earlier group. -/
def readGroupName (earlier : List (List Char)) (text : List Char) :
    Except Fault (List Char × List Char) := do
  let (name, rest) ← readGroupNameFrom true text
  if name.isEmpty then .error .groupNameEmpty
  else if earlier.contains name then .error .groupNameRepeated
  else return (name, rest)

/-- What an opening parenthesis begins. -/
inductive Opening
  | group (kind : GroupKind) (name? : Option (List Char))
  | flags (change : FlagChange)
deriving DecidableEq, Repr

/-- Read the name of a group that has one. -/
def readNamedGroup (names : List (List Char)) (text : List Char) :
    Except Fault (Opening × List Char) := do
  let (name, rest) ← readGroupName names text
  return (.group .capture (some name), rest)

/-- Read flags that hold in a group or from here on. -/
def readFlagOpening (text : List Char) : Except Fault (Opening × List Char) := do
  let ((change, ending), rest) ← readFlags ⟨[], [], false⟩ text
  if ending == ':' then return (.group (.plain change) none, rest)
  else if change == .none then .error .operandMissing
  else return (.flags change, rest)

/-- Read what follows a question mark after an opening parenthesis. -/
def readQualifier (names : List (List Char)) (text : List Char) :
    Except Fault (Opening × List Char) :=
  match text with
  | [] => .error .groupUnclosed
  | '=' :: _ => .error .lookaround
  | '!' :: _ => .error .lookaround
  | '<' :: '=' :: _ => .error .lookaround
  | '<' :: '!' :: _ => .error .lookaround
  | '<' :: rest => readNamedGroup names rest
  | 'P' :: '<' :: rest => readNamedGroup names rest
  | text => readFlagOpening text

/-- Read what follows an opening parenthesis. -/
def readOpening
    (ignoring : Bool)
    (names : List (List Char))
    (text : List Char) :
    Except Fault (Opening × List Char) :=
  match skip ignoring text with
  | '?' :: rest => readQualifier names rest
  | rest => .ok (.group .capture none, rest)

end Pattern
end PathVersions
