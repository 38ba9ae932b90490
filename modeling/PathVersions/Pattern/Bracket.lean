import PathVersions.Pattern.Escape

/-!
# Bracketed sets

Reading what stands between brackets: characters, ranges, escapes, named classes, nested
brackets and the operators between them. Operators bind equally tightly and to the left.
-/

namespace PathVersions
namespace Pattern

/-- A bracketed set that is being read: the operator that awaits its right side, with its left
side, and the items since then, the latest first. -/
structure OpenSet where
  negated : Bool
  pending : Option (SetOperator × SetTree)
  items : List SetTree

namespace OpenSet

/-- The set read so far. -/
def set (level : OpenSet) : SetTree :=
  let current := SetTree.ofItems level.items.reverse
  match level.pending with
  | none => current
  | some (operator, left) => .binary operator left current

/-- A set with one more item. -/
def push (level : OpenSet) (item : SetTree) : OpenSet :=
  { level with items := item :: level.items }

/-- A set whose operator awaits its right side. -/
def operate (level : OpenSet) (operator : SetOperator) : OpenSet :=
  { level with pending := some (operator, level.set), items := [] }

end OpenSet

/-- Read a caret that negates what follows it. -/
def readCaret : List Char -> Bool × List Char
  | '^' :: rest => (true, rest)
  | text => (false, text)

/-- Read a named class such as `:alpha:]`; what is not one is left alone. -/
def readNamedClass? (text : List Char) : Option (SetTree × List Char) :=
  match text with
  | ':' :: rest =>
      let (negated, rest) := readCaret rest
      match rest.dropWhile (· != ':') with
      | ':' :: ']' :: after =>
          (NamedClass.ofName? (rest.takeWhile (· != ':'))).map fun kind =>
            (.named kind negated, after)
      | _ => none
  | _ => none

/-- Read hyphens at the start of a set, each standing for itself. -/
def readHyphens (ignoring : Bool) (items : List SetTree) (text : List Char) :
    List SetTree × List Char :=
  match text with
  | '-' :: rest => readHyphens ignoring (.literal ⟨'-', false⟩ :: items) (skip ignoring rest)
  | _ => (items, text)
termination_by text.length
decreasing_by
  have shorter := skip_length_le ignoring rest
  simp only [List.length_cons]
  omega

/-- Read a closing bracket that stands for itself, as it does where a set has no item yet. -/
def readFirstBracket (ignoring : Bool) (items : List SetTree) (text : List Char) :
    List SetTree × List Char :=
  match items, text with
  | [], ']' :: rest => ([.literal ⟨']', false⟩], skip ignoring rest)
  | items, text => (items, text)

/-- Read the start of a set, after a caret that may negate it: hyphens, or a closing bracket that
stands for itself. -/
def readSetStart
    (ignoring negated : Bool)
    (text : List Char) :
    Except Fault (OpenSet × List Char) :=
  let (items, rest) := readHyphens ignoring [] (skip ignoring text)
  let (items, rest) := readFirstBracket ignoring items rest
  if rest.isEmpty then .error .classUnclosed else .ok (⟨negated, none, items⟩, rest)

/-- Read the start of a set, after its bracket. -/
def readSetOpening (ignoring : Bool) (text : List Char) : Except Fault (OpenSet × List Char) :=
  let (negated, rest) := readCaret (skip ignoring text)
  readSetStart ignoring negated rest

/-- Read a character or an escape. -/
def readSetAtom (ignoring : Bool) (text : List Char) : Except Fault (Atom × List Char) :=
  match text with
  | [] => .error .classUnclosed
  | '\\' :: rest => readEscape ignoring rest
  | c :: rest => .ok (.literal ⟨c, false⟩, rest)

/-- Read the last end of a range, after its hyphen. -/
def readRange
    (ignoring : Bool)
    (first : Atom)
    (text : List Char) :
    Except Fault (SetTree × List Char) :=
  match skip ignoring text with
  | [] => .error .classUnclosed
  | text => do
      let (second, rest) ← readSetAtom ignoring text
      let first ← first.boundary
      let last ← second.boundary
      if last.char < first.char then .error .rangeReversed
      else return (.range first last, rest)

/-- Read what follows the first character or escape of an item, which is a range if a hyphen and
another end follow. A hyphen before a closing bracket or another hyphen does not make a range. -/
def readSetItemEnd
    (ignoring : Bool)
    (first : Atom)
    (text : List Char) :
    Except Fault (SetTree × List Char) :=
  match skip ignoring text with
  | [] => .error .classUnclosed
  | '-' :: after =>
      let next := glimpse ignoring after
      if next == some ']' || next == some '-' then do
        return (← first.setItem, '-' :: after)
      else readRange ignoring first after
  | rest => do return (← first.setItem, rest)

/-- Read a single item or a range. -/
def readSetItem (ignoring : Bool) (text : List Char) : Except Fault (SetTree × List Char) := do
  let (first, rest) ← readSetAtom ignoring text
  readSetItemEnd ignoring first rest

/-- What the next characters of a set do. -/
inductive SetStep
  | item (item : SetTree)
  | opening (level : OpenSet)
  | operator (operator : SetOperator)
  | closing

/-- Read one step of a set. -/
def readSetStep (ignoring : Bool) (text : List Char) : Except Fault (SetStep × List Char) :=
  match skip ignoring text with
  | [] => .error .classUnclosed
  | '[' :: rest =>
      match readNamedClass? rest with
      | some (item, rest) => .ok (.item item, rest)
      | none => do
          let (level, rest) ← readSetOpening ignoring rest
          return (.opening level, rest)
  | ']' :: rest => .ok (.closing, rest)
  | '&' :: '&' :: rest => .ok (.operator .intersection, rest)
  | '-' :: '-' :: rest => .ok (.operator .difference, rest)
  | '~' :: '~' :: rest => .ok (.operator .symmetricDifference, rest)
  | text => do
      let (item, rest) ← readSetItem ignoring text
      return (.item item, rest)

/-- Read a set and the sets around it to the end of the outermost one. A step leaves less text
than it finds, so the check of the length always succeeds. -/
def readSet
    (ignoring : Bool)
    (level : OpenSet)
    (outer : List OpenSet)
    (text : List Char) :
    Except Fault (Tree × List Char) := do
  let (step, rest) ← readSetStep ignoring text
  if _shorter : rest.length < text.length then
    match step with
    | .item item => readSet ignoring (level.push item) outer rest
    | .operator operator => readSet ignoring (level.operate operator) outer rest
    | .opening inner => readSet ignoring inner (level :: outer) rest
    | .closing =>
        match outer with
        | [] => return (.bracket level.negated level.set, rest)
        | parent :: outer =>
            readSet ignoring (parent.push (.bracket level.negated level.set)) outer rest
  else .error .classUnclosed
termination_by text.length

/-- Read a bracketed set, after its opening bracket. -/
def readBracket (ignoring : Bool) (text : List Char) : Except Fault (Tree × List Char) := do
  let (level, rest) ← readSetOpening ignoring text
  readSet ignoring level [] rest

end Pattern
end PathVersions
