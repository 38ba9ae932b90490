import PathVersions.Pattern.Bracket
import PathVersions.Pattern.Count
import PathVersions.Pattern.Opening

/-!
# Reading patterns

A pattern is read from left to right, and the first fault ends the reading. The state of the
reading holds the group that is open innermost and the groups around it, so that a part of a
pattern is read in the same way wherever it stands, as long as it closes no group that it did
not open.
-/

namespace PathVersions
namespace Pattern

/-- A group that is being read: its finished branches and the items of its last branch, the
latest first, and whether spacing is ignored in it. -/
structure Level where
  branches : List Tree
  items : List Tree
  ignoring : Bool

namespace Level

/-- A group of which nothing has been read. -/
def start (ignoring : Bool) : Level := ⟨[], [], ignoring⟩

/-- The tree read so far. -/
def tree (level : Level) : Tree :=
  Tree.ofBranches (level.branches.reverse ++ [Tree.ofItems level.items.reverse])

/-- A group with one more item. -/
def push (level : Level) (item : Tree) : Level :=
  { level with items := item :: level.items }

/-- A group that starts another branch. -/
def branch (level : Level) : Level :=
  { level with branches := Tree.ofItems level.items.reverse :: level.branches, items := [] }

/-- A group whose last item is repeated, if it has one that can be. -/
def repeated (level : Level) (least : Nat) (most : Option Nat) (greedy : Bool) :
    Except Fault Level :=
  match level.items with
  | [] => .error .operandMissing
  | .empty :: _ => .error .operandMissing
  | .setFlags _ :: _ => .error .operandMissing
  | item :: items => .ok { level with items := .repetition item least most greedy :: items }

end Level

/-- How far the reading of a pattern has come. -/
structure Progress where
  /-- The innermost open group, or the whole pattern. -/
  level : Level
  /-- The open groups around it, the nearest first, each with the kind of the group that it
  waits for. -/
  outer : List (GroupKind × Level)
  /-- The names given to groups so far. -/
  names : List (List Char)

namespace Progress

/-- The state before anything is read. -/
def start : Progress := ⟨Level.start false, [], []⟩

/-- A state with another item in the innermost group. -/
def push (progress : Progress) (item : Tree) : Progress :=
  { progress with level := progress.level.push item }

/-- A state in which a parenthesis has been opened. -/
def opened (progress : Progress) : Opening -> Progress
  | .flags change =>
      { progress with
        level :=
          { progress.level.push (.setFlags change) with
            ignoring := change.apply .ignoreSpace progress.level.ignoring } }
  | .group kind name? =>
      { level := Level.start (kind.change.apply .ignoreSpace progress.level.ignoring)
        outer := (kind, progress.level) :: progress.outer
        names := name?.toList ++ progress.names }

/-- A state in which the innermost group has been closed. -/
def closed (progress : Progress) : Except Fault Progress :=
  match progress.outer with
  | [] => .error .groupUnopened
  | (kind, parent) :: outer =>
      .ok { progress with level := parent.push (.group kind progress.level.tree), outer }

/-- A state in which the last item is repeated. -/
def repeated (progress : Progress) (least : Nat) (most : Option Nat) (greedy : Bool) :
    Except Fault Progress := do
  return { progress with level := ← progress.level.repeated least most greedy }

/-- The tree of a pattern that has been read to its end. -/
def finish (progress : Progress) : Except Fault Tree :=
  match progress.outer with
  | [] => .ok progress.level.tree
  | _ :: _ => .error .groupUnclosed

/-- Read one step of a pattern: an item, an operator or a parenthesis. -/
def step (progress : Progress) (c : Char) (rest : List Char) :
    Except Fault (Progress × List Char) :=
  let ignoring := progress.level.ignoring
  match c with
  | '(' => do
      let (opening, rest) ← readOpening ignoring progress.names rest
      return (progress.opened opening, rest)
  | ')' => do
      return (← progress.closed, rest)
  | '|' => .ok ({ progress with level := progress.level.branch }, rest)
  | '[' => do
      let (item, rest) ← readBracket ignoring rest
      return (progress.push item, rest)
  | '?' => do
      let (greedy, rest) := readGreed rest
      return (← progress.repeated 0 (some 1) greedy, rest)
  | '*' => do
      let (greedy, rest) := readGreed rest
      return (← progress.repeated 0 none greedy, rest)
  | '+' => do
      let (greedy, rest) := readGreed rest
      return (← progress.repeated 1 none greedy, rest)
  | '{' => do
      let _ ← progress.repeated 0 none true
      let ((least, most, greedy), rest) ← readRepetition ignoring rest
      return (← progress.repeated least most greedy, rest)
  | '\\' => do
      let (atom, rest) ← readEscape ignoring rest
      return (progress.push atom.tree, rest)
  | '.' => .ok (progress.push .dot, rest)
  | '^' => .ok (progress.push (.anchor .lineStart), rest)
  | '$' => .ok (progress.push (.anchor .lineEnd), rest)
  | c => .ok (progress.push (.literal ⟨c, false⟩), rest)

/-- Read a pattern to its end. A step leaves less text than it finds, so the check of the
length always succeeds. -/
def run (progress : Progress) (text : List Char) : Except Fault Progress :=
  match skip progress.level.ignoring text with
  | [] => .ok progress
  | c :: rest => do
      let (next, after) ← progress.step c rest
      if _shorter : after.length < text.length then next.run after
      else .error .groupUnclosed
termination_by text.length

end Progress

/-- The deepest nesting that is accepted. -/
def nestingLimit : Nat := 250

/-- Read a pattern to its end from some state on. Nesting is only looked at once the whole pattern
has been read. -/
def Progress.read (progress : Progress) (text : List Char) : Except Fault Tree := do
  let last ← progress.run text
  let tree ← last.finish
  if tree.depth ≤ nestingLimit then return tree else .error .nestingTooDeep

/-- Read a pattern. -/
def Tree.read (text : List Char) : Except Fault Tree := Progress.start.read text

end Pattern
end PathVersions
