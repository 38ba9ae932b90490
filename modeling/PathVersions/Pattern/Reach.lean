import PathVersions.Pattern.Expr

/-!
# Searching

Deciding whether an expression matches anywhere in a text. A set of positions is a number
whose bit for each position says whether the position is in the set. `Expr.walk` looks up, once
for a text, where each class and each condition holds, and `Walk.reach` gives the positions at
which an expression can end when it starts at one of a set. All ways to match are followed at
once, so no pattern takes more than polynomial time.
-/

namespace PathVersions
namespace Pattern

/-- A set of positions in a text. -/
abbrev Positions : Type := Nat

namespace Positions

/-- The positions of the characters that belong to a class. -/
def ofClass (characters : Unicode.CharClass) : List Char -> Positions
  | [] => 0
  | c :: rest => 2 * ofClass characters rest + (characters.contains c).toNat

/-- The positions at which a condition holds, the first of them after a given character. -/
def ofLook (look : Look) (before : Option Char) : List Char -> Positions
  | [] => (look.holds before none).toNat
  | c :: rest => 2 * ofLook look (some c) rest + (look.holds before (some c)).toNat

/-- All positions of a text, from before its first to after its last character. -/
def all (text : List Char) : Positions := Nat.pow 2 (text.length + 1) - 1

/-- The positions of one set that are not in another. -/
def without (set other : Positions) : Positions := (set ||| other) ^^^ other

/-- Apply a step a number of times; a set that the step keeps is not stepped again. -/
def times (step : Positions -> Positions) : Nat -> Positions -> Positions
  | 0, set => set
  | count + 1, set =>
      let next := step set
      if next == set then set else times step count next

/-- Add what a number of steps reaches. Only the positions that the step before added are
stepped from. -/
def closure (step : Positions -> Positions) : Nat -> Positions -> Positions -> Positions
  | 0, reached, _ => reached
  | count + 1, reached, fresh =>
      if fresh == 0 then reached
      else
        let next := without (step fresh) reached
        closure step count (reached ||| next) next

end Positions

/-- How to move about in one text. -/
inductive Walk
  /-- Go nowhere, from some positions only. -/
  | stay (places : Positions)
  /-- Go one character on, from some positions only. -/
  | step (places : Positions)
  | seq (first second : Walk)
  | alt (left right : Walk)
  /-- Take a walk a number of times, and then up to a number of times more. -/
  | again (inner : Walk) (least further : Nat)
deriving DecidableEq, Repr

namespace Walk

/-- The positions that a walk can end at when it starts in a set of positions. -/
def reach : Walk -> Positions -> Positions
  | .stay places, starts => starts &&& places
  | .step places, starts => 2 * (starts &&& places)
  | .seq first second, starts => second.reach (first.reach starts)
  | .alt left right, starts => left.reach starts ||| right.reach starts
  | .again inner least further, starts =>
      let base := Positions.times inner.reach least starts
      Positions.closure inner.reach further base base

end Walk

namespace Expr

/-- The walks over a text that an expression matches. No walk goes on to new positions more
often than the text has positions, and none is taken at least more often than at most. -/
def walk (text : List Char) : Expr -> Walk
  | .empty => .stay (Positions.all text)
  | .chars characters => .step (Positions.ofClass characters text)
  | .look place => .stay (Positions.ofLook place none text)
  | .seq first second => .seq (first.walk text) (second.walk text)
  | .alt left right => .alt (left.walk text) (right.walk text)
  | .repetition inner least none _ => .again (inner.walk text) least (text.length + 1)
  | .repetition inner least (some most) _ =>
      if least ≤ most then .again (inner.walk text) least (most - least) else .stay 0
  | .capture inner => inner.walk text

/-- Whether an expression matches some stretch of a text. -/
def foundIn (expression : Expr) (text : List Char) : Bool :=
  (expression.walk text).reach (Positions.all text) != 0

end Expr

end Pattern
end PathVersions
