import PathVersions.Pattern.Look
import PathVersions.Unicode.CharClass

/-!
# Pattern expressions

What a pattern asks of a text once flags have been applied and classes looked up.
`Expr.Matches` says which stretches of a text an expression matches; it knows no order among
the ways to match, so that greed and the order of alternatives cannot show.
-/

namespace PathVersions
namespace Pattern

/-- An expression over texts. -/
inductive Expr
  | empty
  | chars (characters : Unicode.CharClass)
  | look (place : Look)
  | seq (first second : Expr)
  | alt (left right : Expr)
  | repetition (inner : Expr) (least : Nat) (most : Option Nat) (greedy : Bool)
  | capture (inner : Expr)
deriving DecidableEq, Repr

/-- Following a relation a number of times. -/
inductive Iterated (relation : Nat -> Nat -> Prop) : Nat -> Nat -> Nat -> Prop
  | zero (position : Nat) : Iterated relation 0 position position
  | succ {count start middle finish : Nat} :
      relation start middle ->
      Iterated relation count middle finish ->
      Iterated relation (count + 1) start finish

namespace Expr

/-- Whether an expression matches a text between two positions. -/
def Matches (text : List Char) : Expr -> Nat -> Nat -> Prop
  | .empty, start, finish => start = finish
  | .chars characters, start, finish =>
      finish = start + 1 ∧ exists c, text[start]? = some c ∧ characters.contains c = true
  | .look place, start, finish => start = finish ∧ place.holdsAt text start = true
  | .seq first second, start, finish =>
      exists middle, first.Matches text start middle ∧ second.Matches text middle finish
  | .alt left right, start, finish =>
      left.Matches text start finish ∨ right.Matches text start finish
  | .repetition inner least most _, start, finish =>
      exists count, least ≤ count ∧ (forall bound, most = some bound -> count ≤ bound) ∧
        Iterated (inner.Matches text) count start finish
  | .capture inner, start, finish => inner.Matches text start finish

/-- Whether an expression matches a whole text. -/
def MatchesAll (expression : Expr) (text : List Char) : Prop :=
  expression.Matches text 0 text.length

/-- Whether an expression matches some stretch of a text. -/
def MatchesSome (expression : Expr) (text : List Char) : Prop :=
  exists start finish, start ≤ text.length ∧ expression.Matches text start finish

/-- Expressions one after another. -/
def ofSequence : List Expr -> Expr
  | [] => .empty
  | [item] => item
  | item :: rest => .seq item (ofSequence rest)

/-- Expressions of which one is to match. After the last one stands a class without characters,
so that the branches can be told from alternatives inside a branch. -/
def ofAlternatives (branches : List Expr) : Expr := branches.foldr .alt (.chars .none)

end Expr

end Pattern
end PathVersions
