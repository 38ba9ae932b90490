import PathVersions.Unicode.Property

/-!
# Pattern trees

The shape of a pattern as it is written, before flags are applied and names of character
properties are looked up. `Tree.depth` counts how deeply a tree is nested.
-/

namespace PathVersions
namespace Pattern

/-- A mode that a pattern can switch on or off. -/
inductive Flag
  | ignoreCase
  | multiLine
  | dotAll
  | swapGreed
  | unicode
  | crlf
  | ignoreSpace
deriving DecidableEq, Repr

/-- The flag a letter stands for. -/
def Flag.ofLetter? : Char -> Option Flag
  | 'i' => some .ignoreCase
  | 'm' => some .multiLine
  | 's' => some .dotAll
  | 'U' => some .swapGreed
  | 'u' => some .unicode
  | 'R' => some .crlf
  | 'x' => some .ignoreSpace
  | _ => none

/-- Flags that are switched on and flags that are switched off together. -/
structure FlagChange where
  on : List Flag
  off : List Flag
deriving DecidableEq, Repr

namespace FlagChange

/-- The change that changes nothing. -/
def none : FlagChange := ⟨[], []⟩

/-- What a change makes of a flag that had a value before. -/
def apply (change : FlagChange) (flag : Flag) (before : Bool) : Bool :=
  if change.on.contains flag then true
  else if change.off.contains flag then false
  else before

@[simp] theorem apply_none (flag : Flag) (before : Bool) :
    none.apply flag before = before := by
  simp [apply, none]

end FlagChange

/-- A single character of a pattern; `byte` says that it was written as the number of a byte. -/
structure Literal where
  char : Char
  byte : Bool
deriving DecidableEq, Repr

/-- A place in the text. -/
inductive Anchor
  | lineStart
  | lineEnd
  | textStart
  | textEnd
  | wordBoundary
  | notWordBoundary
  | wordStart
  | wordEnd
  | wordStartHalf
  | wordEndHalf
deriving DecidableEq, Repr

/-- The classes with an escape of one letter. -/
inductive ShortClass
  | digit
  | space
  | word
deriving DecidableEq, Repr

/-- The classes of ASCII characters that can be named inside brackets. -/
inductive NamedClass
  | alnum
  | alpha
  | ascii
  | blank
  | cntrl
  | digit
  | graph
  | lower
  | print
  | punct
  | space
  | upper
  | word
  | xdigit
deriving DecidableEq, Repr

namespace NamedClass

/-- The classes with their names. -/
def names : List (List Char × NamedClass) :=
  [("alnum".toList, alnum), ("alpha".toList, alpha), ("ascii".toList, ascii),
    ("blank".toList, blank), ("cntrl".toList, cntrl), ("digit".toList, digit),
    ("graph".toList, graph), ("lower".toList, lower), ("print".toList, print),
    ("punct".toList, punct), ("space".toList, space), ("upper".toList, upper),
    ("word".toList, word), ("xdigit".toList, xdigit)]

/-- The class of a name. -/
def ofName? (name : List Char) : Option NamedClass := names.lookup name

/-- The characters of a named class. -/
def characters : NamedClass -> Unicode.CharClass
  | alnum => .ranges [⟨0x30, 0x39⟩, ⟨0x41, 0x5a⟩, ⟨0x61, 0x7a⟩]
  | alpha => .ranges [⟨0x41, 0x5a⟩, ⟨0x61, 0x7a⟩]
  | ascii => .ranges [⟨0x00, 0x7f⟩]
  | blank => .ranges [⟨0x09, 0x09⟩, ⟨0x20, 0x20⟩]
  | cntrl => .ranges [⟨0x00, 0x1f⟩, ⟨0x7f, 0x7f⟩]
  | digit => .ranges [⟨0x30, 0x39⟩]
  | graph => .ranges [⟨0x21, 0x7e⟩]
  | lower => .ranges [⟨0x61, 0x7a⟩]
  | print => .ranges [⟨0x20, 0x7e⟩]
  | punct => .ranges [⟨0x21, 0x2f⟩, ⟨0x3a, 0x40⟩, ⟨0x5b, 0x60⟩, ⟨0x7b, 0x7e⟩]
  | space => .ranges [⟨0x09, 0x0d⟩, ⟨0x20, 0x20⟩]
  | upper => .ranges [⟨0x41, 0x5a⟩]
  | word => .ranges [⟨0x30, 0x39⟩, ⟨0x41, 0x5a⟩, ⟨0x5f, 0x5f⟩, ⟨0x61, 0x7a⟩]
  | xdigit => .ranges [⟨0x30, 0x39⟩, ⟨0x41, 0x46⟩, ⟨0x61, 0x66⟩]

end NamedClass

/-- What joins two sets inside brackets. -/
inductive SetOperator
  | intersection
  | difference
  | symmetricDifference
deriving DecidableEq, Repr

/-- What stands between brackets. -/
inductive SetTree
  | literal (literal : Literal)
  | range (first last : Literal)
  | named (kind : NamedClass) (negated : Bool)
  | short (kind : ShortClass) (negated : Bool)
  | property (query : Unicode.PropertyQuery) (negated : Bool)
  | bracket (negated : Bool) (inner : SetTree)
  | union (items : List SetTree)
  | binary (operator : SetOperator) (left right : SetTree)

namespace SetTree

/-- The set of the items between two operators: nothing is added around a single item. -/
def ofItems : List SetTree -> SetTree
  | [item] => item
  | items => .union items

mutual

/-- How deeply a set is nested. -/
def depth : SetTree -> Nat
  | .literal _ => 0
  | .range _ _ => 0
  | .named _ _ => 0
  | .short _ _ => 0
  | .property _ _ => 0
  | .bracket _ inner => inner.depth + 1
  | .union [] => 0
  | .union (item :: rest) => max item.depth (depths rest) + 1
  | .binary _ left right => max left.depth right.depth + 1

/-- The greatest nesting of some sets. -/
def depths : List SetTree -> Nat
  | [] => 0
  | item :: rest => max item.depth (depths rest)

end

end SetTree

/-- The parentheses around a part of a pattern. -/
inductive GroupKind
  | capture
  | plain (change : FlagChange)
deriving DecidableEq, Repr

/-- The flags that a group's opening changes. -/
def GroupKind.change : GroupKind -> FlagChange
  | .capture => .none
  | .plain change => change

/-- A pattern as it is written. -/
inductive Tree
  | empty
  | setFlags (change : FlagChange)
  | literal (literal : Literal)
  | dot
  | anchor (anchor : Anchor)
  | short (kind : ShortClass) (negated : Bool)
  | property (query : Unicode.PropertyQuery) (negated : Bool)
  | bracket (negated : Bool) (inner : SetTree)
  | repetition (inner : Tree) (least : Nat) (most : Option Nat) (greedy : Bool)
  | group (kind : GroupKind) (inner : Tree)
  | concatenation (items : List Tree)
  | alternation (branches : List Tree)

namespace Tree

/-- The tree of consecutive items: nothing is added around a single item. -/
def ofItems : List Tree -> Tree
  | [] => .empty
  | [item] => item
  | items => .concatenation items

/-- The tree of alternative branches: nothing is added around a single branch. -/
def ofBranches : List Tree -> Tree
  | [branch] => branch
  | branches => .alternation branches

mutual

/-- How deeply a tree is nested: groups, repetitions, brackets, concatenations and
alternations each count once. -/
def depth : Tree -> Nat
  | .empty => 0
  | .setFlags _ => 0
  | .literal _ => 0
  | .dot => 0
  | .anchor _ => 0
  | .short _ _ => 0
  | .property _ _ => 0
  | .bracket _ inner => inner.depth + 1
  | .repetition inner _ _ _ => inner.depth + 1
  | .group _ inner => inner.depth + 1
  | .concatenation items => depths items + 1
  | .alternation branches => depths branches + 1

/-- The greatest nesting of some trees. -/
def depths : List Tree -> Nat
  | [] => 0
  | item :: rest => max item.depth (depths rest)

end

end Tree

end Pattern
end PathVersions
