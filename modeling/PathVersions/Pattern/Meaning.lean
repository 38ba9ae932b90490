import PathVersions.Pattern.Expr
import PathVersions.Pattern.Fault
import PathVersions.Pattern.Tree
import PathVersions.Unicode.Blank

/-!
# The meaning of pattern trees

Applying flags and looking up classes turns a tree into an expression. Flags set inside a
group hold to the end of that group, across its branches. Since texts are text and not bytes,
whatever could match a part of a character is refused.
-/

namespace PathVersions
namespace Pattern

/-- The modes that a part of a pattern is read in. -/
structure Modes where
  ignoreCase : Bool
  multiLine : Bool
  dotAll : Bool
  swapGreed : Bool
  unicode : Bool
  crlf : Bool
deriving DecidableEq, Repr

namespace Modes

/-- The modes at the start of a pattern. -/
def start : Modes := ⟨false, false, false, false, true, false⟩

/-- Modes after a change of flags. -/
def change (modes : Modes) (change : FlagChange) : Modes where
  ignoreCase := change.apply .ignoreCase modes.ignoreCase
  multiLine := change.apply .multiLine modes.multiLine
  dotAll := change.apply .dotAll modes.dotAll
  swapGreed := change.apply .swapGreed modes.swapGreed
  unicode := change.apply .unicode modes.unicode
  crlf := change.apply .crlf modes.crlf

/-- Which characters are alike when case is ignored. -/
def caseScope (modes : Modes) : Unicode.CaseScope :=
  if modes.unicode then .full else .ascii

/-- Which characters make up words. -/
def wordScope (modes : Modes) : WordScope :=
  if modes.unicode then .full else .ascii

/-- A class, widened to ignore case if the modes say so. -/
def fold (modes : Modes) (characters : Unicode.CharClass) : Unicode.CharClass :=
  if modes.ignoreCase then .folded modes.caseScope characters else characters

/-- The complement of a class if it is asked for. Outside Unicode mode a class is one of bytes,
and its complement would hold parts of characters. -/
def negate (modes : Modes) (negated : Bool) (characters : Unicode.CharClass) :
    Except Fault Unicode.CharClass :=
  if negated && !modes.unicode then .error .invalidUtf8
  else .ok (.negatedIf negated characters)

end Modes

/-- The characters of a class with an escape of one letter. -/
def ShortClass.characters (modes : Modes) : ShortClass -> Unicode.CharClass
  | .digit =>
      if modes.unicode then Unicode.digitClass else NamedClass.digit.characters
  | .space =>
      if modes.unicode then .ranges Unicode.blankRanges else NamedClass.space.characters
  | .word =>
      if modes.unicode then Unicode.wordClass else NamedClass.word.characters

/-- A short class or its complement. -/
def shortClass (modes : Modes) (kind : ShortClass) (negated : Bool) :
    Except Fault Unicode.CharClass :=
  modes.negate negated (kind.characters modes)

/-- The class of a property or its complement. -/
def propertyClass (modes : Modes) (query : Unicode.PropertyQuery) (negated : Bool) :
    Except Fault Unicode.CharClass :=
  if !modes.unicode then .error .unicodeNotAllowed
  else
    match query.characters with
    | .ok characters => modes.negate negated (modes.fold characters)
    | .error .unknownProperty => .error .propertyUnknown
    | .error .unknownValue => .error .propertyValueUnknown

/-- The character of a literal. Outside Unicode mode a byte above the ASCII ones is no
character. -/
def Literal.checked (modes : Modes) (literal : Literal) : Except Fault Char :=
  if !modes.unicode && literal.byte && 128 ≤ literal.char.toNat then .error .invalidUtf8
  else .ok literal.char

/-- The character of a literal in a set, where outside Unicode mode only ASCII is allowed. -/
def Literal.inSet (modes : Modes) (literal : Literal) : Except Fault Char := do
  let c ← literal.checked modes
  if !modes.unicode && 128 ≤ c.toNat then .error .unicodeNotAllowed else return c

/-- What an operator makes of two classes. -/
def SetOperator.combine (operator : SetOperator) (left right : Unicode.CharClass) :
    Unicode.CharClass :=
  match operator with
  | .intersection => .intersection left right
  | .difference => .difference left right
  | .symmetricDifference => .symmetricDifference left right

namespace SetTree

mutual

/-- The class that a set describes. Case is ignored in each pair of brackets and on both sides
of each operator, before anything is negated. -/
def characters (modes : Modes) : SetTree -> Except Fault Unicode.CharClass
  | .literal own => do
      let c ← own.inSet modes
      return .single c
  | .range first last => do
      let first ← first.inSet modes
      let last ← last.inSet modes
      return .range first last
  | .named kind negated => modes.negate negated (modes.fold kind.characters)
  | .short kind negated => shortClass modes kind negated
  | .property query negated => propertyClass modes query negated
  | .bracket negated inner => do
      let characters ← inner.characters modes
      modes.negate negated (modes.fold characters)
  | .union items => unionOf modes items
  | .binary operator left right => do
      let left ← left.characters modes
      let right ← right.characters modes
      return operator.combine (modes.fold left) (modes.fold right)

/-- The class of the characters that one of some sets describes. -/
def unionOf (modes : Modes) : List SetTree -> Except Fault Unicode.CharClass
  | [] => .ok .none
  | item :: rest => do
      let first ← item.characters modes
      let others ← unionOf modes rest
      return .union first others

end

end SetTree

/-- The condition that an anchor stands for. -/
def Anchor.look (modes : Modes) : Anchor -> Look
  | .lineStart =>
      if !modes.multiLine then .textStart else if modes.crlf then .anyLineStart else .lineStart
  | .lineEnd =>
      if !modes.multiLine then .textEnd else if modes.crlf then .anyLineEnd else .lineEnd
  | .textStart => .textStart
  | .textEnd => .textEnd
  | .wordBoundary => .word .boundary modes.wordScope
  | .notWordBoundary => .word .notBoundary modes.wordScope
  | .wordStart => .word .start modes.wordScope
  | .wordEnd => .word .finish modes.wordScope
  | .wordStartHalf => .word .startHalf modes.wordScope
  | .wordEndHalf => .word .finishHalf modes.wordScope

/-- The class that a dot stands for. -/
def dotClass (modes : Modes) : Except Fault Unicode.CharClass :=
  if !modes.unicode then .error .invalidUtf8
  else if modes.dotAll then .ok .all
  else if modes.crlf then .ok (.complement (.ranges [⟨0x0a, 0x0a⟩, ⟨0x0d, 0x0d⟩]))
  else .ok (.complement (.single '\n'))

namespace Tree

mutual

/-- The expression that a tree stands for in given modes, and the modes after it. -/
def expression (modes : Modes) : Tree -> Except Fault (Expr × Modes)
  | .empty => .ok (.empty, modes)
  | .setFlags change => .ok (.empty, modes.change change)
  | .literal own => do
      let c ← own.checked modes
      return (.chars (modes.fold (.single c)), modes)
  | .dot => do
      return (.chars (← dotClass modes), modes)
  | .anchor place => .ok (.look (place.look modes), modes)
  | .short kind negated => do
      return (.chars (← shortClass modes kind negated), modes)
  | .property query negated => do
      return (.chars (← propertyClass modes query negated), modes)
  | .bracket negated inner => do
      let characters ← inner.characters modes
      return (.chars (← modes.negate negated (modes.fold characters)), modes)
  | .repetition inner least most greedy => do
      let (inner, modes) ← inner.expression modes
      return (.repetition inner least most (greedy != modes.swapGreed), modes)
  | .group kind inner => do
      let (inner, _) ← inner.expression (modes.change kind.change)
      return (if kind == .capture then .capture inner else inner, modes)
  | .concatenation items => do
      let (items, modes) ← expressions modes items
      return (.ofSequence items, modes)
  | .alternation branches => do
      let (branches, modes) ← expressions modes branches
      return (.ofAlternatives branches, modes)

/-- The expressions that some trees stand for, each in the modes that those before leave. -/
def expressions (modes : Modes) : List Tree -> Except Fault (List Expr × Modes)
  | [] => .ok ([], modes)
  | item :: rest => do
      let (first, modes) ← item.expression modes
      let (others, modes) ← expressions modes rest
      return (first :: others, modes)

end

end Tree

end Pattern
end PathVersions
