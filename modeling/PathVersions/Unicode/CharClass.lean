import PathVersions.Unicode.CaseOrbit

/-!
# Character classes

A class describes a set of characters by ranges and set operations. Its meaning is
`CharClass.contains`; the operations are read off their equations, which all hold by
definition.
-/

namespace PathVersions
namespace Unicode

/-- Which characters count as alike when case is ignored. -/
inductive CaseScope
  /-- Characters in one case orbit. -/
  | full
  /-- Only the letters of ASCII. -/
  | ascii
deriving DecidableEq, Repr

/-- The code points alike to a character when case is ignored in a scope. -/
def CaseScope.alike (scope : CaseScope) (c : Char) : List Nat :=
  match scope with
  | .full => CaseOrbit.of c
  | .ascii => [c.toLower.toNat, c.toUpper.toNat]

/-- A set of characters. -/
inductive CharClass
  | ranges (list : List CodeRange)
  | union (left right : CharClass)
  | intersection (left right : CharClass)
  | complement (inner : CharClass)
  /-- Every character alike to one of the inner class. -/
  | folded (scope : CaseScope) (inner : CharClass)
deriving DecidableEq, Repr

namespace CharClass

/-- Whether a code point belongs to a class. -/
def containsCode : CharClass -> Nat -> Bool
  | .ranges list, code => CodeRange.anyContains list code
  | .union left right, code => left.containsCode code || right.containsCode code
  | .intersection left right, code => left.containsCode code && right.containsCode code
  | .complement inner, code => !inner.containsCode code
  | .folded scope inner, code =>
      (scope.alike (Char.ofNat code)).any fun other => inner.containsCode other

/-- Whether a character belongs to a class. -/
def contains (characters : CharClass) (c : Char) : Bool :=
  characters.containsCode c.toNat

@[simp] theorem contains_ranges (list : List CodeRange) (c : Char) :
    (ranges list).contains c = CodeRange.anyContains list c.toNat := rfl

@[simp] theorem contains_union (left right : CharClass) (c : Char) :
    (union left right).contains c = (left.contains c || right.contains c) := rfl

@[simp] theorem contains_intersection (left right : CharClass) (c : Char) :
    (intersection left right).contains c = (left.contains c && right.contains c) := rfl

@[simp] theorem contains_complement (inner : CharClass) (c : Char) :
    (complement inner).contains c = !inner.contains c := rfl

/-- The class of no character. -/
def none : CharClass := .ranges []

/-- The class of all characters. -/
def all : CharClass := .complement none

/-- The class of one character. -/
def single (c : Char) : CharClass := .ranges [⟨c.toNat, c.toNat⟩]

/-- The characters from a first to a last one. -/
def range (first last : Char) : CharClass := .ranges [⟨first.toNat, last.toNat⟩]

/-- The characters of the first class that are not in the second. -/
def difference (left right : CharClass) : CharClass :=
  .intersection left (.complement right)

/-- The characters in exactly one of two classes. -/
def symmetricDifference (left right : CharClass) : CharClass :=
  .union (difference left right) (difference right left)

/-- A class or its complement. -/
def negatedIf (negated : Bool) (characters : CharClass) : CharClass :=
  if negated then .complement characters else characters

@[simp] theorem contains_single (own c : Char) :
    (single own).contains c = (own.toNat <= c.toNat && c.toNat <= own.toNat) := by
  simp [single, CodeRange.contains]

@[simp] theorem contains_difference (left right : CharClass) (c : Char) :
    (difference left right).contains c = (left.contains c && !right.contains c) := rfl

end CharClass

end Unicode
end PathVersions
