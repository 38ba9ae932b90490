/-!
# Ranges of code points

Tables of character properties are lists of ranges. A table is written compactly as text:
each range is the distance from the end of the range before it and the number of code points
after its first one, and each of these numbers is written in base 26 with small letters for
all digits but the last, which is a capital letter. Other characters are ignored, so a table
may be broken over lines.
-/

namespace PathVersions
namespace Unicode

/-- The code points from a first to a last one, both included. -/
structure CodeRange where
  first : Nat
  last : Nat
deriving DecidableEq, Repr

namespace CodeRange

/-- Whether a code point lies in a range. -/
def contains (range : CodeRange) (code : Nat) : Bool :=
  range.first <= code && code <= range.last

/-- Whether a code point lies in one of the ranges. -/
def anyContains : List CodeRange -> Nat -> Bool
  | [], _ => false
  | range :: rest, code => range.contains code || anyContains rest code

@[simp] theorem anyContains_nil (code : Nat) :
    anyContains [] code = false := rfl

@[simp] theorem anyContains_cons
    (range : CodeRange)
    (rest : List CodeRange)
    (code : Nat) :
    anyContains (range :: rest) code = (range.contains code || anyContains rest code) := rfl

/-- Read numbers in base 26, the last digit of each a capital letter. -/
def decodeNumbers : List Char -> Nat -> List Nat
  | [], _ => []
  | c :: rest, value =>
      if 'a' ≤ c && c ≤ 'z' then decodeNumbers rest (value * 26 + (c.toNat - 'a'.toNat))
      else if 'A' ≤ c && c ≤ 'Z' then
        (value * 26 + (c.toNat - 'A'.toNat)) :: decodeNumbers rest 0
      else decodeNumbers rest value

/-- Ranges from distances and extents, the first distance counted from `start`. -/
def ofDistances (start : Nat) : List Nat -> List CodeRange
  | distance :: extent :: rest =>
      ⟨start + distance, start + distance + extent⟩ ::
        ofDistances (start + distance + extent + 1) rest
  | _ => []

/-- Read a table of ranges from its text. -/
def decode (text : String) : List CodeRange :=
  ofDistances 0 (decodeNumbers text.toList 0)

end CodeRange

end Unicode
end PathVersions
