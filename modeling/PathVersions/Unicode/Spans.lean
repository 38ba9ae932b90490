import PathVersions.Unicode.CharClass

/-!
# Spans of a class

The spans of a class are the ranges of its code points in ascending order, as few as possible.
They say how much room a class takes, not what it contains.
-/

namespace PathVersions
namespace Unicode

/-- The greatest code point. -/
def lastCode : Nat := 0x10ffff

namespace CodeRange

/-- Join a range with the ranges after it that it touches or overlaps; they come in order of
their first code points. -/
def joinedFrom (range : CodeRange) : List CodeRange -> List CodeRange
  | [] => [range]
  | next :: rest =>
      if next.first ≤ range.last + 1 then
        joinedFrom ⟨range.first, max range.last next.last⟩ rest
      else range :: joinedFrom next rest

/-- Join all ranges that touch or overlap; they come in order of their first code points. -/
def joined : List CodeRange -> List CodeRange
  | [] => []
  | range :: rest => joinedFrom range rest

/-- Ranges in order and joined. -/
def tidy (list : List CodeRange) : List CodeRange :=
  joined (list.mergeSort fun left right => left.first ≤ right.first)

/-- The ranges between some tidy ranges, from a first code point on. -/
def gaps (start : Nat) : List CodeRange -> List CodeRange
  | [] => if start ≤ lastCode then [⟨start, lastCode⟩] else []
  | range :: rest =>
      let others := gaps (range.last + 1) rest
      if start < range.first then ⟨start, range.first - 1⟩ :: others else others

end CodeRange

/-- Every orbit of a scope with more than one member. -/
def CaseScope.orbits : CaseScope -> List (List Nat)
  | .full => CaseOrbit.orbits
  | .ascii => (List.range 26).map fun letter => [0x41 + letter, 0x61 + letter]

namespace CharClass

/-- The ranges of a class in order and joined. -/
def spans : CharClass -> List CodeRange
  | .ranges list => CodeRange.tidy list
  | .union left right => CodeRange.tidy (left.spans ++ right.spans)
  | .intersection left right =>
      CodeRange.gaps 0
        (CodeRange.tidy (CodeRange.gaps 0 left.spans ++ CodeRange.gaps 0 right.spans))
  | .complement inner => CodeRange.gaps 0 inner.spans
  | .folded scope inner =>
      let own := inner.spans
      let alike := scope.orbits.filter fun orbit => orbit.any (CodeRange.anyContains own)
      CodeRange.tidy (own ++ alike.flatten.map fun code => ⟨code, code⟩)

end CharClass

end Unicode
end PathVersions
