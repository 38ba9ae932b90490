/-!
# Segments of a path

A path is a text whose segments are separated by slashes. Splitting never loses a character:
joining the segments of a path gives the path back, and every list of segments without
separators, as long as it is not empty, is the list of the segments of a path.
-/

namespace PathVersions
namespace Path

/-- The character between two segments. -/
def separator : Char := '/'

/-- Put a character in front of the first segment. -/
def consFirst (c : Char) : List (List Char) -> List (List Char)
  | [] => [[c]]
  | segment :: rest => (c :: segment) :: rest

/-- The segments of a path from left to right. -/
def segments : List Char -> List (List Char)
  | [] => [[]]
  | c :: rest => if c == separator then [] :: segments rest else consFirst c (segments rest)

/-- The path of some segments. -/
def join : List (List Char) -> List Char
  | [] => []
  | [segment] => segment
  | segment :: rest => segment ++ separator :: join rest

/-- Split a path at its last separator: what stands before it, if there is one, and what stands
after it. -/
def splitLast : List Char -> Option (List Char) × List Char
  | [] => (none, [])
  | c :: rest =>
      match splitLast rest with
      | (some parent, last) => (some (c :: parent), last)
      | (none, last) => if c == separator then (some [], last) else (none, c :: last)

/-- The last segment of a path. -/
def lastSegment (path : List Char) : List Char := (splitLast path).2

@[simp] theorem segments_nil : segments [] = [[]] := rfl

@[simp] theorem join_nil : join [] = [] := rfl

@[simp] theorem join_singleton (segment : List Char) : join [segment] = segment := rfl

@[simp] theorem join_cons_cons (segment next : List Char) (rest : List (List Char)) :
    join (segment :: next :: rest) = segment ++ separator :: join (next :: rest) := rfl

theorem splitLast_length_lt
    {path parent last : List Char}
    (equation : splitLast path = (some parent, last)) :
    parent.length < path.length := by
  induction path generalizing parent last with
  | nil => simp [splitLast] at equation
  | cons c rest inductionHypothesis =>
      rw [splitLast] at equation
      split at equation
      · rename_i deeper tail inner
        have shorter := inductionHypothesis inner
        simp only [Prod.mk.injEq, Option.some.injEq] at equation
        rw [← equation.1]
        simpa using shorter
      · split at equation
        · simp only [Prod.mk.injEq, Option.some.injEq] at equation
          rw [← equation.1]
          simp
        · simp at equation

end Path
end PathVersions
