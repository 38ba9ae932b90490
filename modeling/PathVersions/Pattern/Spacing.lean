import PathVersions.Pattern.Fault
import PathVersions.Unicode.Blank

/-!
# Spacing inside patterns

A pattern may be read in a mode that ignores white space and comments. A comment starts with a
number sign and ends with its line.
-/

namespace PathVersions
namespace Pattern

/-- Drop white space and comments; `comment` says whether the text starts inside one. -/
def dropSpacing (comment : Bool) : List Char -> List Char
  | [] => []
  | c :: rest =>
      if comment then dropSpacing (c != '\n') rest
      else if Unicode.isBlank c then dropSpacing false rest
      else if c == '#' then dropSpacing true rest
      else c :: rest

/-- Drop white space and comments if they are to be ignored. -/
def skip (ignoring : Bool) (text : List Char) : List Char :=
  if ignoring then dropSpacing false text else text

@[simp] theorem skip_false (text : List Char) : skip false text = text := rfl

theorem dropSpacing_length_le (comment : Bool) (text : List Char) :
    (dropSpacing comment text).length ≤ text.length := by
  induction text generalizing comment with
  | nil => simp [dropSpacing]
  | cons c rest inductionHypothesis =>
      have inner := inductionHypothesis (c != '\n')
      have outer := inductionHypothesis false
      have inComment := inductionHypothesis true
      simp only [dropSpacing, List.length_cons]
      split
      · omega
      · split
        · omega
        · split
          · omega
          · simp

theorem skip_length_le (ignoring : Bool) (text : List Char) :
    (skip ignoring text).length ≤ text.length := by
  cases ignoring with
  | false => simp
  | true => exact dropSpacing_length_le false text

theorem lt_of_skip_eq_cons
    {ignoring : Bool}
    {text rest : List Char}
    {c : Char}
    (equation : skip ignoring text = c :: rest) :
    rest.length < text.length := by
  have shorter := skip_length_le ignoring text
  rw [equation, List.length_cons] at shorter
  omega

/-- Pass over a number sign and the white space after it. -/
def passNumberSign : List Char -> List Char
  | '#' :: rest => rest.dropWhile Unicode.isBlank
  | text => text

/-- The character after the current one's spacing, as a look ahead for ranges sees it: white
space and at most one number sign are passed over, and if nothing else follows, the character
right after the current one is taken. -/
def glimpse (ignoring : Bool) (text : List Char) : Option Char :=
  if ignoring then
    (passNumberSign (text.dropWhile Unicode.isBlank)).head?.or text.head?
  else text.head?

end Pattern
end PathVersions
