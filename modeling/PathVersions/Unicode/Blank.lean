import PathVersions.Unicode.CodeRange

/-!
# Blank characters

The characters that count as white space, and trimming by them.
-/

namespace PathVersions
namespace Unicode

/-- The code points of white space. -/
def blankRanges : List CodeRange :=
  [⟨0x09, 0x0d⟩, ⟨0x20, 0x20⟩, ⟨0x85, 0x85⟩, ⟨0xa0, 0xa0⟩, ⟨0x1680, 0x1680⟩,
   ⟨0x2000, 0x200a⟩, ⟨0x2028, 0x2029⟩, ⟨0x202f, 0x202f⟩, ⟨0x205f, 0x205f⟩,
   ⟨0x3000, 0x3000⟩]

/-- Whether a character is white space. -/
def isBlank (c : Char) : Bool :=
  CodeRange.anyContains blankRanges c.toNat

/-- A text without the white space at its end. -/
def trimEnd : List Char -> List Char
  | [] => []
  | c :: rest =>
      match trimEnd rest with
      | [] => if isBlank c then [] else [c]
      | kept => c :: kept

theorem trimEnd_append_newline
    {text : List Char}
    {c : Char}
    (visible : isBlank c = false) :
    trimEnd (text ++ [c, '\n']) = text ++ [c] := by
  induction text with
  | nil =>
      have newline : isBlank '\n' = true := by decide
      simp [trimEnd, visible, newline]
  | cons first rest inductionHypothesis =>
      rw [List.cons_append, trimEnd, inductionHypothesis]
      cases rest <;> rfl

/-- Whether a text is white space throughout. -/
def allBlank (text : String) : Bool :=
  text.toList.all isBlank

end Unicode
end PathVersions
