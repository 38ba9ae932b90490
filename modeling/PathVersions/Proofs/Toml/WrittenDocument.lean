import PathVersions.Proofs.Toml.WrittenText
import PathVersions.Toml.Document

/-!
# Written documents read back

A header and an entry each fill a line of their own. Reading a document that starts with such a
line gives its statement and then the statements of what follows, whatever that is.
-/

namespace PathVersions
namespace Toml

variable {name text rest : List Char}

/-- A name that needs no marks as a key. -/
structure BareName (name : List Char) : Prop where
  nonempty : name ≠ []
  bare : ∀ c ∈ name, isBareKey c = true

/-- The header of a table, on a line of its own. -/
def writeHeader (name : List Char) : List Char := '[' :: name ++ [']', '\n']

/-- An entry with a text, on a line of its own. -/
def writeEntry (name text : List Char) : List Char :=
  name ++ [' ', '=', ' '] ++ writeText text ++ ['\n']

/-! ## Keys -/

/-- A character of a bare name is none of those that mean something in a document. -/
theorem isBareKey_apart
    {c : Char}
    (bare : isBareKey c = true) :
    c ≠ '"' ∧ c ≠ '\'' ∧ c ≠ '[' ∧ c ≠ '\n' ∧ c ≠ '\r' ∧ c ≠ '#' ∧ isBlank c = false := by
  refine ⟨?_, ?_, ?_, ?_, ?_, ?_, ?_⟩
  on_goal 7 =>
    by_contra blank
    simp only [isBlank, Bool.not_eq_false, Bool.or_eq_true, beq_iff_eq] at blank
    obtain rfl | rfl := blank <;> exact absurd bare (by decide)
  all_goals
    rintro rfl
    exact absurd bare (by decide)

theorem BareName.exists_head
    (named : BareName name) :
    ∃ c more, name = c :: more ∧ isBareKey c = true := by
  cases name with
  | nil => exact absurd rfl named.nonempty
  | cons c more => exact ⟨c, more, rfl, named.bare c (by simp)⟩

/-- A bare name is read as a key up to what cannot belong to it. -/
theorem readKeyPart_bare
    (named : BareName name)
    (ends : ∀ c ∈ rest.head?, isBareKey c = false) :
    readKeyPart? (name ++ rest) =
      some (⟨String.ofList name, Span.between (name ++ rest) rest⟩, rest) := by
  have taken : (name ++ rest).takeWhile isBareKey = name := by
    rw [List.takeWhile_append_of_pos named.bare]
    cases rest <;> simp_all
  have dropped : (name ++ rest).dropWhile isBareKey = rest := by
    rw [List.dropWhile_append_of_pos named.bare]
    cases rest <;> simp_all
  obtain ⟨c, more, shape, bare⟩ := named.exists_head
  obtain ⟨quote, apostrophe, _⟩ := isBareKey_apart bare
  unfold readKeyPart?
  split
  · simp_all
  · simp_all
  · rw [taken, dropped]
    simp [named.nonempty]

/-- Without a dot behind it, a bare name is the whole key. -/
theorem readKey_bare
    (named : BareName name)
    (ends : ∀ c ∈ rest.head?, isBareKey c = false)
    (whole : ∀ more, skipBlanks rest ≠ '.' :: more) :
    readKey? (name ++ rest) =
      some ([], ⟨String.ofList name, Span.between (name ++ rest) rest⟩, skipBlanks rest) := by
  rw [readKey?, readKeyPart_bare named ends]
  dsimp only
  split
  · rename_i more dotted
    exact absurd dotted (whole more)
  · rfl

/-! ## Statements -/

/-- A bare name between brackets is read as the header of a table. -/
theorem readStatement_header
    (named : BareName name)
    (rest : List Char) :
    ∃ span keySpan,
      readStatement? ('[' :: name ++ ']' :: rest) =
        some (.header span [] ⟨String.ofList name, keySpan⟩, rest) := by
  obtain ⟨c, more, rfl, bare⟩ := named.exists_head
  obtain ⟨_, _, bracket, _, _, _, visible⟩ := isBareKey_apart bare
  have skipped : skipBlanks (c :: more ++ ']' :: rest) = c :: more ++ ']' :: rest := by
    simp [skipBlanks, visible]
  have closed : skipBlanks (']' :: rest) = ']' :: rest := rfl
  have key := @readKey_bare _ (']' :: rest) named (by simp [isBareKey]) (by simp [closed])
  rw [closed] at key
  refine ⟨Span.between ('[' :: (c :: more) ++ ']' :: rest) rest,
    Span.between ((c :: more) ++ ']' :: rest) (']' :: rest), ?_⟩
  rw [readStatement?.eq_def]
  split
  · simp_all
  · rename_i text found same
    simp only [List.cons_append, List.cons.injEq, true_and] at same
    subst same
    rw [← List.cons_append, skipped, key]
    rfl
  · simp_all

/-- Every form of a text starts with a quotation mark or an apostrophe. -/
theorem writeText_marked (text : List Char) :
    ∃ more, writeText text = '"' :: more ∨ writeText text = '\'' :: more := by
  unfold writeText
  dsimp only
  cases TextForm.choose text <;> simp

/-- A written text is read back as the value of an entry. -/
theorem readValue_writeText
    (text : List Char)
    (apart : rest.head? ≠ some '"' ∧ rest.head? ≠ some '\'') :
    ∃ span, readValue? (writeText text ++ rest) = some (.text span (String.ofList text), rest) := by
  have read := readText_writeText text apart
  have marked : readOuter?.readMarked (writeText text ++ rest) =
      some (.text (Span.between (writeText text ++ rest) rest) (String.ofList text), rest) := by
    simp [readOuter?.readMarked, read]
  obtain ⟨more, shape | shape⟩ := writeText_marked text
  · rw [shape] at marked ⊢
    exact ⟨_, marked⟩
  · rw [shape] at marked ⊢
    exact ⟨_, marked⟩

/-- A bare name and a written text are read back as an entry. -/
theorem readStatement_entry
    (named : BareName name)
    (text : List Char)
    (apart : rest.head? ≠ some '"' ∧ rest.head? ≠ some '\'') :
    ∃ keySpan span,
      readStatement? (name ++ ' ' :: '=' :: ' ' :: writeText text ++ rest) =
        some (.entry [] ⟨String.ofList name, keySpan⟩ (.text span (String.ofList text)), rest) := by
  obtain ⟨span, value⟩ := readValue_writeText text apart
  have skipped : skipBlanks (' ' :: writeText text ++ rest) = writeText text ++ rest := by
    obtain ⟨more, shape | shape⟩ := writeText_marked text
    · simp [shape, skipBlanks, isBlank]
    · simp [shape, skipBlanks, isBlank]
  have assigned (more : List Char) : skipBlanks (' ' :: '=' :: more) = '=' :: more := rfl
  have key := @readKey_bare _ (' ' :: '=' :: ' ' :: writeText text ++ rest) named
    (by simp [isBareKey]) (by simp [assigned])
  obtain ⟨c, more, shape, bare⟩ := named.exists_head
  obtain ⟨_, _, bracket, _⟩ := isBareKey_apart bare
  refine ⟨Span.between (name ++ (' ' :: '=' :: ' ' :: writeText text ++ rest))
    (' ' :: '=' :: ' ' :: writeText text ++ rest), span, ?_⟩
  rw [readStatement?.eq_def]
  split
  · simp_all
  · simp_all
  · rw [List.append_assoc, key]
    simp only [List.cons_append, assigned, Option.bind_eq_bind, Option.bind_some]
    rw [← List.cons_append, skipped, value]
    rfl

/-! ## Lines -/

/-- A statement that fills a line comes before the statements of what follows. -/
theorem readStatements_of_line
    {start after : List Char}
    {statement : Statement}
    (skipped : skipLines false text = start)
    (nonempty : start ≠ [])
    (read : readStatement? start = some (statement, rest))
    (ends : readLineEnd? rest = some after)
    (shorter : after.length < text.length) :
    readStatements? text = (readStatements? after).map (statement :: ·) := by
  rw [readStatements?, skipped]
  split
  · contradiction
  · rw [read]
    dsimp only
    rw [ends]
    dsimp only
    rw [dif_pos shorter]

/-- A header on its line is the first statement of a document that starts with it, blank lines
apart. -/
theorem readStatements_header
    (named : BareName name)
    (skipped : skipLines false text = writeHeader name ++ rest) :
    ∃ span keySpan,
      readStatements? text =
        (readStatements? rest).map (.header span [] ⟨String.ofList name, keySpan⟩ :: ·) := by
  obtain ⟨span, keySpan, read⟩ := readStatement_header named ('\n' :: rest)
  refine ⟨span, keySpan, ?_⟩
  have shape : writeHeader name ++ rest = '[' :: name ++ ']' :: '\n' :: rest := by
    simp [writeHeader]
  rw [shape] at skipped
  refine readStatements_of_line skipped (by simp) read rfl ?_
  have within := skipLines_length_le false text
  simp only [skipped, List.length_append, List.length_cons] at within
  omega

/-- An entry on its line is the first statement of a document that starts with it. -/
theorem readStatements_entry
    (named : BareName name)
    (text rest : List Char) :
    ∃ keySpan span,
      readStatements? (writeEntry name text ++ rest) =
        (readStatements? rest).map
          (.entry [] ⟨String.ofList name, keySpan⟩ (.text span (String.ofList text)) :: ·) := by
  obtain ⟨keySpan, span, read⟩ := @readStatement_entry name ('\n' :: rest) named text (by simp)
  refine ⟨keySpan, span, ?_⟩
  obtain ⟨c, more, shape, bare⟩ := named.exists_head
  obtain ⟨_, _, _, _, carriage, comment, visible⟩ := isBareKey_apart bare
  apply @readStatements_of_line _ ('\n' :: rest)
    (name ++ ' ' :: '=' :: ' ' :: writeText text ++ '\n' :: rest)
  · simp [writeEntry, shape, skipLines, carriage, comment, visible]
  · simp
  · exact read
  · rfl
  · simp only [writeEntry, List.length_append, List.length_cons]
    omega

end Toml
end PathVersions
