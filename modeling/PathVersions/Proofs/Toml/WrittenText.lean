import PathVersions.Proofs.Text.Hex
import PathVersions.Toml.Text
import PathVersions.Toml.Written

/-!
# Written texts read back

In whatever form a text is written, reading gives it back and leaves what stands after it. Between
quotation marks the reader undoes the escapes one by one. Over lines it looks for the closing marks
at every character, so that what counts is how many marks can stand in a row before it.
-/

namespace PathVersions

namespace Toml

variable {c mark : Char} {text rest : List Char}

/-! ## Escapes -/

/-- An escape that is read as a character, and is no fold of a line. -/
structure Escapes (escape : List Char) (c : Char) : Prop where
  read (more : List Char) : readEscape? (escape ++ more) = some (c, more)
  noFold (more : List Char) : skipFold? (escape ++ more) = none

/-- An escape of one letter stands for its character. -/
theorem escapes_of_letter
    {letter : Char}
    (visible : isBlank letter = false)
    (ordinary : letter ≠ '\n' ∧ letter ≠ '\r')
    (short : escapeDigits? letter = none)
    (found : escaped? letter = some c) :
    Escapes [letter] c where
  read more := by
    rw [List.singleton_append, readEscape?, short]
    simp [found]
  noFold more := by
    rw [skipFold?, skipBlanks, List.singleton_append, List.dropWhile_cons_of_neg (by simp [visible]),
      newline?.eq_def]
    split <;> simp_all

/-- An escape of four digits stands for any control character. -/
theorem escapes_of_control (control : isControl c = true) :
    Escapes ('u' :: Hex.digits Hex.capitalDigit 4 c.toNat) c where
  read more := by
    have small : c.toNat < 16 ^ 4 := by
      simp only [isControl, Bool.or_eq_true, Bool.and_eq_true, decide_eq_true_eq, beq_iff_eq]
        at control
      omega
    rw [List.cons_append, readEscape?, show escapeDigits? 'u' = some 4 by rfl]
    simp only [Hex.read_digits Hex.value_capitalDigit, Nat.zero_mul, Nat.zero_add, Nat.mod_eq_of_lt small]
    have valid : c.toNat.isValidChar := c.valid
    simp [scalar?, valid, Char.ofNat_toNat]
  noFold more := rfl

/-- A character that is no quotation mark and no line end is written as it is or as an escape. -/
theorem writeChar_eq (c : Char) :
    (∃ escape, writeChar c = '\\' :: escape ∧ Escapes escape c) ∨
      (writeChar c = [c] ∧ isControl c = false ∧ c ≠ '\\') := by
  unfold writeChar
  split
  · rename_i letter found
    refine .inl ⟨[letter], rfl, ?_⟩
    rw [escapeLetter?.eq_def] at found
    split at found <;> simp only [Option.some.injEq, reduceCtorEq] at found <;> subst found <;>
      exact escapes_of_letter rfl (by decide) rfl rfl
  · rename_i unknown
    split
    · rename_i control
      exact .inl ⟨_, rfl, escapes_of_control control⟩
    · rename_i ordinary
      refine .inr ⟨rfl, by simpa using ordinary, ?_⟩
      rintro rfl
      simp [escapeLetter?] at unknown

/-! ## Texts on one line -/

/-- Between quotation marks an escape is read for its character. -/
theorem readQuoted_of_escape
    {escape : List Char}
    (escapes : Escapes escape c)
    (more : List Char) :
    readQuoted? ('\\' :: (escape ++ more)) =
      (readQuoted? more).map fun (read, left) => (c :: read, left) := by
  rw [readQuoted?, escapes.read]
  dsimp only
  rw [dif_pos (by simp)]

/-- Between quotation marks every other character is read for itself. -/
theorem readQuoted_of_char
    (ordinary : isControl c = false)
    (mark : c ≠ '"')
    (backslash : c ≠ '\\')
    (more : List Char) :
    readQuoted? (c :: more) = (readQuoted? more).map fun (read, left) => (c :: read, left) := by
  rw [readQuoted?]
  · simp [ordinary]
  · simp_all
  · simp_all

/-- Between quotation marks every text reads back. -/
theorem readQuoted_writeLine (text rest : List Char) :
    readQuoted? (writeLine text ++ '"' :: rest) = some (text, rest) := by
  have quote : Escapes ['"'] '"' := escapes_of_letter rfl (by decide) rfl rfl
  have newline : Escapes ['n'] '\n' := escapes_of_letter rfl (by decide) rfl rfl
  fun_induction writeLine text with
  | case1 => rw [List.nil_append, readQuoted?]
  | case2 text inductionHypothesis =>
      have escaped := readQuoted_of_escape quote (writeLine text ++ '"' :: rest)
      rw [inductionHypothesis] at escaped
      exact escaped
  | case3 text inductionHypothesis =>
      have escaped := readQuoted_of_escape newline (writeLine text ++ '"' :: rest)
      rw [inductionHypothesis] at escaped
      exact escaped
  | case4 c text mark newline inductionHypothesis =>
      obtain ⟨escape, shape, escapes⟩ | ⟨shape, ordinary, backslash⟩ := writeChar_eq c
      · rw [shape, List.append_assoc, List.cons_append, readQuoted_of_escape escapes,
          inductionHypothesis]
        rfl
      · rw [shape, List.append_assoc, List.singleton_append,
          readQuoted_of_char ordinary mark backslash, inductionHypothesis]
        rfl

/-- Between apostrophes a text reads back if it has neither an apostrophe nor a control
character. -/
theorem readLiteral_append
    (shown : ∀ c ∈ text, isControl c = false ∧ c ≠ '\'')
    (rest : List Char) :
    readLiteral? (text ++ '\'' :: rest) = some (text, rest) := by
  induction text with
  | nil => simp [readLiteral?]
  | cons c text inductionHypothesis =>
      have own := shown c (by simp)
      have others := inductionHypothesis fun other member => shown other (by simp [member])
      simp [readLiteral?, own, others]

/-! ## Closing marks -/

/-- Up to two marks before the closing ones belong to the text. -/
theorem readClosing_of_marks
    {count : Nat}
    (few : count ≤ 2)
    (apart : rest.head? ≠ some mark) :
    readClosing? mark (List.replicate count mark ++ mark :: mark :: mark :: rest) =
      some (List.replicate count mark, rest) := by
  have other (d : Char) (more : List Char) (shape : rest = d :: more) : d ≠ mark := by
    rintro rfl
    simp [shape] at apart
  obtain rfl | rfl | rfl : count = 0 ∨ count = 1 ∨ count = 2 := by omega
  · cases rest with
    | nil => simp [readClosing?]
    | cons d more =>
        have differs := other d more rfl
        cases more <;> simp [readClosing?, differs]
  · cases rest with
    | nil => simp [readClosing?, List.replicate_succ]
    | cons d more =>
        have differs := other d more rfl
        simp [readClosing?, List.replicate_succ, differs]
  · simp [readClosing?, List.replicate_succ]

/-- No closing marks are found where another character stands among the first three. -/
theorem readClosing_eq_none
    {front : List Char}
    (short : front.length ≤ 2)
    (other : c ≠ mark)
    (more : List Char) :
    readClosing? mark (front ++ c :: more) = none := by
  rw [readClosing?.eq_def]
  split
  · rename_i first second third after shape
    rw [if_neg]
    simp only [Bool.and_eq_true, beq_iff_eq, not_and]
    rintro ⟨rfl, rfl⟩ rfl
    match front, short with
    | [], _ => simp_all
    | [_], _ => simp_all
    | [_, _], _ => simp_all
  · rfl

/-- A text of a few marks only, or with another character among its first ones. -/
inductive FewMarks (mark : Char) (few : Nat) : List Char -> Prop
  | marks (count : Nat) (bound : count ≤ few) : FewMarks mark few (List.replicate count mark)
  | other (front : List Char) (c : Char) (more : List Char) (bound : front.length ≤ few)
      (differs : c ≠ mark) : FewMarks mark few (front ++ c :: more)

/-- A mark more in front. -/
theorem FewMarks.cons
    {few : Nat}
    (marks : FewMarks mark few text) :
    FewMarks mark (few + 1) (mark :: text) := by
  cases marks with
  | marks count bound => exact .marks (count + 1) (by omega)
  | other front c more bound differs =>
      exact .other (mark :: front) c more (by simp only [List.length_cons]; omega) differs

theorem FewMarks.mono
    {few many : Nat}
    (marks : FewMarks mark few text)
    (more : few ≤ many) :
    FewMarks mark many text := by
  cases marks with
  | marks count bound => exact .marks count (bound.trans more)
  | other front c rest bound differs => exact .other front c rest (bound.trans more) differs

/-- After a number of quotation marks only so many more are written that there are never three. -/
theorem writeLines_fewMarks (run : Nat) (text : List Char) :
    FewMarks '"' (2 - run) (writeLines run text) := by
  fun_induction writeLines run text with
  | case1 => exact .marks 0 (by omega)
  | case2 run text few inductionHypothesis =>
      have step : 2 - run = 2 - (run + 1) + 1 := by omega
      rw [step]
      exact inductionHypothesis.cons
  | case3 run text many inductionHypothesis =>
      exact .other [] '\\' ('"' :: writeLines 0 text) (by simp) (by decide)
  | case4 run text inductionHypothesis =>
      exact .other [] '\n' (writeLines 0 text) (by simp) (by decide)
  | case5 run c text mark newline inductionHypothesis =>
      obtain ⟨escape, shape, _⟩ | ⟨shape, _, _⟩ := writeChar_eq c
      · rw [shape]
        exact .other [] '\\' (escape ++ writeLines 0 text) (by simp) (by decide)
      · rw [shape]
        exact .other [] c (writeLines 0 text) (by simp) mark

/-- A text with no more than two marks in a row starts with no more than two. -/
theorem fewMarks_of_atMostTwo
    {run : Nat}
    (few : TextForm.atMostTwo mark run text = true) :
    FewMarks mark (2 - run) text := by
  induction text generalizing run with
  | nil => exact .marks 0 (by omega)
  | cons c text inductionHypothesis =>
      rw [TextForm.atMostTwo] at few
      split at few
      · rename_i same
        simp only [Bool.and_eq_true, decide_eq_true_eq] at few
        have step : 2 - run = 2 - (run + 1) + 1 := by omega
        rw [step, beq_iff_eq.mp same]
        exact (inductionHypothesis few.2).cons
      · rename_i differs
        exact .other [] c text (by simp) (by simpa using differs)

/-- The closing marks are found after a few marks, and nowhere before another character. -/
theorem FewMarks.readClosing
    (marks : FewMarks mark 2 text)
    (apart : rest.head? ≠ some mark) :
    (∃ count, text = List.replicate count mark ∧
        readClosing? mark (text ++ mark :: mark :: mark :: rest) = some (text, rest)) ∨
      readClosing? mark (text ++ mark :: mark :: mark :: rest) = none := by
  cases marks with
  | marks count bound => exact .inl ⟨count, rfl, readClosing_of_marks bound apart⟩
  | other front c more bound differs =>
      right
      rw [List.append_assoc, List.cons_append]
      exact readClosing_eq_none bound differs _

/-- What is written with nothing but quotation marks is just these. -/
theorem writeLines_eq_self
    {run : Nat}
    (marks : ∀ c ∈ writeLines run text, c = '"') :
    writeLines run text = text := by
  fun_induction writeLines run text with
  | case1 => rfl
  | case2 run text few inductionHypothesis =>
      rw [inductionHypothesis fun other member => marks other (by simp [member])]
  | case3 run text many inductionHypothesis => exact absurd (marks '\\' (by simp)) (by decide)
  | case4 run text inductionHypothesis => exact absurd (marks '\n' (by simp)) (by decide)
  | case5 run c text mark newline inductionHypothesis =>
      obtain ⟨escape, shape, _⟩ | ⟨shape, _, _⟩ := writeChar_eq c
      · exact absurd (marks '\\' (by simp [shape])) (by decide)
      · exact absurd (marks c (by simp [shape])) mark

/-! ## Texts over lines -/

/-- A text over lines ends where its closing marks are found. -/
theorem readQuotedLines_of_closing
    {left : List Char}
    (closing : readClosing? '"' text = some (rest, left)) :
    readQuotedLines? text = some (rest, left) := by
  rw [readQuotedLines?.eq_def, closing]

/-- Over lines an escape is read for its character. -/
theorem readQuotedLines_of_escape
    {escape more : List Char}
    (escapes : Escapes escape c)
    (goesOn : readClosing? '"' ('\\' :: (escape ++ more)) = none) :
    readQuotedLines? ('\\' :: (escape ++ more)) =
      (readQuotedLines? more).map fun (read, left) => (c :: read, left) := by
  rw [readQuotedLines?, goesOn]
  dsimp only
  rw [escapes.noFold, escapes.read]
  dsimp only
  rw [dif_pos (by simp)]

/-- Over lines every other character is read for itself, line ends included. -/
theorem readQuotedLines_of_char
    {more : List Char}
    (shown : isControl c = false ∨ c = '\n')
    (backslash : c ≠ '\\')
    (goesOn : readClosing? '"' (c :: more) = none) :
    readQuotedLines? (c :: more) =
      (readQuotedLines? more).map fun (read, left) => (c :: read, left) := by
  have carriage : c ≠ '\r' := by
    rintro rfl
    obtain control | same := shown
    · exact absurd control (by decide)
    · exact absurd same (by decide)
  rw [readQuotedLines?, goesOn]
  · dsimp only
    rw [if_neg]
    obtain ordinary | newline := shown
    · simp [ordinary]
    · simp [newline]
  · simp [backslash]
  · simp [carriage]

/-- Closing marks that are found at once are found behind the whole text. -/
theorem readQuotedLines_of_step
    {run : Nat}
    (apart : rest.head? ≠ some '"')
    (step : readClosing? '"' (writeLines run text ++ '"' :: '"' :: '"' :: rest) = none ->
      readQuotedLines? (writeLines run text ++ '"' :: '"' :: '"' :: rest) = some (text, rest)) :
    readQuotedLines? (writeLines run text ++ '"' :: '"' :: '"' :: rest) = some (text, rest) := by
  have marks := (writeLines_fewMarks run text).mono (Nat.sub_le 2 run)
  obtain ⟨count, same, closing⟩ | goesOn := marks.readClosing apart
  · have whole : writeLines run text = text := by
      apply writeLines_eq_self
      rw [same]
      exact fun c member => List.eq_of_mem_replicate member
    rw [whole] at closing ⊢
    exact readQuotedLines_of_closing closing
  · exact step goesOn

/-- Between three quotation marks every text reads back. -/
theorem readQuotedLines_writeLines
    (run : Nat)
    (text : List Char)
    (apart : rest.head? ≠ some '"') :
    readQuotedLines? (writeLines run text ++ '"' :: '"' :: '"' :: rest) = some (text, rest) := by
  have quote : Escapes ['"'] '"' := escapes_of_letter rfl (by decide) rfl rfl
  induction text generalizing run with
  | nil => exact readQuotedLines_of_closing (readClosing_of_marks (Nat.zero_le 2) apart)
  | cons c text inductionHypothesis =>
      apply readQuotedLines_of_step apart
      rw [writeLines.eq_def]
      split
      · contradiction
      · rename_i others same
        cases same
        split
        · rw [List.cons_append]
          intro goesOn
          rw [readQuotedLines_of_char (.inl rfl) (by decide) goesOn, inductionHypothesis]
          rfl
        · intro goesOn
          have escaped := @readQuotedLines_of_escape _ _
            (writeLines 0 text ++ '"' :: '"' :: '"' :: rest) quote goesOn
          rw [inductionHypothesis] at escaped
          exact escaped
      · rename_i others same
        cases same
        rw [List.cons_append]
        intro goesOn
        rw [readQuotedLines_of_char (.inr rfl) (by decide) goesOn, inductionHypothesis]
        rfl
      · rename_i own others mark newline same
        cases same
        obtain ⟨escape, shape, escapes⟩ | ⟨shape, ordinary, backslash⟩ := writeChar_eq c
        · rw [shape, List.append_assoc, List.cons_append]
          intro goesOn
          rw [readQuotedLines_of_escape escapes goesOn, inductionHypothesis]
          rfl
        · rw [shape, List.append_assoc, List.singleton_append]
          intro goesOn
          rw [readQuotedLines_of_char (.inl ordinary) backslash goesOn, inductionHypothesis]
          rfl

/-- A literal text over lines ends where its closing marks are found. -/
theorem readLiteralLines_of_closing
    {left : List Char}
    (closing : readClosing? '\'' text = some (rest, left)) :
    readLiteralLines? text = some (rest, left) := by
  rw [readLiteralLines?.eq_def, closing]

/-- Over lines a literal text has no escapes. -/
theorem readLiteralLines_of_char
    {more : List Char}
    (shown : TextForm.needsEscape c = false)
    (goesOn : readClosing? '\'' (c :: more) = none) :
    readLiteralLines? (c :: more) =
      (readLiteralLines? more).map fun (read, left) => (c :: read, left) := by
  have carriage : c ≠ '\r' := by
    rintro rfl
    exact absurd shown (by decide)
  rw [readLiteralLines?, goesOn]
  · dsimp only
    rw [if_neg]
    simpa [TextForm.needsEscape] using shown
  · simp [carriage]

/-- Between three apostrophes a text reads back if it has no more than two of them in a row and no
character that needs an escape. -/
theorem readLiteralLines_append
    {run : Nat}
    (shown : ∀ c ∈ text, TextForm.needsEscape c = false)
    (few : TextForm.atMostTwo '\'' run text = true)
    (apart : rest.head? ≠ some '\'') :
    readLiteralLines? (text ++ '\'' :: '\'' :: '\'' :: rest) = some (text, rest) := by
  induction text generalizing run with
  | nil => exact readLiteralLines_of_closing (readClosing_of_marks (Nat.zero_le 2) apart)
  | cons c text inductionHypothesis =>
      have marks := (fewMarks_of_atMostTwo few).mono (Nat.sub_le 2 run)
      obtain ⟨_, _, closing⟩ | goesOn := marks.readClosing apart
      · exact readLiteralLines_of_closing closing
      · have own := shown c (by simp)
        have others := fun other member => shown other (List.mem_cons_of_mem c member)
        rw [List.cons_append] at goesOn ⊢
        rw [readLiteralLines_of_char own goesOn]
        rw [TextForm.atMostTwo] at few
        split at few
        · simp only [Bool.and_eq_true] at few
          rw [inductionHypothesis others few.2]
          rfl
        · rw [inductionHypothesis others few]
          rfl

/-! ## All forms -/

theorem newline_eq_none
    (visible : text.head?.all fun c => c != '\n' && c != '\r') :
    newline? text = none := by
  rw [newline?.eq_def]
  split <;> simp_all

/-- The line end behind the opening marks is dropped again, and no line end of the text is. -/
theorem dropFirstNewline_opening
    {body : List Char}
    (plain : '\n' ∉ text -> body.head?.all fun c => c != '\n' && c != '\r') :
    dropFirstNewline ((if text.contains '\n' then ['\n'] else []) ++ body) = body := by
  split
  · rfl
  · rename_i absent
    rw [List.nil_append, dropFirstNewline, newline_eq_none (plain (by simpa using absent))]
    rfl

/-- A literal text on one line has nothing that would need an escape. -/
theorem shown_of_choose_literal
    (form : TextForm.choose text = .literal) :
    ∀ c ∈ text, isControl c = false ∧ c ≠ '\'' := by
  have facts :
      (∀ c ∈ text, TextForm.needsEscape c = false) ∧ '\'' ∉ text ∧ '\n' ∉ text := by
    unfold TextForm.choose at form
    dsimp only at form
    split_ifs at form; simp_all
  obtain ⟨shown, apostrophe, newline⟩ := facts
  intro c member
  have visible := shown c member
  have sameLine : c ≠ '\n' := fun same => newline (same ▸ member)
  exact ⟨by simpa [TextForm.needsEscape, sameLine] using visible,
    fun same => apostrophe (same ▸ member)⟩

/-- A literal text over lines needs no escapes and never closes itself. -/
theorem shown_of_choose_literalLines
    (form : TextForm.choose text = .literalLines) :
    (∀ c ∈ text, TextForm.needsEscape c = false) ∧ TextForm.atMostTwo '\'' 0 text = true := by
  unfold TextForm.choose at form
  dsimp only at form
  split_ifs at form; simp_all

/-- One quotation mark alone opens a text on one line. -/
theorem readText_quoted
    (single : ∀ more, text ≠ '"' :: '"' :: more) :
    readText? ('"' :: text) = readQuoted? text := by
  rw [readText?.eq_def]
  split <;> simp_all

/-- One apostrophe alone opens a literal text on one line. -/
theorem readText_literal
    (single : ∀ more, text ≠ '\'' :: '\'' :: more) :
    readText? ('\'' :: text) = readLiteral? text := by
  rw [readText?.eq_def]
  split <;> simp_all

/-- What is written on one line never starts with a mark that closes it. -/
theorem writeLine_apart
    (apart : rest.head? ≠ some '"')
    (more : List Char) :
    writeLine text ++ '"' :: rest ≠ '"' :: '"' :: more := by
  fun_cases writeLine text with
  | case1 =>
      rintro same
      simp_all
  | case2 text => simp
  | case3 text => simp
  | case4 c text mark newline =>
      obtain ⟨escape, shape, _⟩ | ⟨shape, _, _⟩ := writeChar_eq c
      · simp [shape]
      · rw [shape]
        intro same
        exact mark (by simpa using congrArg List.head? same)

/-- What is written over lines starts with a line end only if the text does. -/
theorem writeLines_head
    {run : Nat}
    (sameLine : '\n' ∉ text)
    (more : List Char) :
    (writeLines run text ++ '"' :: more).head?.all fun c => c != '\n' && c != '\r' := by
  fun_cases writeLines run text with
  | case1 => simp
  | case2 => simp
  | case3 => simp
  | case4 => simp at sameLine
  | case5 c text mark newline =>
      obtain ⟨escape, shape, _⟩ | ⟨shape, ordinary, _⟩ := writeChar_eq c
      · simp [shape]
      · have carriage : c ≠ '\r' := by
          rintro rfl
          exact absurd ordinary (by decide)
        have apart : c ≠ '\n' := by
          rintro rfl
          exact absurd ordinary (by decide)
        simp [shape, carriage, apart]

/-- A literal text over lines starts with a line end only if it has one. -/
theorem literalLines_head
    (shown : ∀ c ∈ text, TextForm.needsEscape c = false)
    (sameLine : '\n' ∉ text)
    (more : List Char) :
    (text ++ '\'' :: more).head?.all fun c => c != '\n' && c != '\r' := by
  cases text with
  | nil => simp
  | cons c text =>
      have own := shown c (by simp)
      have carriage : c ≠ '\r' := by
        rintro rfl
        exact absurd own (by decide)
      have apart : c ≠ '\n' := fun same => sameLine (by simp [same])
      simp [carriage, apart]

/-- Reading undoes writing, in whatever form the text is written. -/
theorem readText_writeText
    (text : List Char)
    (apart : rest.head? ≠ some '"' ∧ rest.head? ≠ some '\'') :
    readText? (writeText text ++ rest) = some (text, rest) := by
  unfold writeText
  dsimp only
  cases form : TextForm.choose text with
  | quoted =>
      simp only [List.append_assoc, List.cons_append, List.nil_append]
      rw [readText_quoted (writeLine_apart apart.1)]
      exact readQuoted_writeLine text rest
  | literal =>
      have shown := shown_of_choose_literal form
      simp only [List.append_assoc, List.cons_append, List.nil_append]
      rw [readText_literal]
      · exact readLiteral_append shown rest
      · intro more same
        cases text with
        | nil => simp_all
        | cons c text => exact (shown c (by simp)).2 (by simpa using congrArg List.head? same)
  | quotedLines =>
      simp only [List.append_assoc, List.cons_append, List.nil_append]
      rw [readText?, dropFirstNewline_opening fun sameLine => writeLines_head sameLine _]
      exact readQuotedLines_writeLines 0 text apart.1
  | literalLines =>
      obtain ⟨shown, few⟩ := shown_of_choose_literalLines form
      simp only [List.append_assoc, List.cons_append, List.nil_append]
      rw [readText?, dropFirstNewline_opening fun sameLine => literalLines_head shown sameLine _]
      exact readLiteralLines_append shown few apart.2

end Toml
end PathVersions
