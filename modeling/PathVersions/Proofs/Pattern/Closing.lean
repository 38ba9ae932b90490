import PathVersions.Proofs.Pattern.Prolonged

/-!
# Items and parentheses in front of a closing mark

The readers of escapes, of openings of groups and of counts, each on a text by itself and on the
same text in front of a closing mark.
-/

namespace PathVersions
namespace Pattern

/-! ## Escapes -/

section

variable {mark : Char} [closing : ClosingMark mark] {ignoring negated first : Bool}

theorem hexValue_mark : Hex.value? mark = none := by
  obtain rfl | rfl := closing.either <;> rfl

theorem isDigit_mark : mark.isDigit = false := by
  obtain rfl | rfl := closing.either <;> rfl

theorem isBoundaryNameChar_mark : isBoundaryNameChar mark = false := by
  obtain rfl | rfl := closing.either <;> rfl

/-- Digits of an escape stop before the mark, and too few of them are a fault with it and without
it. -/
theorem readHexDigits_prolonged (count value : Nat) (text : List Char) :
    Prolonged mark (Passed Nat)
      (readHexDigits ignoring count value text)
      (fun tail => readHexDigits ignoring count value (text ++ mark :: tail)) := by
  induction count generalizing value text with
  | zero =>
      simp only [readHexDigits]
      exact .ok value text
  | succ count inductionHypothesis =>
      cases text with
      | nil =>
          simp only [readHexDigits, List.nil_append, hexValue_mark]
          exact .error _ _
      | cons c rest =>
          simp only [readHexDigits, List.cons_append]
          cases Hex.value? c with
          | none => exact .error _ _
          | some digit =>
              exact .skipping rest Passed.of_suffix readHexDigits_suffix
                (inductionHypothesis _ _)

/-- A code point in braces needs its closing brace. -/
theorem readHexBraced_of_nil
    {text : List Char}
    (visible : skip ignoring text = [])
    (value? : Option Nat) :
    readHexBraced ignoring value? text = .error .escapeUnfinished := by
  rw [readHexBraced]
  split
  · rfl
  · simp_all

/-- Reading a code point in braces goes by its next visible character. -/
theorem readHexBraced_of_cons
    {text rest : List Char}
    {c : Char}
    (visible : skip ignoring text = c :: rest)
    (value? : Option Nat) :
    readHexBraced ignoring value? text =
      if c == '}' then .ok (value?, skip ignoring rest)
      else
        match Hex.value? c with
        | none => .error .hexDigitInvalid
        | some digit => readHexBraced ignoring (some (value?.getD 0 * 16 + digit)) rest := by
  rw [readHexBraced]
  split
  · simp_all
  · rename_i equation
    rw [visible] at equation
    cases equation
    rfl

theorem readHexBraced_skip (value? : Option Nat) (text : List Char) :
    readHexBraced ignoring value? (skip ignoring text) = readHexBraced ignoring value? text := by
  cases visible : skip ignoring text with
  | nil => rw [readHexBraced_of_nil visible, readHexBraced_of_nil (skip_nil ignoring)]
  | cons c rest =>
      rw [readHexBraced_of_cons visible, readHexBraced_of_cons (skip_of_skip_eq_cons visible rest)]

/-- A code point in braces is closed before the mark, or not at all, unless a comment hides the
mark. -/
theorem readHexBraced_prolonged (value? : Option Nat) (text : List Char) :
    Prolonged mark (Passed (Option Nat))
      (readHexBraced ignoring value? text)
      (fun tail => readHexBraced ignoring value? (text ++ mark :: tail)) := by
  fun_induction readHexBraced ignoring value? text with
  | case1 value? text visible =>
      rw [← readHexBraced_of_nil visible value?]
      refine .of_visible text Passed.of_suffix readHexBraced_suffix (readHexBraced_skip value?) ?_
      simp only [visible, List.nil_append, readHexBraced_of_nil (skip_nil ignoring),
        readHexBraced_of_cons (skip_mark ignoring _)]
      obtain rfl | rfl := closing.either
      · exact .error _ _
      · exact .error _ _
  | case2 value? text c rest visible _ closing =>
      simp only [readHexBraced_of_cons (skip_append_of_cons visible _), if_pos closing]
      exact .skipped value? rest
  | case3 value? text c rest visible _ ordinary invalid =>
      simp only [readHexBraced_of_cons (skip_append_of_cons visible _), if_neg ordinary, invalid]
      exact .error _ _
  | case4 value? text c rest visible _ ordinary digit valid inductionHypothesis =>
      simp only [readHexBraced_of_cons (skip_append_of_cons visible _), if_neg ordinary, valid]
      exact inductionHypothesis

/-- A hexadecimal escape with a brace has any number of digits. -/
theorem readHex_of_brace
    {text rest : List Char}
    (visible : skip ignoring text = '{' :: rest)
    (letter : Char) :
    readHex ignoring letter text = (do
      let (value?, rest) ← readHexBraced ignoring none rest
      match value? with
      | none => .error .hexEmpty
      | some value => return (⟨← scalar value, false⟩, rest)) := by
  unfold readHex
  generalize skip ignoring text = seen at visible
  subst visible
  rfl

/-- A hexadecimal escape without a brace has as many digits as its letter says. -/
theorem readHex_of_digits
    {text rest : List Char}
    {c : Char}
    (visible : skip ignoring text = c :: rest)
    (other : c ≠ '{')
    (letter : Char) :
    readHex ignoring letter text = (do
      let digits := if letter == 'x' then 2 else if letter == 'u' then 4 else 8
      let (value, rest) ← readHexDigits ignoring digits 0 (c :: rest)
      return (⟨← scalar value, digits == 2⟩, rest)) := by
  simp only [readHex, visible]
  split
  · simp_all
  · simp_all
  · rfl

theorem readHex_skip (letter : Char) (text : List Char) :
    readHex ignoring letter (skip ignoring text) = readHex ignoring letter text := by
  simp only [readHex, skip_skip]

/-- Neither form of a hexadecimal escape takes the mark for a digit. -/
theorem readHex_prolonged (letter : Char) (text : List Char) :
    Prolonged mark (Passed Literal)
      (readHex ignoring letter text)
      (fun tail => readHex ignoring letter (text ++ mark :: tail)) := by
  refine .of_visible text Passed.of_suffix readHex_suffix (readHex_skip letter) ?_
  cases visible : skip ignoring text with
  | nil =>
      simp only [readHex, skip_nil]
      refine .of_error fun tail value rest read => ?_
      change readHex ignoring letter (mark :: tail) = _ at read
      rw [readHex_of_digits (skip_mark ignoring tail) (mark_ne (by decide))] at read
      obtain ⟨⟨value, left⟩, digits, read⟩ := bind_eq_ok.mp read
      split at digits
      · simp [readHexDigits, hexValue_mark] at digits
      · split at digits
        · simp [readHexDigits, hexValue_mark] at digits
        · simp [readHexDigits, hexValue_mark] at digits
  | cons c rest =>
      have own := skip_of_skip_eq_cons visible
      by_cases brace : c = '{'
      · subst brace
        simp only [List.cons_append, readHex_of_brace (own _)]
        refine .check (readHexBraced_prolonged none rest) (fun value? =>
          match value? with
          | none => .error .hexEmpty
          | some value => do return ⟨← scalar value, false⟩) ?_
        intro value? left
        cases value? with
        | none => rfl
        | some value =>
            dsimp only
            cases scalar value <;> rfl
      · simp only [List.cons_append, readHex_of_digits (own _) brace]
        generalize (if letter == 'x' then 2 else if letter == 'u' then 4 else 8) = digits
        refine .check (readHexDigits_prolonged digits 0 (c :: rest)) (fun value => do
          return ⟨← scalar value, digits == 2⟩) ?_
        intro value left
        dsimp only
        cases scalar value <;> rfl

theorem readBraced_of_nil
    {text : List Char}
    (visible : skip ignoring text = []) :
    readBraced ignoring text = .error .escapeUnfinished := by
  rw [readBraced]
  split
  · rfl
  · simp_all

/-- A braced name goes on to its brace. -/
theorem readBraced_of_cons
    {text rest : List Char}
    {c : Char}
    (visible : skip ignoring text = c :: rest) :
    readBraced ignoring text =
      if c == '}' then .ok ([], rest)
      else do
        let (name, rest) ← readBraced ignoring rest
        return (c :: name, rest) := by
  rw [readBraced]
  split
  · simp_all
  · rename_i equation
    rw [visible] at equation
    cases equation
    rfl

theorem readBraced_skip (text : List Char) :
    readBraced ignoring (skip ignoring text) = readBraced ignoring text := by
  cases visible : skip ignoring text with
  | nil => rw [readBraced_of_nil visible, readBraced_of_nil (skip_nil ignoring)]
  | cons c rest =>
      rw [readBraced_of_cons visible, readBraced_of_cons (skip_of_skip_eq_cons visible rest)]

/-- A braced name that is not closed before the mark takes the mark for a part of it. -/
theorem readBraced_prolonged (text : List Char) :
    Prolonged mark (Passed (List Char))
      (readBraced ignoring text)
      (fun tail => readBraced ignoring (text ++ mark :: tail)) := by
  fun_induction readBraced ignoring text with
  | case1 text visible =>
      rw [← readBraced_of_nil visible]
      refine .of_visible text Passed.of_suffix readBraced_suffix readBraced_skip ?_
      simp only [visible, List.nil_append, readBraced_of_nil (skip_nil ignoring),
        readBraced_of_cons (skip_mark ignoring _)]
      refine .of_error fun tail name rest read => ?_
      rw [if_neg (by simpa using mark_ne (by decide))] at read
      obtain ⟨⟨others, left⟩, deeper, read⟩ := bind_eq_ok.mp read
      exact suffix_of_ok read (readBraced_suffix deeper)
  | case2 text c rest visible _ closing =>
      simp only [readBraced_of_cons (skip_append_of_cons visible _), if_pos closing]
      exact .ok [] rest
  | case3 text c rest visible _ ordinary inductionHypothesis =>
      simp only [readBraced_of_cons (skip_append_of_cons visible _), if_neg ordinary]
      exact inductionHypothesis.check (fun name => .ok (c :: name)) fun name left => rfl

/-- A property without braces has a name of one character, which may be any. -/
theorem readProperty_of_cons
    {text rest : List Char}
    {c : Char}
    (visible : skip ignoring text = c :: rest)
    (brace : c ≠ '{')
    (backslash : c ≠ '\\') :
    readProperty ignoring negated text =
      .ok (.property (.named (String.singleton c)) negated, skip ignoring rest) := by
  rw [readProperty, visible]
  split <;> simp_all

/-- If the name of a property is missing, the mark is taken for it. -/
theorem readProperty_prolonged (text : List Char) :
    Prolonged mark (Passed Atom)
      (readProperty ignoring negated text)
      (fun tail => readProperty ignoring negated (text ++ mark :: tail)) := by
  have skips (text : List Char) :
      readProperty ignoring negated (skip ignoring text) = readProperty ignoring negated text := by
    simp only [readProperty, skip_skip]
  refine .of_visible text Passed.of_suffix readProperty_suffix skips ?_
  cases visible : skip ignoring text with
  | nil =>
      simp only [List.nil_append,
        readProperty_of_cons (skip_mark ignoring _) (mark_ne (by decide)) (mark_ne (by decide))]
      simp only [readProperty, skip_nil]
      refine .of_error fun tail atom rest read => ?_
      exact suffix_of_ok read (skip_suffix ignoring tail)
  | cons c rest =>
      have own := skip_of_skip_eq_cons visible
      simp only [List.cons_append]
      by_cases brace : c = '{'
      · subst brace
        simp only [readProperty, own]
        exact (readBraced_prolonged rest).check (fun name =>
          .ok (.property (queryOfName name).1 (negated != (queryOfName name).2))) fun _ _ => rfl
      · by_cases backslash : c = '\\'
        · subst backslash
          simp only [readProperty, own]
          exact .error _ _
        · simp only [readProperty_of_cons (own _) brace backslash]
          exact .skipped _ rest

/-- The mark is no letter and ends the name of a word boundary. -/
theorem readBoundaryName_prolonged (text : List Char) :
    Prolonged mark (Passed (List Char))
      (.ok (readBoundaryName ignoring text))
      (fun tail => .ok (readBoundaryName ignoring (text ++ mark :: tail))) := by
  fun_induction readBoundaryName ignoring text with
  | case1 =>
      simp only [List.nil_append, readBoundaryName, isBoundaryNameChar_mark]
      exact .ok [] []
  | case2 c rest letter name after equation inductionHypothesis =>
      simp only [List.cons_append, readBoundaryName, if_pos letter]
      have inner := Prolonged.skipping_total rest (readBoundaryName_suffix ignoring)
        inductionHypothesis
      have whole : Prolonged mark (Passed (List Char))
          ((.ok (readBoundaryName ignoring (skip ignoring rest)) : Except Fault _) >>=
            fun named => .ok (c :: named.1, named.2)) _ :=
        inner.check (fun name => .ok (c :: name)) fun _ _ => rfl
      rw [equation] at whole
      exact whole
  | case3 c rest other =>
      simp only [List.cons_append, readBoundaryName, if_neg other]
      exact .ok [] (c :: rest)

/-- The brace that ends a word boundary is there or is missing, with the mark as without it. -/
theorem readBoundaryEnd_prolonged (name text : List Char) :
    Prolonged mark (Passed Atom)
      (readBoundaryEnd name text)
      (fun tail => readBoundaryEnd name (text ++ mark :: tail)) := by
  cases text with
  | nil =>
      obtain rfl | rfl := closing.either
      · exact .error _ _
      · exact .error _ _
  | cons c rest =>
      by_cases brace : c = '}'
      · subst brace
        simp only [List.cons_append, readBoundaryEnd]
        cases boundaryOfName? name with
        | none => exact .error _ _
        | some anchor => exact .ok _ rest
      · have other (more : List Char) :
            readBoundaryEnd name (c :: more) = .error .wordBoundaryUnclosed := by
          rw [readBoundaryEnd.eq_def]
          split <;> simp_all
        simp only [List.cons_append, other]
        exact .error _ _

/-- What can be left after an escape: besides an end of the text after the mark, a brace that
may open the count of a word boundary, with nothing but spacing between it and the mark. -/
def Braced (mark : Char) (ignoring : Bool) (tail : List Char) (atom : Atom) (rest : List Char) : Prop :=
  rest <:+ tail ∨
    atom = .anchor .wordBoundary ∧
      ∃ inner, rest = '{' :: inner ∧ skip ignoring inner <:+ mark :: tail

/-- A brace with nothing behind it is taken for an unfinished word boundary. -/
theorem readWordBoundary_of_nil
    {inner : List Char}
    (visible : skip ignoring inner = []) :
    readWordBoundary ignoring ('{' :: inner) = .error .wordBoundaryUnfinished := by
  simp only [readWordBoundary, visible]

/-- A letter behind the brace is the start of a name. -/
theorem readWordBoundary_of_letter
    {inner rest : List Char}
    {c : Char}
    (visible : skip ignoring inner = c :: rest)
    (letter : isBoundaryNameChar c = true) :
    readWordBoundary ignoring ('{' :: inner) =
      ((.ok (readBoundaryName ignoring (c :: rest)) : Except Fault _) >>= fun named =>
        readBoundaryEnd named.1 named.2) := by
  simp only [readWordBoundary, visible, if_pos letter]
  rfl

/-- Any other character shows that the brace does not belong to the word boundary. -/
theorem readWordBoundary_of_other
    {inner rest : List Char}
    {c : Char}
    (visible : skip ignoring inner = c :: rest)
    (other : ¬isBoundaryNameChar c = true) :
    readWordBoundary ignoring ('{' :: inner) = .ok (.anchor .wordBoundary, '{' :: inner) := by
  simp only [readWordBoundary, visible, if_neg other]

/-- A brace with nothing but spacing between it and the mark is left alone, or a comment hides the
mark. -/
theorem readWordBoundary_braced
    {inner tail rest : List Char}
    {atom : Atom}
    (behind : skip ignoring inner <:+ mark :: tail)
    (read : readWordBoundary ignoring ('{' :: inner) = .ok (atom, rest)) :
    Braced mark ignoring tail atom rest := by
  cases visible : skip ignoring inner with
  | nil => simp [readWordBoundary_of_nil visible] at read
  | cons first others =>
      by_cases letter : isBoundaryNameChar first = true
      · rw [readWordBoundary_of_letter visible letter] at read
        have left := readBoundaryName_suffix ignoring (first :: others)
        rw [visible] at behind
        obtain same | inside := List.suffix_cons_iff.mp behind
        · simp only [List.cons.injEq] at same
          rw [same.1] at letter
          simp [isBoundaryNameChar_mark] at letter
        · exact .inl ((readBoundaryEnd_suffix read).trans (left.trans inside))
      · simp only [readWordBoundary_of_other visible letter, Except.ok.injEq,
          Prod.mk.injEq] at read
        exact .inr ⟨read.1.symm, inner, read.2.symm, behind⟩

/-- The mark behind a brace makes it a brace that is left alone, where it was an unfinished word
boundary without the mark. -/
theorem readWordBoundary_prolonged (text : List Char) :
    Prolonged mark (Braced mark ignoring)
      (readWordBoundary ignoring text)
      (fun tail => readWordBoundary ignoring (text ++ mark :: tail)) := by
  cases text with
  | nil =>
      obtain rfl | rfl := closing.either
      · exact .ok _ _
      · exact .ok _ _
  | cons c inner =>
      by_cases brace : c = '{'
      · subst brace
        simp only [List.cons_append]
        cases visible : skip ignoring inner with
        | nil =>
            rw [readWordBoundary_of_nil visible]
            refine .of_error fun tail atom rest read => ?_
            refine readWordBoundary_braced ?_ read
            obtain same | ⟨_, hidden⟩ := skip_append mark ignoring inner
            · rw [same, visible, List.nil_append]
            · exact (hidden tail).1.trans (List.suffix_cons mark tail)
        | cons first others =>
            by_cases letter : isBoundaryNameChar first = true
            · simp only [readWordBoundary_of_letter visible letter,
                readWordBoundary_of_letter (skip_append_of_cons visible _) letter]
              refine (readBoundaryName_prolonged (first :: others)).bind ?_ ?_
              · intro name rest
                exact (readBoundaryEnd_prolonged name rest).mono fun _ _ _ => .inl
              · intro tail name rest passed atom left read
                exact .inl ((readBoundaryEnd_suffix read).trans passed)
            · simp only [readWordBoundary_of_other visible letter,
                readWordBoundary_of_other (skip_append_of_cons visible _) letter]
              exact .ok _ ('{' :: inner)
      · have plain (more : List Char) :
            readWordBoundary ignoring (c :: more) = .ok (.anchor .wordBoundary, c :: more) := by
          rw [readWordBoundary.eq_def]
          split <;> simp_all
        simp only [List.cons_append, plain]
        exact .ok _ (c :: inner)

/-- An escape without its character takes the mark for it, and so does one without the name of its
property. -/
theorem readEscape_prolonged (text : List Char) :
    Prolonged mark (Braced mark ignoring)
      (readEscape ignoring text)
      (fun tail => readEscape ignoring (text ++ mark :: tail)) := by
  cases text with
  | nil =>
      refine .of_error fun tail atom rest read => .inl ?_
      have escaped :
          readEscape ignoring (mark :: tail) = .ok (.literal ⟨mark, false⟩, tail) := by
        obtain rfl | rfl := closing.either <;> rfl
      simp only [List.nil_append, escaped, Except.ok.injEq, Prod.mk.injEq] at read
      exact read.2 ▸ List.suffix_rfl
  | cons c rest =>
      simp only [List.cons_append, readEscape]
      refine .ite (fun _ => .error _ _) fun _ => ?_
      refine .ite (fun _ => ?_) fun _ => ?_
      · refine Prolonged.mono ?_ fun _ _ _ => .inl
        exact (readHex_prolonged c rest).check (fun literal => .ok (.literal literal))
          fun _ _ => rfl
      · refine .ite (fun _ => ?_) fun _ => ?_
        · exact (readProperty_prolonged rest).mono fun _ _ _ => .inl
        · refine .ite (fun _ => readWordBoundary_prolonged rest) fun _ => ?_
          refine .ite (fun _ => .ok _ rest) fun _ => ?_
          cases shortOfLetter? c with
          | some short => exact .ok _ rest
          | none =>
              cases controlOfLetter? c with
              | some control => exact .ok _ rest
              | none =>
                  cases anchorOfLetter? c with
                  | some anchor => exact .ok _ rest
                  | none => exact .error _ _

/-! ## Openings -/

/-- The mark ends no flags, so it is a fault among them. -/
theorem readFlags_prolonged (flags : FlagsRead) (text : List Char) :
    Prolonged mark (Passed (FlagChange × Char))
      (readFlags flags text)
      (fun tail => readFlags flags (text ++ mark :: tail)) := by
  induction text generalizing flags with
  | nil =>
      refine .of_error fun tail value rest read => ?_
      simp only [List.nil_append, readFlags] at read
      obtain rfl | rfl := closing.either
      · split at read
        · split at read
          · simp at read
          · exact suffix_of_ok read List.suffix_rfl
        · contradiction
      · simp [show Flag.ofLetter? '$' = none by rfl] at read
  | cons c rest inductionHypothesis =>
      simp only [List.cons_append, readFlags]
      refine .ite (fun _ => .ite (fun _ => .error _ _) fun _ => .ok _ rest) fun _ => ?_
      refine .ite (fun _ => .ite (fun _ => .error _ _) fun _ => inductionHypothesis _) fun _ => ?_
      cases Flag.ofLetter? c with
      | none => exact .error _ _
      | some flag =>
          refine .ite (fun _ => .error _ _) fun _ => ?_
          exact .ite (fun _ => inductionHypothesis _) fun _ => inductionHypothesis _

/-- The mark is no part of a group name and does not end one. -/
theorem readGroupNameFrom_prolonged (first : Bool) (text : List Char) :
    Prolonged mark (Passed (List Char))
      (readGroupNameFrom first text)
      (fun tail => readGroupNameFrom first (text ++ mark :: tail)) := by
  induction text generalizing first with
  | nil =>
      refine .of_error fun tail name rest read => ?_
      rw [List.nil_append, readGroupNameFrom] at read
      split at read
      · rename_i ends
        exact absurd (by simpa using ends) (mark_ne (by decide))
      · split at read
        · obtain ⟨⟨others, left⟩, deeper, read⟩ := bind_eq_ok.mp read
          exact suffix_of_ok read (readGroupNameFrom_suffix deeper)
        · simp at read
  | cons c rest inductionHypothesis =>
      simp only [List.cons_append, readGroupNameFrom]
      refine .ite (fun _ => .ok [] rest) fun _ => ?_
      refine .ite (fun _ => ?_) fun _ => .error _ _
      exact (inductionHypothesis false).check (fun name => .ok (c :: name)) fun _ _ => rfl

/-- Whether a name is taken is asked after it has been read, and has nothing to do with the mark. -/
theorem readGroupName_prolonged (earlier : List (List Char)) (text : List Char) :
    Prolonged mark (Passed (List Char))
      (readGroupName earlier text)
      (fun tail => readGroupName earlier (text ++ mark :: tail)) := by
  refine (readGroupNameFrom_prolonged true text).check (fun name =>
    if name.isEmpty then .error .groupNameEmpty
    else if earlier.contains name then .error .groupNameRepeated
    else .ok name) fun name rest => ?_
  dsimp only
  split
  · rfl
  · split <;> rfl

theorem readNamedGroup_prolonged (names : List (List Char)) (text : List Char) :
    Prolonged mark (Passed Opening)
      (readNamedGroup names text)
      (fun tail => readNamedGroup names (text ++ mark :: tail)) :=
  (readGroupName_prolonged names text).check (fun name => .ok (.group .capture (some name)))
    fun _ _ => rfl

theorem readFlagOpening_prolonged (text : List Char) :
    Prolonged mark (Passed Opening)
      (readFlagOpening text)
      (fun tail => readFlagOpening (text ++ mark :: tail)) := by
  refine (readFlags_prolonged ⟨[], [], false⟩ text).check (fun (change, ending) =>
    if ending == ':' then .ok (.group (.plain change) none)
    else if change == .none then .error .operandMissing
    else .ok (.flags change)) fun ⟨change, ending⟩ rest => ?_
  dsimp only
  split
  · rfl
  · split <;> rfl

/-- An angle bracket opens a name, unless it looks behind. -/
theorem readQualifier_of_angle
    (names : List (List Char))
    (rest : List Char)
    (ahead : ∀ more, rest ≠ '=' :: more)
    (negative : ∀ more, rest ≠ '!' :: more) :
    readQualifier names ('<' :: rest) = readNamedGroup names rest := by
  rw [readQualifier.eq_def]
  split <;> simp_all

/-- Whatever opens no name and looks nowhere is read as flags. -/
theorem readQualifier_of_flags
    (names : List (List Char))
    {rest : List Char}
    {c : Char}
    (ahead : c ≠ '=')
    (negative : c ≠ '!')
    (angle : c ≠ '<')
    (unnamed : c = 'P' -> ∀ more, rest ≠ '<' :: more) :
    readQualifier names (c :: rest) = readFlagOpening (c :: rest) := by
  rw [readQualifier.eq_def]
  split <;> simp_all

theorem readQualifier_angle_prolonged (names : List (List Char)) (rest : List Char) :
    Prolonged mark (Passed Opening)
      (readQualifier names ('<' :: rest))
      (fun tail => readQualifier names ('<' :: (rest ++ mark :: tail))) := by
  cases rest with
  | nil =>
      simp only [List.nil_append, readQualifier_of_angle names [] (by simp) (by simp),
        readQualifier_of_angle names (mark :: _) (by simp [mark_ne]) (by simp [mark_ne])]
      exact readNamedGroup_prolonged names []
  | cons d more =>
      by_cases ahead : d = '='
      · subst ahead
        exact .error _ _
      by_cases negative : d = '!'
      · subst negative
        exact .error _ _
      have named (after : List Char) :
          readQualifier names ('<' :: d :: after) = readNamedGroup names (d :: after) :=
        readQualifier_of_angle names (d :: after) (by simp [ahead]) (by simp [negative])
      simp only [List.cons_append, named]
      exact readNamedGroup_prolonged names (d :: more)

/-- Each way to go on behind a question mark leaves the mark alone. -/
theorem readQualifier_prolonged (names : List (List Char)) (text : List Char) :
    Prolonged mark (Passed Opening)
      (readQualifier names text)
      (fun tail => readQualifier names (text ++ mark :: tail)) := by
  cases text with
  | nil =>
      refine .of_error fun tail opening rest read => ?_
      have unnamed (same : mark = 'P') (more : List Char) : tail ≠ '<' :: more :=
        absurd same (mark_ne (by decide))
      rw [List.nil_append, readQualifier_of_flags names (mark_ne (by decide))
        (mark_ne (by decide)) (mark_ne (by decide)) unnamed] at read
      cases @readFlagOpening_prolonged mark _ [] with
      | kept value rest short _ => simp [readFlagOpening, readFlags, bind, Except.bind] at short
      | lost beyond _ => exact beyond tail opening rest read
  | cons c rest =>
      simp only [List.cons_append]
      by_cases ahead : c = '='
      · subst ahead
        exact .error _ _
      by_cases negative : c = '!'
      · subst negative
        exact .error _ _
      by_cases angle : c = '<'
      · subst angle
        exact readQualifier_angle_prolonged names rest
      by_cases name : c = 'P' ∧ ∃ more, rest = '<' :: more
      · obtain ⟨rfl, more, rfl⟩ := name
        exact readNamedGroup_prolonged names more
      have unnamed (same : c = 'P') (more : List Char) : rest ≠ '<' :: more :=
        fun shape => name ⟨same, more, shape⟩
      have longer (tail : List Char) (same : c = 'P') (more : List Char) :
          rest ++ mark :: tail ≠ '<' :: more :=
        append_ne_cons (mark_ne (by decide)).symm (unnamed same) tail more
      simp only [readQualifier_of_flags names ahead negative angle unnamed,
        readQualifier_of_flags names ahead negative angle (longer _)]
      exact readFlagOpening_prolonged (c :: rest)

/-- A group that is opened before the mark is opened in the same way in front of it. -/
theorem readOpening_prolonged (names : List (List Char)) (text : List Char) :
    Prolonged mark (Passed Opening)
      (readOpening ignoring names text)
      (fun tail => readOpening ignoring names (text ++ mark :: tail)) := by
  have skips (text : List Char) :
      readOpening ignoring names (skip ignoring text) = readOpening ignoring names text := by
    simp only [readOpening, skip_skip]
  refine .of_visible text Passed.of_suffix readOpening_suffix skips ?_
  have plain {c : Char} (other : c ≠ '?') {text more : List Char}
      (visible : skip ignoring text = c :: more) :
      readOpening ignoring names text = .ok (.group .capture none, c :: more) := by
    rw [readOpening, visible]
    split <;> simp_all
  cases visible : skip ignoring text with
  | nil =>
      have other : mark ≠ '?' := mark_ne (by decide)
      simp only [List.nil_append, plain other (skip_mark ignoring _)]
      simp only [readOpening, skip_nil]
      exact .ok _ []
  | cons c rest =>
      have own := skip_of_skip_eq_cons visible
      by_cases question : c = '?'
      · subst question
        simp only [List.cons_append, readOpening, own]
        exact readQualifier_prolonged names rest
      · simp only [List.cons_append, plain question (own _)]
        exact .ok _ (c :: rest)

/-! ## Counts -/

/-- The mark is no digit and ends a count. -/
theorem readDigits_prolonged (value? : Option Nat) (text : List Char) :
    Prolonged mark (Passed (Option Nat))
      (.ok (readDigits ignoring value? text))
      (fun tail => .ok (readDigits ignoring value? (text ++ mark :: tail))) := by
  fun_induction readDigits ignoring value? text with
  | case1 value? =>
      simp only [List.nil_append, readDigits, isDigit_mark]
      exact .ok value? []
  | case2 value? c rest digit inductionHypothesis =>
      simp only [List.cons_append, readDigits, if_pos digit]
      exact .skipping_total rest (readDigits_suffix ignoring _) inductionHypothesis
  | case3 value? c rest other =>
      simp only [List.cons_append, readDigits, if_neg other]
      exact .ok value? (c :: rest)

theorem dropWhile_append_mark (text tail : List Char) :
    (text ++ mark :: tail).dropWhile Unicode.isBlank =
      text.dropWhile Unicode.isBlank ++ mark :: tail := by
  induction text with
  | nil => simp [isBlank_mark]
  | cons c rest inductionHypothesis =>
      simp only [List.cons_append, List.dropWhile_cons, inductionHypothesis]
      split <;> rfl

/-- A count is read in front of the mark as it is without it, and the same goes for its faults. -/
theorem readCount_prolonged (text : List Char) :
    Prolonged mark (Passed (Except Fault Nat))
      (.ok (readCount ignoring text))
      (fun tail => .ok (readCount ignoring (text ++ mark :: tail))) := by
  have parts (text : List Char) :
      (.ok (readCount ignoring text) : Except Fault _) =
        (.ok (readDigits ignoring none (text.dropWhile Unicode.isBlank)) >>= fun counted =>
          .ok (countOf counted.1, counted.2.dropWhile Unicode.isBlank)) :=
    rfl
  simp only [parts, dropWhile_append_mark]
  refine (readDigits_prolonged none _).bind (fun value? rest => ?_) ?_
  · simp only [dropWhile_append_mark]
    exact .ok _ _
  · intro tail value? rest passed result left read
    exact suffix_of_ok read ((List.dropWhile_suffix _).trans passed)

/-- In front of the mark a count is missing. -/
theorem readCount_mark (tail : List Char) :
    readCount ignoring (mark :: tail) = (.error .countMissing, mark :: tail) := by
  simp [readCount, readDigits, isBlank_mark,
    isDigit_mark, countOf]

theorem readUpperBound_of_other
    {text rest : List Char}
    {c : Char}
    (visible : skip ignoring text = c :: rest)
    (brace : c ≠ '}') :
    readUpperBound ignoring text =
      ((.ok (readCount ignoring (c :: rest)) : Except Fault _) >>= fun counted => do
        let most ← counted.1
        return (some most, counted.2)) := by
  rw [readUpperBound, visible]
  split
  · simp_all
  · simp_all
  · rfl

theorem readUpperBound_prolonged (text : List Char) :
    Prolonged mark (Passed (Option Nat))
      (readUpperBound ignoring text)
      (fun tail => readUpperBound ignoring (text ++ mark :: tail)) := by
  have skips (text : List Char) :
      readUpperBound ignoring (skip ignoring text) = readUpperBound ignoring text := by
    simp only [readUpperBound, skip_skip]
  refine .of_visible text Passed.of_suffix readUpperBound_suffix skips ?_
  cases visible : skip ignoring text with
  | nil =>
      have other : mark ≠ '}' := mark_ne (by decide)
      simp only [List.nil_append, readUpperBound_of_other (skip_mark ignoring _) other,
        readCount_mark]
      simp only [readUpperBound, skip_nil]
      exact .error _ .countMissing
  | cons c rest =>
      have own := skip_of_skip_eq_cons visible
      by_cases brace : c = '}'
      · subst brace
        simp only [List.cons_append, readUpperBound, own]
        exact .ok none ('}' :: rest)
      · simp only [List.cons_append, readUpperBound_of_other (own _) brace]
        refine (readCount_prolonged (c :: rest)).check (fun most => most.map some) ?_
        intro most left
        cases most <;> rfl

/-- Without a comma the only count is both bounds. -/
theorem readBoundsEnd_of_other
    (least : Except Fault Nat)
    {rest : List Char}
    {c : Char}
    (comma : c ≠ ',') :
    readBoundsEnd ignoring least (c :: rest) = (do
      let count ← least
      return ((count, some count), c :: rest)) := by
  rw [readBoundsEnd.eq_def]
  split <;> simp_all

/-- The bounds may be complete just in front of the mark, which is then left with what follows. -/
theorem readBoundsEnd_prolonged (least : Except Fault Nat) (text : List Char) :
    Prolonged mark (Reached mark (Nat × Option Nat))
      (readBoundsEnd ignoring least text)
      (fun tail => readBoundsEnd ignoring least (text ++ mark :: tail)) := by
  cases text with
  | nil => exact .of_error fun tail value rest read => readBoundsEnd_suffix read
  | cons c rest =>
      simp only [List.cons_append]
      by_cases comma : c = ','
      · subst comma
        have bound : Prolonged mark _ (readUpperBound ignoring rest) _ := readUpperBound_prolonged rest
        cases visible : skip ignoring rest with
        | nil =>
            simp only [readBoundsEnd, visible, List.isEmpty_nil, if_true]
            refine .of_error fun tail value left read => ?_
            split at read
            · simp at read
            · obtain ⟨count, _, read⟩ := bind_eq_ok.mp read
              obtain ⟨⟨most, remaining⟩, bounded, read⟩ := bind_eq_ok.mp read
              simp only [pure_eq_ok, Prod.mk.injEq] at read
              cases bound with
              | kept value own short _ => simp [readUpperBound, visible] at short
              | lost beyond _ =>
                  have passed := beyond tail most remaining bounded
                  exact read.2 ▸ passed.trans (List.suffix_cons mark tail)
        | cons d more =>
            simp only [readBoundsEnd, visible, skip_append_of_cons visible, List.isEmpty_cons]
            cases least with
            | error fault => exact .error _ _
            | ok count =>
                refine (bound.check (fun most => .ok (count, most)) fun _ _ => rfl).mono ?_
                exact fun tail _ _ passed => passed.trans (List.suffix_cons mark tail)
      · simp only [readBoundsEnd_of_other least comma]
        cases least with
        | error fault => exact .error _ _
        | ok count => exact .ok _ (c :: rest)

/-- The lower bound is read first. What is wrong with it is told by the rest of the reading. -/
theorem readBounds_of_cons
    {text rest : List Char}
    {c : Char}
    (visible : skip ignoring text = c :: rest) :
    readBounds ignoring text =
      ((.ok (readCount ignoring (c :: rest)) : Except Fault _) >>= fun counted =>
        readBoundsEnd ignoring counted.1 counted.2) := by
  rw [readBounds, visible]
  rfl

theorem readBounds_prolonged (text : List Char) :
    Prolonged mark (Reached mark (Nat × Option Nat))
      (readBounds ignoring text)
      (fun tail => readBounds ignoring (text ++ mark :: tail)) := by
  have skips (text : List Char) :
      readBounds ignoring (skip ignoring text) = readBounds ignoring text := by
    simp only [readBounds, skip_skip]
  refine .of_visible text Reached.of_suffix readBounds_suffix skips ?_
  cases visible : skip ignoring text with
  | nil =>
      have short : readBounds ignoring [] = .error .countUnclosed := by
        simp only [readBounds, skip_nil]
      rw [short]
      exact .of_error fun tail value rest read => readBounds_suffix read
  | cons c rest =>
      have own := skip_of_skip_eq_cons visible
      simp only [List.cons_append, readBounds_of_cons (own _)]
      refine (readCount_prolonged (c :: rest)).bind ?_ ?_
      · exact fun least left => readBoundsEnd_prolonged least left
      · intro tail least left behind value remaining read
        exact .of_suffix tail value remaining ((readBoundsEnd_suffix read).trans behind)

/-- The mark is not the one for few or many. -/
theorem readGreed_prolonged (text : List Char) :
    Prolonged mark (Passed Bool)
      (.ok (readGreed text))
      (fun tail => .ok (readGreed (text ++ mark :: tail))) := by
  cases text with
  | nil =>
      obtain rfl | rfl := closing.either
      · exact .ok true []
      · exact .ok true []
  | cons c rest =>
      by_cases question : c = '?'
      · subst question
        exact .ok false rest
      · have plain (more : List Char) : readGreed (c :: more) = (true, c :: more) := by
          rw [readGreed.eq_def]
          split <;> simp_all
        simp only [List.cons_append, plain]
        exact .ok true (c :: rest)

theorem readRepetitionEnd_prolonged (bounds : Nat × Option Nat) (text : List Char) :
    Prolonged mark (Passed (Nat × Option Nat × Bool))
      (readRepetitionEnd ignoring bounds text)
      (fun tail => readRepetitionEnd ignoring bounds (text ++ mark :: tail)) := by
  cases text with
  | nil =>
      obtain rfl | rfl := closing.either
      · exact .error _ _
      · exact .error _ _
  | cons c rest =>
      simp only [List.cons_append]
      by_cases brace : c = '}'
      · subst brace
        have parts (rest : List Char) :
            readRepetitionEnd ignoring bounds ('}' :: rest) =
              ((.ok (readGreed (skip ignoring rest)) : Except Fault _) >>= fun greed =>
                if bounds.2.all (bounds.1 ≤ ·) then .ok ((bounds.1, bounds.2, greed.1), greed.2)
                else .error .countReversed) :=
          rfl
        have greed : Prolonged mark (Passed Bool)
            (.ok (readGreed (skip ignoring rest)))
            (fun tail => .ok (readGreed (skip ignoring (rest ++ mark :: tail)))) :=
          .skipping_total rest readGreed_suffix (readGreed_prolonged _)
        simp only [parts]
        refine greed.check (fun greedy =>
          if bounds.2.all (bounds.1 ≤ ·) then .ok (bounds.1, bounds.2, greedy)
          else .error .countReversed) fun greedy left => ?_
        split <;> rfl
      · have other (more : List Char) :
            readRepetitionEnd ignoring bounds (c :: more) = .error .countUnclosed := by
          rw [readRepetitionEnd.eq_def]
          split <;> simp_all
        simp only [other]
        exact .error _ _

/-- A counted repetition is closed before the mark, or not at all. -/
theorem readRepetition_prolonged (text : List Char) :
    Prolonged mark (Passed (Nat × Option Nat × Bool))
      (readRepetition ignoring text)
      (fun tail => readRepetition ignoring (text ++ mark :: tail)) := by
  refine (readBounds_prolonged text).bind ?_ ?_
  · exact fun bounds rest => readRepetitionEnd_prolonged bounds rest
  · intro tail bounds rest reached result left read
    obtain ⟨after, rfl, shorter⟩ := readRepetitionEnd_suffix read
    obtain same | passed := List.suffix_cons_iff.mp reached
    · simp only [List.cons.injEq] at same
      exact absurd same.1.symm (mark_ne (by decide))
    · exact shorter.trans (suffix_of_cons_suffix passed)

theorem readRepetition_of_nil
    {text : List Char}
    (visible : skip ignoring text = []) :
    readRepetition ignoring text = .error .countUnclosed := by
  simp only [readRepetition, readBounds, visible]
  rfl

/-- A count that does not start in front of the mark ends behind it. -/
theorem readRepetition_passed
    {tail text rest : List Char}
    {bounds : Nat × Option Nat × Bool}
    (read : readRepetition ignoring text = .ok (bounds, rest))
    (behind : skip ignoring text <:+ mark :: tail) :
    rest <:+ tail := by
  obtain same | passed := List.suffix_cons_iff.mp behind
  · rw [readRepetition, readBounds_of_cons same] at read
    obtain rfl | rfl := closing.either
    · simp [readCount_mark, readBoundsEnd, bind, Except.bind] at read
    · simp [readCount_mark, readBoundsEnd, bind, Except.bind] at read
  · have skips : readRepetition ignoring (skip ignoring text) = readRepetition ignoring text := by
      simp only [readRepetition, readBounds, skip_skip]
    rw [← skips] at read
    exact (readRepetition_suffix read).trans passed

end

end Pattern
end PathVersions
