import PathVersions.Pattern.Read
import Mathlib.Data.List.Infix

/-!
# What readers leave

Whatever a reader of patterns takes stands at the start of the text that it is given, so it leaves
an end of that text. This holds of the smallest readers and is passed on to those that use them,
up to a single step of the reading of a pattern.
-/

namespace PathVersions
namespace Pattern

/-! ## Opening computations -/

/-- A reading goes on exactly with what the one before it has found. -/
theorem bind_eq_ok
    {α β : Type}
    {first : Except Fault α}
    {next : α -> Except Fault β}
    {result : β} :
    (first >>= next) = .ok result ↔ ∃ value, first = .ok value ∧ next value = .ok result := by
  cases first <;> simp [bind, Except.bind]

@[simp] theorem pure_eq_ok {α : Type} {value result : α} :
    (pure value : Except Fault α) = .ok result ↔ value = result := by
  simp [pure, Except.pure]

theorem suffix_of_cons_suffix
    {text rest : List Char}
    {c : Char}
    (shorter : c :: rest <:+ text) :
    rest <:+ text :=
  (List.suffix_cons c rest).trans shorter

/-- A computation that succeeds with what a reader leaves. -/
theorem suffix_of_ok
    {α : Type}
    {found : α × List Char}
    {value : α}
    {text rest : List Char}
    (read : (.ok found : Except Fault (α × List Char)) = .ok (value, rest))
    (shorter : found.2 <:+ text) :
    rest <:+ text := by
  rw [Except.ok.injEq] at read
  rwa [read] at shorter

/-! ## Spacing -/

/-- Spacing and comments are only dropped from the front. -/
theorem dropSpacing_suffix (comment : Bool) (text : List Char) :
    dropSpacing comment text <:+ text := by
  fun_induction dropSpacing comment text <;> grind

theorem skip_suffix (ignoring : Bool) (text : List Char) : skip ignoring text <:+ text := by
  unfold skip
  split
  · exact dropSpacing_suffix false text
  · exact List.suffix_rfl

theorem suffix_of_skip_eq
    {ignoring : Bool}
    {text visible : List Char}
    (equation : skip ignoring text = visible) :
    visible <:+ text :=
  equation ▸ skip_suffix ignoring text

theorem suffix_of_skip_cons
    {ignoring : Bool}
    {text rest : List Char}
    {c : Char}
    (equation : skip ignoring text = c :: rest) :
    rest <:+ text :=
  suffix_of_cons_suffix (suffix_of_skip_eq equation)

/-! ## Escapes -/

section

variable {ignoring negated first : Bool} {text rest : List Char}

/-- A fixed number of digits is taken off the front, spacing between them included. -/
theorem readHexDigits_suffix
    {count value result : Nat}
    (read : readHexDigits ignoring count value text = .ok (result, rest)) :
    rest <:+ text := by
  fun_induction readHexDigits ignoring count value text with
  | case1 value text => simp_all
  | case2 => simp at read
  | case3 => simp at read
  | case4 count value c after digit equation inductionHypothesis =>
      exact (inductionHypothesis read).trans
        ((skip_suffix ignoring after).trans (List.suffix_cons c after))

/-- A braced code point is taken off the front up to its brace. -/
theorem readHexBraced_suffix
    {value? result : Option Nat}
    (read : readHexBraced ignoring value? text = .ok (result, rest)) :
    rest <:+ text := by
  fun_induction readHexBraced ignoring value? text <;>
    grind [skip_suffix, suffix_of_skip_cons, List.IsSuffix.trans]

/-- Whichever of the two forms a hexadecimal escape has, it is taken off the front. -/
theorem readHex_suffix
    {letter : Char}
    {result : Literal}
    (read : readHex ignoring letter text = .ok (result, rest)) :
    rest <:+ text := by
  simp only [readHex] at read
  split at read
  · simp at read
  · rename_i after equation
    obtain ⟨⟨value?, left⟩, braced, read⟩ := bind_eq_ok.mp read
    have shorter := (readHexBraced_suffix braced).trans (suffix_of_skip_cons equation)
    split at read
    · simp at read
    · obtain ⟨c, _, read⟩ := bind_eq_ok.mp read
      exact suffix_of_ok read shorter
  · rename_i equation
    obtain ⟨⟨value, left⟩, digits, read⟩ := bind_eq_ok.mp read
    have shorter := (readHexDigits_suffix digits).trans (skip_suffix ignoring text)
    obtain ⟨c, _, read⟩ := bind_eq_ok.mp read
    exact suffix_of_ok read shorter

/-- A braced name ends at its brace. -/
theorem readBraced_suffix
    {name : List Char}
    (read : readBraced ignoring text = .ok (name, rest)) :
    rest <:+ text := by
  fun_induction readBraced ignoring text generalizing name rest with
  | case1 text equation => simp at read
  | case2 text c after equation _ closing =>
      exact suffix_of_ok read (suffix_of_skip_cons equation)
  | case3 text c after equation _ ordinary inductionHypothesis =>
      obtain ⟨⟨others, left⟩, deeper, read⟩ := bind_eq_ok.mp read
      exact suffix_of_ok read ((inductionHypothesis deeper).trans (suffix_of_skip_cons equation))

/-- The name of a property is one letter or is braced, and is taken off the front. -/
theorem readProperty_suffix
    {atom : Atom}
    (read : readProperty ignoring negated text = .ok (atom, rest)) :
    rest <:+ text := by
  rw [readProperty] at read
  split at read
  · simp at read
  · rename_i after equation
    obtain ⟨⟨name, left⟩, braced, read⟩ := bind_eq_ok.mp read
    exact suffix_of_ok read ((readBraced_suffix braced).trans (suffix_of_skip_cons equation))
  · simp at read
  · rename_i c after _ _ equation
    exact suffix_of_ok read ((skip_suffix ignoring after).trans (suffix_of_skip_cons equation))

/-- The letters of a word boundary are taken off the front, as many as there are. -/
theorem readBoundaryName_suffix (ignoring : Bool) (text : List Char) :
    (readBoundaryName ignoring text).2 <:+ text := by
  fun_induction readBoundaryName ignoring text <;>
    grind [skip_suffix, List.IsSuffix.trans]

theorem readBoundaryEnd_suffix
    {name : List Char}
    {atom : Atom}
    (read : readBoundaryEnd name text = .ok (atom, rest)) :
    rest <:+ text := by
  rw [readBoundaryEnd.eq_def] at read
  split at read
  · split at read
    · exact suffix_of_ok read (List.suffix_cons _ _)
    · simp at read
  · simp at read

/-- A brace that names no word boundary is left where it is. -/
theorem readWordBoundary_suffix
    {atom : Atom}
    (read : readWordBoundary ignoring text = .ok (atom, rest)) :
    rest <:+ text := by
  rw [readWordBoundary.eq_def] at read
  split at read
  · rename_i inner
    split at read
    · simp at read
    · rename_i c after equation
      split at read
      · have left := readBoundaryName_suffix ignoring (c :: after)
        have shorter := left.trans (suffix_of_skip_eq equation)
        exact (readBoundaryEnd_suffix read).trans (shorter.trans (List.suffix_cons '{' inner))
      · exact suffix_of_ok read List.suffix_rfl
  · exact suffix_of_ok read List.suffix_rfl

/-- Every escape is taken off the front, and nothing else is. -/
theorem readEscape_suffix
    {atom : Atom}
    (read : readEscape ignoring text = .ok (atom, rest)) :
    rest <:+ text := by
  cases text with
  | nil => simp [readEscape] at read
  | cons c after =>
      have shorter := List.suffix_cons c after
      rw [readEscape] at read
      split at read
      · simp at read
      · split at read
        · obtain ⟨⟨own, left⟩, hex, read⟩ := bind_eq_ok.mp read
          exact suffix_of_ok read ((readHex_suffix hex).trans shorter)
        · split at read
          · exact (readProperty_suffix read).trans shorter
          · split at read
            · exact (readWordBoundary_suffix read).trans shorter
            · grind

/-! ## Openings and counts -/

theorem readFlags_suffix
    {flags : FlagsRead}
    {change : FlagChange}
    {ending : Char}
    (read : readFlags flags text = .ok ((change, ending), rest)) :
    rest <:+ text := by
  fun_induction readFlags flags text <;> grind

theorem readGroupNameFrom_suffix
    {name : List Char}
    (read : readGroupNameFrom first text = .ok (name, rest)) :
    rest <:+ text := by
  fun_induction readGroupNameFrom first text generalizing name rest with
  | case1 => simp at read
  | case2 => grind
  | case3 first c after _ _ inductionHypothesis =>
      obtain ⟨⟨others, left⟩, deeper, read⟩ := bind_eq_ok.mp read
      exact suffix_of_ok read ((inductionHypothesis deeper).trans (List.suffix_cons c after))
  | case4 => simp at read

theorem readGroupName_suffix
    {earlier : List (List Char)}
    {name : List Char}
    (read : readGroupName earlier text = .ok (name, rest)) :
    rest <:+ text := by
  obtain ⟨⟨own, left⟩, named, read⟩ := bind_eq_ok.mp read
  have shorter := readGroupNameFrom_suffix named
  grind [pure_eq_ok]

/-- The name of a group is read up to its bracket, unless it is taken already. -/
theorem readNamedGroup_suffix
    {names : List (List Char)}
    {opening : Opening}
    (read : readNamedGroup names text = .ok (opening, rest)) :
    rest <:+ text := by
  obtain ⟨⟨name, left⟩, named, read⟩ := bind_eq_ok.mp read
  exact suffix_of_ok read (readGroupName_suffix named)

theorem readFlagOpening_suffix
    {opening : Opening}
    (read : readFlagOpening text = .ok (opening, rest)) :
    rest <:+ text := by
  obtain ⟨⟨⟨change, ending⟩, left⟩, flags, read⟩ := bind_eq_ok.mp read
  have shorter := readFlags_suffix flags
  dsimp only at read
  split at read
  · exact suffix_of_ok read shorter
  · split at read
    · simp at read
    · exact suffix_of_ok read shorter

/-- What stands behind the question mark of a group is read as flags or as a name. -/
theorem readQualifier_suffix
    {names : List (List Char)}
    {opening : Opening}
    (read : readQualifier names text = .ok (opening, rest)) :
    rest <:+ text := by
  rw [readQualifier.eq_def] at read
  split at read
  · simp at read
  · simp at read
  · simp at read
  · simp at read
  · simp at read
  · exact (readNamedGroup_suffix read).trans (List.suffix_cons _ _)
  · exact (readNamedGroup_suffix read).trans
      ((List.suffix_cons _ _).trans (List.suffix_cons _ _))
  · exact readFlagOpening_suffix read

/-- The opening of a group is taken off the front, its spacing included. -/
theorem readOpening_suffix
    {names : List (List Char)}
    {opening : Opening}
    (read : readOpening ignoring names text = .ok (opening, rest)) :
    rest <:+ text := by
  have shorter := skip_suffix ignoring text
  rw [readOpening] at read
  split at read
  · rename_i after equation
    exact (readQualifier_suffix read).trans (suffix_of_skip_cons equation)
  · exact suffix_of_ok read shorter

theorem readDigits_suffix (ignoring : Bool) (value? : Option Nat) (text : List Char) :
    (readDigits ignoring value? text).2 <:+ text := by
  fun_induction readDigits ignoring value? text <;>
    grind [skip_suffix, List.IsSuffix.trans]

/-- Also a count that is missing or too large leaves an end of the text. -/
theorem readCount_suffix (ignoring : Bool) (text : List Char) :
    (readCount ignoring text).2 <:+ text :=
  ((List.dropWhile_suffix _).trans (readDigits_suffix ignoring none _)).trans
    (List.dropWhile_suffix _)

/-- The upper bound may be missing in front of the closing brace, which stays. -/
theorem readUpperBound_suffix
    {bound : Option Nat}
    (read : readUpperBound ignoring text = .ok (bound, rest)) :
    rest <:+ text := by
  rw [readUpperBound] at read
  split at read
  · simp at read
  · rename_i after equation
    exact suffix_of_ok read (suffix_of_skip_eq equation)
  · obtain ⟨most, _, read⟩ := bind_eq_ok.mp read
    exact suffix_of_ok read ((readCount_suffix ignoring _).trans (skip_suffix ignoring text))

theorem readBoundsEnd_suffix
    {least : Except Fault Nat}
    {bounds : Nat × Option Nat}
    (read : readBoundsEnd ignoring least text = .ok (bounds, rest)) :
    rest <:+ text := by
  rw [readBoundsEnd.eq_def] at read
  split at read
  · simp at read
  · rename_i after
    split at read
    · simp at read
    · obtain ⟨least, _, read⟩ := bind_eq_ok.mp read
      obtain ⟨⟨most, left⟩, bounded, read⟩ := bind_eq_ok.mp read
      exact suffix_of_ok read ((readUpperBound_suffix bounded).trans (List.suffix_cons ',' after))
  · obtain ⟨count, _, read⟩ := bind_eq_ok.mp read
    exact suffix_of_ok read List.suffix_rfl

theorem readBounds_suffix
    {bounds : Nat × Option Nat}
    (read : readBounds ignoring text = .ok (bounds, rest)) :
    rest <:+ text := by
  rw [readBounds] at read
  split at read
  · simp at read
  · have first := (readCount_suffix ignoring (skip ignoring text)).trans (skip_suffix ignoring text)
    exact (readBoundsEnd_suffix read).trans first

theorem readGreed_suffix (text : List Char) : (readGreed text).2 <:+ text := by
  unfold readGreed
  split
  · exact List.suffix_cons _ _
  · exact List.suffix_rfl

/-- A repetition ends behind a closing brace and the mark for few or many that may follow it. -/
theorem readRepetitionEnd_suffix
    {bounds : Nat × Option Nat}
    {result : Nat × Option Nat × Bool}
    (read : readRepetitionEnd ignoring bounds text = .ok (result, rest)) :
    ∃ after, text = '}' :: after ∧ rest <:+ after := by
  rw [readRepetitionEnd.eq_def] at read
  split at read
  · rename_i after
    have shorter := (readGreed_suffix (skip ignoring after)).trans (skip_suffix ignoring after)
    dsimp only at read
    split at read
    · simp only [Except.ok.injEq, Prod.mk.injEq] at read
      exact ⟨after, rfl, read.2 ▸ shorter⟩
    · simp at read
  · simp at read

/-- A counted repetition is taken off the front as a whole. -/
theorem readRepetition_suffix
    {bounds : Nat × Option Nat × Bool}
    (read : readRepetition ignoring text = .ok (bounds, rest)) :
    rest <:+ text := by
  obtain ⟨⟨bounds, left⟩, bounded, read⟩ := bind_eq_ok.mp read
  obtain ⟨after, rfl, shorter⟩ := readRepetitionEnd_suffix read
  exact shorter.trans (suffix_of_cons_suffix (readBounds_suffix bounded))

/-! ## Bracketed sets -/

theorem readCaret_suffix (text : List Char) : (readCaret text).2 <:+ text := by
  unfold readCaret
  split
  · exact List.suffix_cons _ _
  · exact List.suffix_rfl

theorem readNamedClass_suffix
    {item : SetTree}
    (read : readNamedClass? text = some (item, rest)) :
    rest <:+ text := by
  unfold readNamedClass? at read
  split at read
  · rename_i after
    have first := (readCaret_suffix after).trans (List.suffix_cons ':' after)
    dsimp only at read
    split at read
    · rename_i tail found
      obtain ⟨kind, _, same⟩ := Option.map_eq_some_iff.mp read
      simp only [Prod.mk.injEq] at same
      have second : ':' :: ']' :: tail <:+ (readCaret after).2 :=
        found ▸ List.dropWhile_suffix _
      exact same.2 ▸ (suffix_of_cons_suffix (suffix_of_cons_suffix second)).trans first
    · simp at read
  · simp at read

/-- Hyphens at the start of a set stand for themselves, however many there are. -/
theorem readHyphens_suffix (ignoring : Bool) (items : List SetTree) (text : List Char) :
    (readHyphens ignoring items text).2 <:+ text := by
  fun_induction readHyphens ignoring items text <;>
    grind [skip_suffix, List.IsSuffix.trans]

/-- A closing bracket at the start of a set stands for itself. -/
theorem readFirstBracket_suffix (ignoring : Bool) (items : List SetTree) (text : List Char) :
    (readFirstBracket ignoring items text).2 <:+ text := by
  unfold readFirstBracket
  split
  · exact (skip_suffix ignoring _).trans (List.suffix_cons _ _)
  · exact List.suffix_rfl

theorem readSetStart_suffix
    {level : OpenSet}
    (read : readSetStart ignoring negated text = .ok (level, rest)) :
    rest <:+ text := by
  have hyphens := (readHyphens_suffix ignoring [] _).trans (skip_suffix ignoring text)
  have bracket := readFirstBracket_suffix ignoring
    (readHyphens ignoring [] (skip ignoring text)).1 (readHyphens ignoring [] (skip ignoring text)).2
  simp only [readSetStart] at read
  split at read
  · simp at read
  · exact suffix_of_ok read (bracket.trans hyphens)

theorem readSetOpening_suffix
    {level : OpenSet}
    (read : readSetOpening ignoring text = .ok (level, rest)) :
    rest <:+ text :=
  (readSetStart_suffix read).trans
    ((readCaret_suffix (skip ignoring text)).trans (skip_suffix ignoring text))

/-- One end of a range is a character or an escape. -/
theorem readSetAtom_suffix
    {atom : Atom}
    (read : readSetAtom ignoring text = .ok (atom, rest)) :
    rest <:+ text := by
  rw [readSetAtom.eq_def] at read
  split at read
  · simp at read
  · exact (readEscape_suffix read).trans (List.suffix_cons _ _)
  · exact suffix_of_ok read (List.suffix_cons _ _)

/-- Whether a hyphen makes a range or stands for itself, an end of the text is left. -/
theorem readRange_suffix
    {first : Atom}
    {item : SetTree}
    (read : readRange ignoring first text = .ok (item, rest)) :
    rest <:+ text := by
  rw [readRange] at read
  split at read
  · simp at read
  · obtain ⟨⟨last, left⟩, atom, read⟩ := bind_eq_ok.mp read
    obtain ⟨_, _, read⟩ := bind_eq_ok.mp read
    obtain ⟨_, _, read⟩ := bind_eq_ok.mp read
    split at read
    · simp at read
    · exact suffix_of_ok read ((readSetAtom_suffix atom).trans (skip_suffix ignoring text))

theorem readSetItemEnd_suffix
    {first : Atom}
    {item : SetTree}
    (read : readSetItemEnd ignoring first text = .ok (item, rest)) :
    rest <:+ text := by
  have shorter := skip_suffix ignoring text
  rw [readSetItemEnd] at read
  split at read
  · simp at read
  · rename_i after equation
    rw [equation] at shorter
    dsimp only at read
    split at read
    · obtain ⟨own, _, read⟩ := bind_eq_ok.mp read
      exact suffix_of_ok read shorter
    · exact (readRange_suffix read).trans (suffix_of_cons_suffix shorter)
  · obtain ⟨own, _, read⟩ := bind_eq_ok.mp read
    exact suffix_of_ok read shorter

theorem readSetItem_suffix
    {item : SetTree}
    (read : readSetItem ignoring text = .ok (item, rest)) :
    rest <:+ text := by
  obtain ⟨⟨first, left⟩, atom, read⟩ := bind_eq_ok.mp read
  exact (readSetItemEnd_suffix read).trans (readSetAtom_suffix atom)

/-- Each step through a set takes something off the front. -/
theorem readSetStep_suffix
    {step : SetStep}
    (read : readSetStep ignoring text = .ok (step, rest)) :
    rest <:+ text := by
  rw [readSetStep] at read
  split at read
  · simp at read
  · rename_i after equation
    have shorter := suffix_of_skip_cons equation
    split at read
    · rename_i item tail named
      exact suffix_of_ok read ((readNamedClass_suffix named).trans shorter)
    · obtain ⟨⟨level, left⟩, opened, read⟩ := bind_eq_ok.mp read
      exact suffix_of_ok read ((readSetOpening_suffix opened).trans shorter)
  · rename_i equation
    exact suffix_of_ok read (suffix_of_skip_cons equation)
  · rename_i equation
    exact suffix_of_ok read (suffix_of_cons_suffix (suffix_of_skip_cons equation))
  · rename_i equation
    exact suffix_of_ok read (suffix_of_cons_suffix (suffix_of_skip_cons equation))
  · rename_i equation
    exact suffix_of_ok read (suffix_of_cons_suffix (suffix_of_skip_cons equation))
  · obtain ⟨⟨item, left⟩, inner, read⟩ := bind_eq_ok.mp read
    exact suffix_of_ok read ((readSetItem_suffix inner).trans (skip_suffix ignoring text))

end

/-- A set is read to the bracket that closes it, with all sets within it. -/
theorem readSet_suffix
    {ignoring : Bool}
    {level : OpenSet}
    {outer : List OpenSet}
    {text rest : List Char}
    {tree : Tree}
    (read : readSet ignoring level outer text = .ok (tree, rest)) :
    rest <:+ text := by
  induction length : text.length using Nat.strong_induction_on
    generalizing level outer text with
  | _ size inductionHypothesis =>
      rw [readSet] at read
      obtain ⟨⟨step, left⟩, stepped, read⟩ := bind_eq_ok.mp read
      have shorter := readSetStep_suffix stepped
      dsimp only at read
      split at read
      · rename_i less
        have deeper {level : OpenSet} {outer : List OpenSet}
            (read : readSet ignoring level outer left = .ok (tree, rest)) : rest <:+ text :=
          (inductionHypothesis left.length (length ▸ less) read rfl).trans shorter
        cases step with
        | item item => exact deeper read
        | operator operator => exact deeper read
        | opening inner => exact deeper read
        | closing =>
            cases outer with
            | nil =>
                exact suffix_of_ok read shorter
            | cons parent outer => exact deeper read
      · simp at read

theorem readBracket_suffix
    {ignoring : Bool}
    {text rest : List Char}
    {tree : Tree}
    (read : readBracket ignoring text = .ok (tree, rest)) :
    rest <:+ text := by
  obtain ⟨⟨level, left⟩, opened, read⟩ := bind_eq_ok.mp read
  exact (readSet_suffix read).trans (readSetOpening_suffix opened)

/-! ## Steps -/

namespace Progress

/-- Everything that a step can do to a state, and which end of the text it can leave. -/
inductive StepsTo (progress : Progress) (text : List Char) :
    Char -> Progress -> List Char -> Prop
  | opens (opening : Opening) (rest : List Char) (shorter : rest <:+ text) :
      StepsTo progress text '(' (progress.opened opening) rest
  | closes (next : Progress) (closed : progress.closed = .ok next) :
      StepsTo progress text ')' next text
  | branches : StepsTo progress text '|' { progress with level := progress.level.branch } text
  | pushes (c : Char) (item : Tree) (rest : List Char) (other : c ≠ ')') (shorter : rest <:+ text) :
      StepsTo progress text c (progress.push item) rest
  | repeats
      (c : Char)
      (least : Nat)
      (most : Option Nat)
      (greedy : Bool)
      (next : Progress)
      (rest : List Char)
      (other : c ≠ ')')
      (repeated : progress.repeated least most greedy = .ok next)
      (shorter : rest <:+ text) :
      StepsTo progress text c next rest

variable {progress next : Progress} {c : Char} {text rest : List Char}

/-- Behind a sign of repetition there is only its mark for few or many to be read. -/
theorem stepsTo_of_greed
    {least : Nat}
    {most : Option Nat}
    (other : c ≠ ')')
    (stepped : (do
      return (← progress.repeated least most (readGreed text).1, (readGreed text).2)) =
        (.ok (next, rest) : Except Fault _)) :
    progress.StepsTo text c next rest := by
  obtain ⟨own, repeated, stepped⟩ := bind_eq_ok.mp stepped
  simp only [pure_eq_ok, Prod.mk.injEq] at stepped
  obtain ⟨rfl, rfl⟩ := stepped
  exact .repeats c least most _ own _ other repeated (readGreed_suffix text)

/-- A step does one of the things that `StepsTo` lists, by the character that it starts with. -/
theorem stepsTo_of_step (stepped : progress.step c text = .ok (next, rest)) :
    progress.StepsTo text c next rest := by
  rw [step.eq_def] at stepped
  dsimp only at stepped
  split at stepped
  · obtain ⟨⟨opening, left⟩, read, stepped⟩ := bind_eq_ok.mp stepped
    simp only [pure_eq_ok, Prod.mk.injEq] at stepped
    obtain ⟨rfl, rfl⟩ := stepped
    exact .opens opening left (readOpening_suffix read)
  · obtain ⟨own, closed, stepped⟩ := bind_eq_ok.mp stepped
    simp only [pure_eq_ok, Prod.mk.injEq] at stepped
    obtain ⟨rfl, rfl⟩ := stepped
    exact .closes own closed
  · simp only [Except.ok.injEq, Prod.mk.injEq] at stepped
    obtain ⟨rfl, rfl⟩ := stepped
    exact .branches
  · obtain ⟨⟨item, left⟩, read, stepped⟩ := bind_eq_ok.mp stepped
    simp only [pure_eq_ok, Prod.mk.injEq] at stepped
    obtain ⟨rfl, rfl⟩ := stepped
    exact .pushes _ item left (by decide) (readBracket_suffix read)
  · exact stepsTo_of_greed (by decide) stepped
  · exact stepsTo_of_greed (by decide) stepped
  · exact stepsTo_of_greed (by decide) stepped
  · obtain ⟨_, _, stepped⟩ := bind_eq_ok.mp stepped
    obtain ⟨⟨⟨least, most, greedy⟩, left⟩, read, stepped⟩ := bind_eq_ok.mp stepped
    obtain ⟨own, repeated, stepped⟩ := bind_eq_ok.mp stepped
    simp only [pure_eq_ok, Prod.mk.injEq] at stepped
    obtain ⟨rfl, rfl⟩ := stepped
    exact .repeats _ least most greedy own left (by decide) repeated (readRepetition_suffix read)
  · obtain ⟨⟨atom, left⟩, read, stepped⟩ := bind_eq_ok.mp stepped
    simp only [pure_eq_ok, Prod.mk.injEq] at stepped
    obtain ⟨rfl, rfl⟩ := stepped
    exact .pushes _ atom.tree left (by decide) (readEscape_suffix read)
  · simp only [Except.ok.injEq, Prod.mk.injEq] at stepped
    obtain ⟨rfl, rfl⟩ := stepped
    exact .pushes _ .dot text (by decide) List.suffix_rfl
  · simp only [Except.ok.injEq, Prod.mk.injEq] at stepped
    obtain ⟨rfl, rfl⟩ := stepped
    exact .pushes _ (.anchor .lineStart) text (by decide) List.suffix_rfl
  · simp only [Except.ok.injEq, Prod.mk.injEq] at stepped
    obtain ⟨rfl, rfl⟩ := stepped
    exact .pushes _ (.anchor .lineEnd) text (by decide) List.suffix_rfl
  · simp only [Except.ok.injEq, Prod.mk.injEq] at stepped
    obtain ⟨rfl, rfl⟩ := stepped
    exact .pushes c (.literal ⟨c, false⟩) text ‹_› List.suffix_rfl

/-- No step looks back. -/
theorem step_suffix (stepped : progress.step c text = .ok (next, rest)) : rest <:+ text := by
  cases stepsTo_of_step stepped with
  | opens opening rest shorter => exact shorter
  | closes next closed => exact List.suffix_rfl
  | branches => exact List.suffix_rfl
  | pushes c item rest other shorter => exact shorter
  | repeats c least most greedy next rest other repeated shorter => exact shorter

end Progress

end Pattern
end PathVersions
