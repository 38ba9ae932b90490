import PathVersions.Proofs.Pattern.Remainder

/-!
# Reading in front of a closing mark

What a reader makes of a text says nearly all about what it makes of the same text in front of a
closing mark, which is a closing parenthesis or a dollar sign. Where the reader succeeds, it leaves
the mark and all that follows alone, unless the mark falls into a comment. Where it fails for want
of characters, it may succeed on the longer text, but only by taking the mark for something else.
-/

namespace PathVersions
namespace Pattern

/-- A character that is put after a pattern: the parenthesis of a group around it, or the mark of
the end. -/
class ClosingMark (mark : Char) : Prop where
  either : mark = ')' ∨ mark = '$'

instance : ClosingMark ')' := ⟨.inl rfl⟩

instance : ClosingMark '$' := ⟨.inr rfl⟩

/-- How the result of a reader on a text relates to its results on that text with a closing mark
and more after it. `Beyond` says what can be left where the mark is lost, given the text after
it. -/
inductive Prolonged
    (mark : Char)
    {α : Type}
    (Beyond : List Char -> α -> List Char -> Prop)
    (alone : Except Fault (α × List Char))
    (followed : List Char -> Except Fault (α × List Char)) :
    Prop
  | kept
      (value : α)
      (rest : List Char)
      (read : alone = .ok (value, rest))
      (same : ∀ tail, followed tail = .ok (value, rest ++ mark :: tail))
  | lost
      (beyond : ∀ tail value rest, followed tail = .ok (value, rest) -> Beyond tail value rest)
      (hidden : ∀ result, alone = .ok result ->
        ∀ tail, '\n' ∉ tail -> followed tail = .ok result)

/-- Nothing is left but an end of the text after the mark. -/
def Passed (α : Type) (tail : List Char) (_value : α) (rest : List Char) : Prop :=
  rest <:+ tail

/-- Nothing is left but the mark and the text after it, or an end of them. -/
def Reached (mark : Char) (α : Type) (tail : List Char) (_value : α) (rest : List Char) : Prop :=
  rest <:+ mark :: tail

variable {mark : Char}

namespace Prolonged

variable {α β : Type}
  {Beyond : List Char -> α -> List Char -> Prop}
  {Further : List Char -> β -> List Char -> Prop}

/-- More may be left where the mark is lost. -/
theorem mono
    {Wider : List Char -> α -> List Char -> Prop}
    {alone : Except Fault (α × List Char)}
    {followed : List Char -> Except Fault (α × List Char)}
    (prolonged : Prolonged mark Beyond alone followed)
    (wider : ∀ tail value rest, Beyond tail value rest -> Wider tail value rest) :
    Prolonged mark Wider alone followed := by
  cases prolonged with
  | kept value rest read same => exact .kept value rest read same
  | lost beyond hidden =>
      exact .lost (fun tail value rest read => wider tail value rest (beyond tail value rest read))
        hidden

/-- A reader that fails on the text by itself. -/
theorem of_error
    {fault : Fault}
    {followed : List Char -> Except Fault (α × List Char)}
    (beyond : ∀ tail value rest, followed tail = .ok (value, rest) -> Beyond tail value rest) :
    Prolonged mark Beyond (.error fault) followed :=
  .lost beyond (by simp)

/-- A reader that fails on both texts says nothing about the mark. -/
theorem error (fault other : Fault) :
    Prolonged mark Beyond (.error fault) (fun _ => .error other) :=
  of_error (by simp)

/-- A reader that has found something already leaves the mark where it is. -/
theorem ok (value : α) (rest : List Char) :
    Prolonged mark Beyond (.ok (value, rest)) (fun tail => .ok (value, rest ++ mark :: tail)) :=
  .kept value rest rfl fun _ => rfl

/-- One reading after another. -/
theorem bind
    {first : Except Fault (α × List Char)}
    {followed : List Char -> Except Fault (α × List Char)}
    {next : α × List Char -> Except Fault (β × List Char)}
    (head : Prolonged mark Beyond first followed)
    (kept : ∀ value rest,
      Prolonged mark Further (next (value, rest)) (fun tail => next (value, rest ++ mark :: tail)))
    (lost : ∀ tail value rest, Beyond tail value rest ->
      ∀ result left, next (value, rest) = .ok (result, left) -> Further tail result left) :
    Prolonged mark Further (first >>= next) (fun tail => followed tail >>= next) := by
  cases head with
  | kept value rest read same =>
      simp only [read, same]
      exact kept value rest
  | lost beyond hidden =>
      refine .lost ?_ ?_
      · intro tail result left read
        obtain ⟨⟨value, rest⟩, read, later⟩ := bind_eq_ok.mp read
        exact lost tail value rest (beyond tail value rest read) result left later
      · intro result read tail oneLine
        obtain ⟨middle, read, later⟩ := bind_eq_ok.mp read
        exact bind_eq_ok.mpr ⟨middle, hidden middle read tail oneLine, later⟩

/-- Reading, and then a computation that reads nothing. -/
theorem check
    {first : Except Fault (α × List Char)}
    {followed : List Char -> Except Fault (α × List Char)}
    {next : α × List Char -> Except Fault (β × List Char)}
    (head : Prolonged mark (Passed α) first followed)
    (checked : α -> Except Fault β)
    (equation : ∀ value rest,
      next (value, rest) = (checked value).map fun result => (result, rest)) :
    Prolonged mark (Passed β) (first >>= next) (fun tail => followed tail >>= next) := by
  refine bind head (fun value rest => ?_) (fun tail value rest passed result left later => ?_)
  · simp only [equation]
    cases checked value with
    | error fault => exact error fault fault
    | ok result => exact ok result rest
  · rw [equation] at later
    cases found : checked value with
    | error fault => simp [found, Except.map] at later
    | ok own =>
        simp only [found, Except.map, Except.ok.injEq, Prod.mk.injEq] at later
        exact later.2 ▸ passed

/-- A choice that does not depend on what follows. -/
theorem ite
    {condition : Prop}
    [Decidable condition]
    {yes no : Except Fault (α × List Char)}
    {yesFollowed noFollowed : List Char -> Except Fault (α × List Char)}
    (onYes : condition -> Prolonged mark Beyond yes yesFollowed)
    (onNo : ¬condition -> Prolonged mark Beyond no noFollowed) :
    Prolonged mark Beyond
      (if condition then yes else no)
      (fun tail => if condition then yesFollowed tail else noFollowed tail) := by
  by_cases holds : condition
  · simp only [if_pos holds]
    exact onYes holds
  · simp only [if_neg holds]
    exact onNo holds

end Prolonged

/-- A text that does not start with a character does not start with it in front of a mark either,
unless the mark is this character. -/
theorem append_ne_cons
    {text : List Char}
    {c : Char}
    (different : c ≠ mark)
    (other : ∀ more, text ≠ c :: more)
    (tail more : List Char) :
    text ++ mark :: tail ≠ c :: more := by
  intro same
  cases text with
  | nil =>
      simp only [List.nil_append, List.cons.injEq] at same
      exact different same.1.symm
  | cons d rest =>
      simp only [List.cons_append, List.cons.injEq] at same
      exact other rest (by rw [same.1])

/-! ## Spacing -/

variable [closing : ClosingMark mark]

/-- The mark is none of the characters that mean something else to a reader. -/
theorem mark_ne
    {c : Char}
    (other : c ≠ ')' ∧ c ≠ '$') :
    mark ≠ c := by
  obtain rfl | rfl := closing.either
  · exact other.1.symm
  · exact other.2.symm

/-- No closing mark is spacing. -/
theorem isBlank_mark : Unicode.isBlank mark = false := by
  obtain rfl | rfl := closing.either <;> rfl

theorem dropSpacing_mark (rest : List Char) :
    dropSpacing false (mark :: rest) = mark :: rest := by
  obtain rfl | rfl := closing.either <;> rfl

/-- Only a comment takes the mark. -/
theorem dropSpacing_true_mark (rest : List Char) :
    dropSpacing true (mark :: rest) = dropSpacing true rest := by
  obtain rfl | rfl := closing.either <;> rfl

variable (mark) in
/-- Dropping spacing stops at the mark at the latest. If all before it is spacing that ends in a
comment, it goes on to the next line. -/
theorem dropSpacing_append (comment : Bool) (text : List Char) :
    (∀ tail, dropSpacing comment (text ++ mark :: tail) =
        dropSpacing comment text ++ mark :: tail) ∨
      dropSpacing comment text = [] ∧
        ∀ tail, dropSpacing comment (text ++ mark :: tail) <:+ tail ∧
          ('\n' ∉ tail -> dropSpacing comment (text ++ mark :: tail) = []) := by
  have inComment (tail : List Char) (oneLine : '\n' ∉ tail) : dropSpacing true tail = [] := by
    induction tail with
    | nil => rfl
    | cons c rest inductionHypothesis =>
        simp only [List.mem_cons, not_or] at oneLine
        have differs : (c != '\n') = true := by simp [Ne.symm oneLine.1]
        rw [dropSpacing, if_pos rfl, differs]
        exact inductionHypothesis oneLine.2
  induction text generalizing comment with
  | nil =>
      cases comment with
      | false => exact .inl fun tail => dropSpacing_mark tail
      | true =>
          refine .inr ⟨rfl, fun tail => ?_⟩
          rw [List.nil_append, dropSpacing_true_mark]
          exact ⟨dropSpacing_suffix true tail, inComment tail⟩
  | cons c rest inductionHypothesis =>
      simp only [List.cons_append, dropSpacing]
      split
      · exact inductionHypothesis (c != '\n')
      · split
        · exact inductionHypothesis false
        · split
          · exact inductionHypothesis true
          · exact .inl fun tail => rfl

variable (mark) in
/-- Skipping stops at the mark at the latest, unless it stands in a comment, which then takes the
rest of its line. -/
theorem skip_append (ignoring : Bool) (text : List Char) :
    (∀ tail, skip ignoring (text ++ mark :: tail) = skip ignoring text ++ mark :: tail) ∨
      skip ignoring text = [] ∧
        ∀ tail, skip ignoring (text ++ mark :: tail) <:+ tail ∧
          ('\n' ∉ tail -> skip ignoring (text ++ mark :: tail) = []) := by
  cases ignoring with
  | false => exact .inl fun tail => rfl
  | true => exact dropSpacing_append mark false text

/-- Where something is visible before the mark, the mark does not matter. -/
theorem skip_append_of_cons
    {ignoring : Bool}
    {text rest : List Char}
    {c : Char}
    (visible : skip ignoring text = c :: rest)
    (tail : List Char) :
    skip ignoring (text ++ mark :: tail) = c :: (rest ++ mark :: tail) := by
  obtain same | ⟨nothing, _⟩ := skip_append mark ignoring text
  · rw [same, visible, List.cons_append]
  · simp [visible] at nothing

@[simp] theorem skip_nil (ignoring : Bool) : skip ignoring [] = [] := by
  cases ignoring <;> rfl

@[simp] theorem skip_mark (ignoring : Bool) (rest : List Char) :
    skip ignoring (mark :: rest) = mark :: rest := by
  cases ignoring with
  | false => rfl
  | true => exact dropSpacing_mark rest

@[simp] theorem skip_brace (ignoring : Bool) (rest : List Char) :
    skip ignoring ('{' :: rest) = '{' :: rest := by
  cases ignoring <;> rfl

/-- What dropping arrives at is no spacing. -/
theorem dropSpacing_eq_cons
    {comment : Bool}
    {text rest : List Char}
    {c : Char}
    (visible : dropSpacing comment text = c :: rest)
    (more : List Char) :
    dropSpacing false (c :: more) = c :: more := by
  induction text generalizing comment with
  | nil => simp [dropSpacing] at visible
  | cons first others inductionHypothesis =>
      rw [dropSpacing] at visible
      split at visible
      · exact inductionHypothesis visible
      · split at visible
        · exact inductionHypothesis visible
        · split at visible
          · exact inductionHypothesis visible
          · rename_i blank number
            simp only [List.cons.injEq] at visible
            rw [visible.1] at blank number
            simp [dropSpacing, blank, number]

/-- What skipping arrives at is not skipped, whatever stands after it. -/
theorem skip_of_skip_eq_cons
    {ignoring : Bool}
    {text rest : List Char}
    {c : Char}
    (visible : skip ignoring text = c :: rest)
    (more : List Char) :
    skip ignoring (c :: more) = c :: more := by
  cases ignoring with
  | false => rfl
  | true => exact dropSpacing_eq_cons visible more

/-- What is dropped is dropped in front of any text. -/
theorem exists_dropped
    {comment : Bool}
    {text rest : List Char}
    {c : Char}
    (visible : dropSpacing comment text = c :: rest) :
    ∃ spacing, text = spacing ++ c :: rest ∧
      ∀ more, dropSpacing comment (spacing ++ c :: more) = c :: more := by
  have shown := dropSpacing_eq_cons visible
  induction text generalizing comment with
  | nil => simp [dropSpacing] at visible
  | cons first others inductionHypothesis =>
      rw [dropSpacing] at visible
      split at visible
      · rename_i inside
        obtain ⟨spacing, rfl, skips⟩ := inductionHypothesis visible
        exact ⟨first :: spacing, rfl, fun more => by simp [dropSpacing, inside, skips]⟩
      · rename_i outside
        split at visible
        · rename_i blank
          obtain ⟨spacing, rfl, skips⟩ := inductionHypothesis visible
          exact ⟨first :: spacing, rfl, fun more => by simp [dropSpacing, outside, blank, skips]⟩
        · rename_i dark
          split at visible
          · rename_i number
            obtain ⟨spacing, rfl, skips⟩ := inductionHypothesis visible
            refine ⟨first :: spacing, rfl, fun more => ?_⟩
            rw [List.cons_append, dropSpacing, if_neg outside, if_neg dark, if_pos number, skips]
          · obtain rfl : comment = false := by simpa using outside
            exact ⟨[], visible, shown⟩

/-- What skipping passes over, in front of what it arrives at. -/
theorem exists_spacing
    {ignoring : Bool}
    {text rest : List Char}
    {c : Char}
    (visible : skip ignoring text = c :: rest) :
    ∃ spacing, text = spacing ++ c :: rest ∧
      ∀ more, skip ignoring (spacing ++ c :: more) = c :: more := by
  cases ignoring with
  | false => exact ⟨[], visible, fun more => rfl⟩
  | true => exact exists_dropped visible

@[simp] theorem skip_skip (ignoring : Bool) (text : List Char) :
    skip ignoring (skip ignoring text) = skip ignoring text := by
  cases visible : skip ignoring text with
  | nil => simp
  | cons c rest => exact skip_of_skip_eq_cons visible rest

@[simp] theorem skip_skip_append (ignoring : Bool) (text tail : List Char) :
    skip ignoring (skip ignoring text ++ mark :: tail) = skip ignoring text ++ mark :: tail := by
  cases visible : skip ignoring text with
  | nil => simp
  | cons c rest => exact skip_of_skip_eq_cons visible _

namespace Prolonged

variable {α : Type} {ignoring : Bool} {f : List Char -> Except Fault (α × List Char)}

/-- Reading after spacing. -/
theorem skipping
    {Beyond : List Char -> α -> List Char -> Prop}
    (text : List Char)
    (passed : ∀ tail value rest, rest <:+ tail -> Beyond tail value rest)
    (suffix : ∀ {text value rest}, f text = .ok (value, rest) -> rest <:+ text)
    (visible : Prolonged mark Beyond
      (f (skip ignoring text))
      (fun tail => f (skip ignoring text ++ mark :: tail))) :
    Prolonged mark Beyond
      (f (skip ignoring text))
      (fun tail => f (skip ignoring (text ++ mark :: tail))) := by
  obtain same | ⟨nothing, hidden⟩ := skip_append mark ignoring text
  · simp only [same]
    exact visible
  · refine .lost ?_ ?_
    · intro tail value rest read
      exact passed tail value rest ((suffix read).trans (hidden tail).1)
    · intro result read tail oneLine
      rw [(hidden tail).2 oneLine, ← nothing]
      exact read

/-- A reader that skips spacing first has only to be looked at where there is none. -/
theorem of_visible
    {Beyond : List Char -> α -> List Char -> Prop}
    (text : List Char)
    (passed : ∀ tail value rest, rest <:+ tail -> Beyond tail value rest)
    (suffix : ∀ {text value rest}, f text = .ok (value, rest) -> rest <:+ text)
    (skips : ∀ text, f (skip ignoring text) = f text)
    (visible : Prolonged mark Beyond
      (f (skip ignoring text))
      (fun tail => f (skip ignoring text ++ mark :: tail))) :
    Prolonged mark Beyond (f text) (fun tail => f (text ++ mark :: tail)) := by
  have prolonged := skipping text passed suffix visible
  simpa only [skips] using prolonged

end Prolonged

theorem Passed.of_suffix {α : Type} (tail : List Char) (value : α) (rest : List Char) :
    rest <:+ tail -> Passed α tail value rest :=
  id

omit closing in
theorem Reached.of_suffix {α : Type} (tail : List Char) (value : α) (rest : List Char)
    (shorter : rest <:+ tail) :
    Reached mark α tail value rest :=
  shorter.trans (List.suffix_cons mark tail)

/-- Reading after spacing, by a reader that never fails. -/
theorem Prolonged.skipping_total
    {α : Type}
    {ignoring : Bool}
    {g : List Char -> α × List Char}
    (text : List Char)
    (suffix : ∀ text, (g text).2 <:+ text)
    (visible : Prolonged mark (Passed α)
      (.ok (g (skip ignoring text)))
      (fun tail => .ok (g (skip ignoring text ++ mark :: tail)))) :
    Prolonged mark (Passed α)
      (.ok (g (skip ignoring text)))
      (fun tail => .ok (g (skip ignoring (text ++ mark :: tail)))) := by
  refine skipping (f := fun text => .ok (g text)) text Passed.of_suffix ?_ visible
  intro text value rest read
  exact suffix_of_ok read (suffix text)

/-- Only spacing is read. -/
theorem Prolonged.skipped {α : Type} {ignoring : Bool} (value : α) (text : List Char) :
    Prolonged mark (Passed α)
      (.ok (value, skip ignoring text))
      (fun tail => .ok (value, skip ignoring (text ++ mark :: tail))) :=
  skipping_total (g := fun rest => (value, rest)) text (fun _ => List.suffix_rfl) (.ok value _)

end Pattern
end PathVersions
