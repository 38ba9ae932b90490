import PathVersions.Proofs.Pattern.Search

/-!
# Expressions between marks

Between the marks of the start and of the end of a text, an expression is only found in a text
that it matches as a whole. Of alternatives, each is found for itself.
-/

namespace PathVersions
namespace Pattern

/-- Only at the start of a text nothing stands before a position. -/
theorem charBefore_eq_none_iff
    {text : List Char}
    {position : Nat}
    (within : position ≤ text.length) :
    charBefore text position = none ↔ position = 0 := by
  cases position with
  | zero => simp [charBefore]
  | succ previous =>
      simp only [charBefore, List.getElem?_eq_none_iff]
      omega

namespace Expr

theorem matches_textStart_iff
    {text : List Char}
    {start finish : Nat}
    (within : start ≤ text.length) :
    (look .textStart).Matches text start finish ↔ start = 0 ∧ finish = 0 := by
  simp only [Matches, Look.holdsAt, Look.holds, Option.isNone_iff_eq_none,
    charBefore_eq_none_iff within]
  omega

theorem matches_textEnd_iff
    {text : List Char}
    {start finish : Nat}
    (within : start ≤ text.length) :
    (look .textEnd).Matches text start finish ↔ start = text.length ∧ finish = text.length := by
  simp only [Matches, Look.holdsAt, Look.holds, Option.isNone_iff_eq_none,
    List.getElem?_eq_none_iff]
  omega

/-- An expression between the marks of the start and of the end of a text. -/
def sealed (inner : Expr) : Expr := .seq (.look .textStart) (.seq inner (.look .textEnd))

/-- A sealed expression matches the whole text or nothing. -/
theorem matches_sealed_iff
    (inner : Expr)
    {text : List Char}
    {start finish : Nat}
    (within : start ≤ text.length) :
    inner.sealed.Matches text start finish ↔
      start = 0 ∧ finish = text.length ∧ inner.MatchesAll text := by
  unfold sealed MatchesAll
  rw [Matches]
  constructor
  · rintro ⟨first, begins, last, stretch, ends⟩
    obtain ⟨rfl, rfl⟩ := (matches_textStart_iff within).mp begins
    obtain ⟨rfl, rfl⟩ := (matches_textEnd_iff (stretch.finish_le within)).mp ends
    exact ⟨rfl, rfl, stretch⟩
  · rintro ⟨rfl, rfl, stretch⟩
    exact ⟨0, (matches_textStart_iff within).mpr ⟨rfl, rfl⟩, text.length, stretch,
      (matches_textEnd_iff le_rfl).mpr ⟨rfl, rfl⟩⟩

/-- Finding a sealed expression somewhere is matching all of the text. -/
theorem matchesSome_sealed_iff (inner : Expr) (text : List Char) :
    inner.sealed.MatchesSome text ↔ inner.MatchesAll text := by
  constructor
  · rintro ⟨start, finish, within, stretch⟩
    exact ((matches_sealed_iff inner within).mp stretch).2.2
  · intro whole
    exact ⟨0, text.length, Nat.zero_le _,
      (matches_sealed_iff inner (Nat.zero_le _)).mpr ⟨rfl, rfl, whole⟩⟩

/-- Sealing changes nothing for matches of the whole text. -/
theorem matchesAll_sealed_iff (inner : Expr) (text : List Char) :
    inner.sealed.MatchesAll text ↔ inner.MatchesAll text := by
  rw [MatchesAll, matches_sealed_iff inner (Nat.zero_le _)]
  simp

/-- The outermost alternatives of an expression. -/
def alternatives : Expr -> List Expr
  | .alt left right => left :: right.alternatives
  | expression => [expression]

/-- An expression matches what one of its alternatives matches. -/
theorem matches_iff_exists_alternative
    (expression : Expr)
    (text : List Char)
    (start finish : Nat) :
    expression.Matches text start finish ↔
      ∃ alternative ∈ expression.alternatives, alternative.Matches text start finish := by
  induction expression with
  | alt left right _ inductionHypothesis =>
      rw [Matches, inductionHypothesis]
      simp [alternatives]
  | _ => simp [alternatives]

theorem matchesAll_iff_exists_alternative (expression : Expr) (text : List Char) :
    expression.MatchesAll text ↔
      ∃ alternative ∈ expression.alternatives, alternative.MatchesAll text :=
  expression.matches_iff_exists_alternative text 0 text.length

/-- It is found where one of its alternatives is. -/
theorem matchesSome_iff_exists_alternative (expression : Expr) (text : List Char) :
    expression.MatchesSome text ↔
      ∃ alternative ∈ expression.alternatives, alternative.MatchesSome text := by
  constructor
  · rintro ⟨start, finish, within, stretch⟩
    rw [matches_iff_exists_alternative] at stretch
    obtain ⟨alternative, member, stretch⟩ := stretch
    exact ⟨alternative, member, start, finish, within, stretch⟩
  · rintro ⟨alternative, member, start, finish, within, stretch⟩
    refine ⟨start, finish, within, ?_⟩
    rw [matches_iff_exists_alternative]
    exact ⟨alternative, member, stretch⟩

/-- After the mark of the start, an expression is found where it matches a start of the text. -/
theorem matchesSome_textStart_seq_iff (rest : Expr) (text : List Char) :
    (seq (look .textStart) rest).MatchesSome text ↔ ∃ finish, rest.Matches text 0 finish := by
  constructor
  · rintro ⟨start, finish, within, middle, begins, stretch⟩
    obtain ⟨rfl, rfl⟩ := (matches_textStart_iff within).mp begins
    exact ⟨finish, stretch⟩
  · rintro ⟨finish, stretch⟩
    have begins := (matches_textStart_iff (Nat.zero_le text.length)).mpr ⟨rfl, rfl⟩
    exact ⟨0, finish, Nat.zero_le _, 0, begins, stretch⟩

end Expr
end Pattern
end PathVersions
