import PathVersions.Proofs.Pattern.Search

/-!
# Runs of characters

An expression for any number of characters of a class matches the stretches of a text that have
characters of the class only. After such a run of a narrower class there is nothing that a run of
the wider class could not match by itself, so that it does not show where the first one ends.
-/

namespace PathVersions
namespace Pattern
namespace Expr

open Unicode

variable {inner outer characters : CharClass} {greedy : Bool} {text : List Char}
  {start finish : Nat}

/-- An expression for any number of characters of a class. -/
def star (characters : CharClass) (greedy : Bool) : Expr :=
  .repetition (.chars characters) 0 none greedy

/-- Whether all characters between two positions of a text belong to a class. -/
def AllBetween (characters : CharClass) (text : List Char) (start finish : Nat) : Prop :=
  start ≤ finish ∧
    ∀ position, start ≤ position -> position < finish ->
      ∃ c, text[position]? = some c ∧ characters.contains c = true

theorem AllBetween.refl (characters : CharClass) (text : List Char) (position : Nat) :
    AllBetween characters text position position :=
  ⟨le_rfl, fun other after before => by omega⟩

/-- A stretch of some class is one of every wider class. -/
theorem AllBetween.mono
    (wider : ∀ c, inner.contains c = true -> outer.contains c = true)
    (all : AllBetween inner text start finish) :
    AllBetween outer text start finish := by
  refine ⟨all.1, fun position after before => ?_⟩
  obtain ⟨c, present, contained⟩ := all.2 position after before
  exact ⟨c, present, wider c contained⟩

/-- Two stretches after each other are one. -/
theorem AllBetween.trans
    {middle : Nat}
    (first : AllBetween characters text start middle)
    (second : AllBetween characters text middle finish) :
    AllBetween characters text start finish := by
  refine ⟨first.1.trans second.1, fun position after before => ?_⟩
  by_cases early : position < middle
  · exact first.2 position after early
  · exact second.2 position (by omega) before

/-- A stretch of one character. -/
theorem allBetween_succ_iff :
    AllBetween characters text start (start + 1) ↔
      ∃ c, text[start]? = some c ∧ characters.contains c = true := by
  constructor
  · intro all
    exact all.2 start le_rfl (Nat.lt_succ_self start)
  · intro one
    refine ⟨Nat.le_succ start, fun position after before => ?_⟩
    obtain rfl : position = start := by omega
    exact one

/-- Up to the end of a text there are the characters that are left of it. -/
theorem allBetween_length_iff (within : start ≤ text.length) :
    AllBetween characters text start text.length ↔
      ∀ c ∈ text.drop start, characters.contains c = true := by
  constructor
  · intro all c member
    obtain ⟨index, present⟩ := List.mem_iff_getElem?.mp member
    rw [List.getElem?_drop] at present
    obtain ⟨before, _⟩ := List.getElem?_eq_some_iff.mp present
    obtain ⟨other, same, contained⟩ := all.2 (start + index) (Nat.le_add_right _ _) before
    rw [present, Option.some.injEq] at same
    rwa [same]
  · intro all
    refine ⟨within, fun position after before => ?_⟩
    refine ⟨text[position], List.getElem?_eq_getElem before, all _ ?_⟩
    refine List.mem_iff_getElem?.mpr ⟨position - start, ?_⟩
    rw [List.getElem?_drop, Nat.add_sub_cancel' after]
    exact List.getElem?_eq_getElem before

/-- A class and what follows it take one character and go on behind it. -/
theorem matches_chars_seq_iff {rest : Expr} :
    (seq (chars characters) rest).Matches text start finish ↔
      (∃ c, text[start]? = some c ∧ characters.contains c = true) ∧
        rest.Matches text (start + 1) finish := by
  constructor
  · rintro ⟨_, ⟨rfl, one⟩, others⟩
    exact ⟨one, others⟩
  · rintro ⟨one, others⟩
    exact ⟨start + 1, ⟨rfl, one⟩, others⟩

/-- A class that is repeated passes over characters of it only. -/
theorem AllBetween.of_iterated
    {count : Nat}
    (way : Iterated ((chars characters).Matches text) count start finish) :
    AllBetween characters text start finish := by
  induction way with
  | zero position => exact .refl characters text position
  | succ first _ others =>
      obtain ⟨rfl, one⟩ := first
      exact (allBetween_succ_iff.mpr one).trans others

/-- A stretch of a class is passed over by repeating it. -/
theorem AllBetween.iterated
    {count : Nat}
    (all : AllBetween characters text start (start + count)) :
    Iterated ((chars characters).Matches text) count start (start + count) := by
  induction count generalizing start with
  | zero => exact .zero start
  | succ count inductionHypothesis =>
      have one := all.2 start le_rfl (by omega)
      have shift : start + (count + 1) = start + 1 + count := by omega
      rw [shift] at all ⊢
      have rest : AllBetween characters text (start + 1) (start + 1 + count) :=
        ⟨by omega, fun position after before => all.2 position (by omega) before⟩
      exact .succ ⟨rfl, one⟩ (inductionHypothesis rest)

/-- A star of a class passes over any stretch of it. -/
theorem matches_star_iff :
    (star characters greedy).Matches text start finish ↔
      AllBetween characters text start finish := by
  constructor
  · rintro ⟨count, _, _, way⟩
    exact .of_iterated way
  · intro all
    obtain ⟨count, rfl⟩ := Nat.exists_eq_add_of_le all.1
    exact ⟨count, Nat.zero_le count, by simp, all.iterated⟩

/-- A run of a wider class takes in a run of a narrower one in front of it. -/
theorem matches_star_seq_star_iff
    (wider : ∀ c, inner.contains c = true -> outer.contains c = true) :
    (seq (star inner greedy) (star outer greedy)).Matches text start finish ↔
      AllBetween outer text start finish := by
  constructor
  · rintro ⟨middle, first, second⟩
    exact ((matches_star_iff.mp first).mono wider).trans (matches_star_iff.mp second)
  · intro all
    exact ⟨start, matches_star_iff.mpr (.refl inner text start), matches_star_iff.mpr all⟩

end Expr
end Pattern
end PathVersions
