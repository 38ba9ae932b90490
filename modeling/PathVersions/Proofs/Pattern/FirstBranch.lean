import PathVersions.Proofs.Pattern.Enclosure

/-!
# The start of the first branch

What a pattern starts with stays at the start of its first branch while the pattern is read: later
items are put after it, and only the latest item can be repeated.
-/

namespace PathVersions
namespace Pattern

/-- A group whose first branch starts with an item and goes on after it. -/
def Level.StartsWith (level : Level) (front : Tree) : Prop :=
  (level.branches = [] ∧ ∃ item more, level.items = item :: (more ++ [front])) ∨
    ∃ others item more, level.branches = others ++ [.concatenation (front :: item :: more)]

namespace Level

variable {level next : Level} {front : Tree}

/-- An item at the end is not the first one. -/
theorem StartsWith.push
    (starts : level.StartsWith front)
    (item : Tree) :
    (level.push item).StartsWith front := by
  obtain ⟨single, latest, more, shape⟩ | several := starts
  · exact .inl ⟨single, item, latest :: more, by rw [Level.push, shape, List.cons_append]⟩
  · exact .inr several

/-- Two items or more are written in a row, the first of them in front. -/
theorem ofItems_reverse (front item : Tree) (more : List Tree) :
    ∃ second rest,
      Tree.ofItems (item :: (more ++ [front])).reverse =
        .concatenation (front :: second :: rest) := by
  rw [List.reverse_cons, List.reverse_append, List.reverse_singleton, List.singleton_append,
    List.cons_append]
  cases shape : more.reverse ++ [item] with
  | nil => simp at shape
  | cons second rest => exact ⟨second, rest, rfl⟩

/-- Once a branch is complete, it stays the first one. -/
theorem StartsWith.branch (starts : level.StartsWith front) : level.branch.StartsWith front := by
  refine .inr ?_
  obtain ⟨single, item, more, shape⟩ | ⟨others, item, more, shape⟩ := starts
  · obtain ⟨second, rest, same⟩ := ofItems_reverse front item more
    exact ⟨[], second, rest, by rw [Level.branch, shape, same, single, List.nil_append]⟩
  · exact ⟨_ :: others, item, more, by rw [Level.branch, shape, List.cons_append]⟩

/-- A repetition takes the last item, which is never the one in front. -/
theorem StartsWith.repeated
    {least : Nat}
    {most : Option Nat}
    {greedy : Bool}
    (starts : level.StartsWith front)
    (repeats : level.repeated least most greedy = .ok next) :
    next.StartsWith front := by
  obtain ⟨single, item, more, shape⟩ | several := starts
  · unfold Level.repeated at repeats
    rw [shape] at repeats
    split at repeats
    · simp at repeats
    · simp at repeats
    · simp at repeats
    · rename_i own others _ _ same
      simp only [List.cons.injEq] at same
      rw [Except.ok.injEq] at repeats
      exact .inl ⟨by rw [← repeats]; exact single, _, more, by rw [← repeats, same.2]⟩
  · unfold Level.repeated at repeats
    split at repeats
    · simp at repeats
    · simp at repeats
    · simp at repeats
    · rw [Except.ok.injEq] at repeats
      exact .inr (by rw [← repeats]; exact several)

/-- The branches of such a group when its end is reached. -/
theorem StartsWith.exists_tree (starts : level.StartsWith front) :
    ∃ item more others,
      level.tree = Tree.ofBranches (.concatenation (front :: item :: more) :: others) := by
  obtain ⟨single, item, more, shape⟩ | ⟨others, item, more, shape⟩ := starts
  · obtain ⟨second, rest, same⟩ := ofItems_reverse front item more
    exact ⟨second, rest, [], by rw [Level.tree, single, shape, same]; rfl⟩
  · exact ⟨item, more, _, by
      rw [Level.tree, shape, List.reverse_append, List.reverse_singleton, List.singleton_append,
        List.cons_append]⟩

end Level

namespace Progress

/-- The outermost of an open group and the groups around it. -/
def bottomOf (level : Level) : List (GroupKind × Level) -> Level
  | [] => level
  | (_, parent) :: outer => bottomOf parent outer

/-- The outermost group of a pattern. -/
def bottom (progress : Progress) : Level := bottomOf progress.level progress.outer

variable {progress next last : Progress} {front : Tree}

/-- What keeps the front of the innermost level keeps that of the outermost one. -/
theorem bottomOf_startsWith
    {level other : Level}
    {outer : List (GroupKind × Level)}
    (starts : (bottomOf level outer).StartsWith front)
    (step : level.StartsWith front -> other.StartsWith front) :
    (bottomOf other outer).StartsWith front := by
  cases outer with
  | nil => exact step starts
  | cons frame outer => exact starts

/-- A repetition leaves the front of the pattern. -/
theorem repeated_startsWith
    {least : Nat}
    {most : Option Nat}
    {greedy : Bool}
    (starts : progress.bottom.StartsWith front)
    (repeats : progress.repeated least most greedy = .ok next) :
    next.bottom.StartsWith front := by
  obtain ⟨level, repeated, repeats⟩ := bind_eq_ok.mp repeats
  rw [pure_eq_ok] at repeats
  rw [← repeats]
  exact bottomOf_startsWith starts fun own => own.repeated repeated

theorem push_startsWith
    (starts : progress.bottom.StartsWith front)
    (item : Tree) :
    (progress.push item).bottom.StartsWith front :=
  bottomOf_startsWith starts fun own => own.push item

/-- A group that is opened has a level of its own, and leaves the front of the pattern. -/
theorem opened_startsWith
    (starts : progress.bottom.StartsWith front)
    (opening : Opening) :
    (progress.opened opening).bottom.StartsWith front := by
  cases opening with
  | group kind name => exact starts
  | flags change => exact bottomOf_startsWith starts fun own => own.push (.setFlags change)

/-- A group that is closed becomes an item at the end of the level around. -/
theorem closed_startsWith
    (starts : progress.bottom.StartsWith front)
    (closes : progress.closed = .ok next) :
    next.bottom.StartsWith front := by
  rcases progress with ⟨level, outer, names⟩
  cases outer with
  | nil => simp [closed] at closes
  | cons frame outer =>
      simp only [closed, Except.ok.injEq] at closes
      rw [← closes]
      exact bottomOf_startsWith starts fun own => own.push _

/-- No step changes the front of the pattern. -/
theorem step_startsWith
    {c : Char}
    {text rest : List Char}
    (starts : progress.bottom.StartsWith front)
    (stepped : progress.step c text = .ok (next, rest)) :
    next.bottom.StartsWith front := by
  cases stepsTo_of_step stepped with
  | opens opening rest shorter => exact opened_startsWith starts opening
  | closes next closed => exact closed_startsWith starts closed
  | branches => exact bottomOf_startsWith starts fun own => own.branch
  | pushes c item rest other shorter => exact push_startsWith starts item
  | repeats c least most greedy next rest other repeated shorter =>
      exact repeated_startsWith starts repeated

/-- A pattern has the same front when it has been read. -/
theorem run_startsWith
    {text : List Char}
    (starts : progress.bottom.StartsWith front)
    (ran : progress.run text = .ok last) :
    last.bottom.StartsWith front := by
  induction progress, text using run_induction with
  | nothing progress text visible =>
      rw [run_of_nil visible, Except.ok.injEq] at ran
      exact ran ▸ starts
  | cons progress text c rest visible inductionHypothesis =>
      rw [run_of_cons visible] at ran
      obtain ⟨⟨next, left⟩, stepped, ran⟩ := bind_eq_ok.mp ran
      exact inductionHypothesis next left stepped (step_startsWith starts stepped) ran

end Progress
end Pattern
end PathVersions
