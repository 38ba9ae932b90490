import PathVersions.Proofs.Pattern.Enclosure
import PathVersions.Proofs.Pattern.Language

/-!
# Marks written into a pattern

The mark of the start in front of a pattern is read into its first branch, and what follows is read
as it is without the mark, which stays in front of all other items of that branch. The mark of the
end after a pattern is read into its last branch. In whole texts neither of them asks for more than
the pattern does.
-/

namespace PathVersions
namespace Pattern

/-! ## An item in front -/

/-- The second group is the first one with an item in front of its first branch. -/
inductive Level.Fronted (front : Tree) : Level -> Level -> Prop
  | only (items : List Tree) (ignoring : Bool) :
      Fronted front ⟨[], items, ignoring⟩ ⟨[], items ++ [front], ignoring⟩
  | several (branches first items : List Tree) (ignoring : Bool) :
      Fronted front
        ⟨branches ++ [Tree.ofItems first], items, ignoring⟩
        ⟨branches ++ [Tree.ofItems (front :: first)], items, ignoring⟩

namespace Level.Fronted

variable {front : Tree} {level other next : Level}

/-- An item in front changes nothing about spacing. -/
theorem ignoring_eq (fronted : Fronted front level other) : other.ignoring = level.ignoring := by
  cases fronted <;> rfl

/-- More items at the end leave the one in front there. -/
theorem push
    (fronted : Fronted front level other)
    (item : Tree) :
    Fronted front (level.push item) (other.push item) := by
  cases fronted with
  | only items ignoring => exact .only (item :: items) ignoring
  | several branches first items ignoring => exact .several branches first (item :: items) ignoring

theorem ignore
    (fronted : Fronted front level other)
    (ignoring : Bool) :
    Fronted front { level with ignoring } { other with ignoring } := by
  cases fronted with
  | only items _ => exact .only items ignoring
  | several branches first items _ => exact .several branches first items ignoring

/-- The next branch starts anew, and the first one keeps its item in front. -/
theorem branch (fronted : Fronted front level other) :
    Fronted front level.branch other.branch := by
  cases fronted with
  | only items ignoring =>
      have shape : (items ++ [front]).reverse = front :: items.reverse := by simp
      unfold Level.branch
      rw [shape]
      exact .several [] items.reverse [] ignoring
  | several branches first items ignoring =>
      exact .several (Tree.ofItems items.reverse :: branches) first [] ignoring

/-- Only the latest item is repeated, and the one in front is not the latest where another one can
be repeated. -/
theorem repeated
    {least : Nat}
    {most : Option Nat}
    {greedy : Bool}
    (fronted : Fronted front level other)
    (repeats : level.repeated least most greedy = .ok next) :
    ∃ after, other.repeated least most greedy = .ok after ∧ Fronted front next after := by
  unfold Level.repeated at repeats ⊢
  cases fronted with
  | only items ignoring =>
      dsimp only at repeats ⊢
      split at repeats
      · contradiction
      · contradiction
      · contradiction
      · rename_i item rest _ _
        cases repeats
        refine ⟨_, ?_, .only (.repetition item least most greedy :: rest) ignoring⟩
        rw [List.cons_append]
        split <;> simp_all
  | several branches first items ignoring =>
      dsimp only at repeats ⊢
      split at repeats
      · contradiction
      · contradiction
      · contradiction
      · cases repeats
        exact ⟨_, rfl, .several branches first _ ignoring⟩

end Level.Fronted

namespace Progress

/-- The second state is the first one with an item in front of the outermost group. -/
inductive Fronted (front : Tree) : Progress -> Progress -> Prop
  | bottom (level other : Level) (names : List (List Char))
      (fronted : level.Fronted front other) :
      Fronted front ⟨level, [], names⟩ ⟨other, [], names⟩
  | inside (level : Level) (outer : List (GroupKind × Level)) (kind : GroupKind)
      (parent other : Level) (names : List (List Char))
      (fronted : parent.Fronted front other) :
      Fronted front
        ⟨level, outer ++ [(kind, parent)], names⟩
        ⟨level, outer ++ [(kind, other)], names⟩

section

variable {front : Tree} {progress other next last : Progress}

theorem Fronted.ignoring_eq (fronted : Fronted front progress other) :
    other.level.ignoring = progress.level.ignoring := by
  cases fronted with
  | bottom level other names fronted => exact fronted.ignoring_eq
  | inside => rfl

/-- An item in front is no group and takes no name. -/
theorem Fronted.names_eq (fronted : Fronted front progress other) :
    other.names = progress.names := by
  cases fronted <;> rfl

/-- Outside all groups the item stands in front of the pattern. -/
theorem Fronted.at_bottom
    (fronted : Fronted front progress other)
    (bottom : progress.outer = []) :
    other.outer = [] ∧ progress.level.Fronted front other.level := by
  cases fronted with
  | bottom level other names fronted => exact ⟨rfl, fronted⟩
  | inside level outer kind parent other names fronted => simp at bottom

theorem Fronted.push
    (fronted : Fronted front progress other)
    (item : Tree) :
    Fronted front (progress.push item) (other.push item) := by
  cases fronted with
  | bottom level other names fronted => exact .bottom _ _ names (fronted.push item)
  | inside level outer kind parent other names fronted =>
      exact .inside _ outer kind parent other names fronted

theorem Fronted.branch (fronted : Fronted front progress other) :
    Fronted front
      { progress with level := progress.level.branch }
      { other with level := other.level.branch } := by
  cases fronted with
  | bottom level other names fronted => exact .bottom _ _ names fronted.branch
  | inside level outer kind parent other names fronted =>
      exact .inside _ outer kind parent other names fronted

/-- Opening a group leaves the item in front outside it. -/
theorem Fronted.opened
    (fronted : Fronted front progress other)
    (opening : Opening) :
    Fronted front (progress.opened opening) (other.opened opening) := by
  cases fronted with
  | bottom level other names fronted =>
      unfold Progress.opened
      simp only [fronted.ignoring_eq]
      cases opening with
      | group kind name => exact .inside _ [] kind level other (name.toList ++ names) fronted
      | flags change =>
          exact .bottom _ _ names ((fronted.push (.setFlags change)).ignore _)
  | inside level outer kind parent other names fronted =>
      cases opening with
      | group own name =>
          exact .inside _ ((own, level) :: outer) kind parent other (name.toList ++ names) fronted
      | flags change => exact .inside _ outer kind parent other names fronted

/-- Closing a group comes back to what has the item in front. -/
theorem Fronted.closed
    (fronted : Fronted front progress other)
    (closes : progress.closed = .ok next) :
    ∃ after, other.closed = .ok after ∧ Fronted front next after := by
  cases fronted with
  | bottom level other names fronted => contradiction
  | inside level outer kind parent other names fronted =>
      cases outer with
      | nil =>
          cases closes
          exact ⟨_, rfl, .bottom _ _ names (fronted.push _)⟩
      | cons frame outer =>
          cases closes
          exact ⟨_, rfl, .inside _ outer kind parent other names fronted⟩

/-- A repetition succeeds only if there is an item for it behind the one in front. -/
theorem Fronted.repeated
    {least : Nat}
    {most : Option Nat}
    {greedy : Bool}
    (fronted : Fronted front progress other)
    (repeats : progress.repeated least most greedy = .ok next) :
    ∃ after, other.repeated least most greedy = .ok after ∧ Fronted front next after := by
  obtain ⟨level, repeated, repeats⟩ := bind_eq_ok.mp repeats
  rw [pure_eq_ok] at repeats
  subst repeats
  cases fronted with
  | bottom own other names fronted =>
      obtain ⟨after, same, later⟩ := fronted.repeated repeated
      refine ⟨_, ?_, .bottom _ _ names later⟩
      rw [Progress.repeated, same]
      rfl
  | inside own outer kind parent other names fronted =>
      refine ⟨_, ?_, .inside level outer kind parent other names fronted⟩
      dsimp only at repeated
      rw [Progress.repeated, repeated]
      rfl

theorem Fronted.repeated_leaving
    {least : Nat}
    {most : Option Nat}
    {greedy : Bool}
    {left rest : List Char}
    (fronted : Fronted front progress other)
    (stepped : (do return (← progress.repeated least most greedy, left)) =
      (.ok (next, rest) : Except Fault (Progress × List Char))) :
    ∃ after,
      (do return (← other.repeated least most greedy, left)) =
        (.ok (after, rest) : Except Fault (Progress × List Char)) ∧
      Fronted front next after := by
  obtain ⟨own, repeats, stepped⟩ := bind_eq_ok.mp stepped
  cases stepped
  obtain ⟨after, same, later⟩ := fronted.repeated repeats
  exact ⟨after, by rw [same]; rfl, later⟩

/-- A step is taken in the same way with an item in front. -/
theorem Fronted.step
    {c : Char}
    {text rest : List Char}
    (fronted : Fronted front progress other)
    (stepped : progress.step c text = .ok (next, rest)) :
    ∃ after, other.step c text = .ok (after, rest) ∧ Fronted front next after := by
  rw [Progress.step.eq_def] at stepped
  dsimp only at stepped
  split at stepped
  · obtain ⟨⟨opening, left⟩, read, stepped⟩ := bind_eq_ok.mp stepped
    cases stepped
    refine ⟨other.opened opening, ?_, fronted.opened opening⟩
    rw [Progress.step, fronted.ignoring_eq, fronted.names_eq, read]
    rfl
  · obtain ⟨own, closes, stepped⟩ := bind_eq_ok.mp stepped
    cases stepped
    obtain ⟨after, same, later⟩ := fronted.closed closes
    exact ⟨after, by rw [Progress.step, same]; rfl, later⟩
  · cases stepped
    exact ⟨_, rfl, fronted.branch⟩
  · obtain ⟨⟨item, left⟩, read, stepped⟩ := bind_eq_ok.mp stepped
    cases stepped
    refine ⟨other.push item, ?_, fronted.push item⟩
    rw [Progress.step, fronted.ignoring_eq, read]
    rfl
  · exact fronted.repeated_leaving stepped
  · exact fronted.repeated_leaving stepped
  · exact fronted.repeated_leaving stepped
  · obtain ⟨first, could, stepped⟩ := bind_eq_ok.mp stepped
    obtain ⟨⟨⟨least, most, greedy⟩, left⟩, read, stepped⟩ := bind_eq_ok.mp stepped
    obtain ⟨_, can, _⟩ := fronted.repeated could
    obtain ⟨after, same, later⟩ := fronted.repeated_leaving stepped
    refine ⟨after, ?_, later⟩
    rw [Progress.step, fronted.ignoring_eq, can, read]
    exact same
  · obtain ⟨⟨atom, left⟩, read, stepped⟩ := bind_eq_ok.mp stepped
    cases stepped
    refine ⟨other.push atom.tree, ?_, fronted.push atom.tree⟩
    rw [Progress.step, fronted.ignoring_eq, read]
    rfl
  · cases stepped
    exact ⟨_, rfl, fronted.push .dot⟩
  · cases stepped
    exact ⟨_, rfl, fronted.push (.anchor .lineStart)⟩
  · cases stepped
    exact ⟨_, rfl, fronted.push (.anchor .lineEnd)⟩
  · cases stepped
    refine ⟨other.push (.literal ⟨c, false⟩), ?_, fronted.push (.literal ⟨c, false⟩)⟩
    rw [Progress.step.eq_def]
    split <;> simp_all

/-- A text is read in the same way with an item in front. -/
theorem Fronted.run
    {text : List Char}
    (fronted : Fronted front progress other)
    (ran : progress.run text = .ok last) :
    ∃ final, other.run text = .ok final ∧ Fronted front last final := by
  induction progress, text using run_induction generalizing other with
  | nothing progress text visible =>
      rw [run_of_nil visible, Except.ok.injEq] at ran
      rw [← fronted.ignoring_eq] at visible
      exact ⟨other, run_of_nil visible, ran ▸ fronted⟩
  | cons progress text c rest visible inductionHypothesis =>
      rw [run_of_cons visible] at ran
      obtain ⟨⟨next, left⟩, stepped, ran⟩ := bind_eq_ok.mp ran
      obtain ⟨after, same, later⟩ := fronted.step stepped
      rw [← fronted.ignoring_eq] at visible
      rw [run_of_cons visible, same]
      exact inductionHypothesis next left stepped later ran

end

/-- After the mark of the start, which is read first, a pattern is read as it is alone. -/
theorem exists_fronted_of_run
    {pattern : List Char}
    {last : Progress}
    (ran : start.run pattern = .ok last) :
    ∃ final,
      (start.push (.anchor .lineStart)).run pattern = .ok final ∧
      Fronted (.anchor .lineStart) last final :=
  Fronted.run (.bottom _ _ [] (.only [] false)) ran

end Progress

/-! ## Marks in a whole text -/

namespace Tree

variable {text : List Char} {modes : Modes} {start finish : Nat}

/-- At the start of a text its start may be asked for. -/
theorem matchesInTurn_lineStart (items : List Tree) :
    MatchesInTurn text Modes.start (.anchor .lineStart :: items) 0 finish ↔
      MatchesInTurn text Modes.start items 0 finish := by
  have begins : (Anchor.lineStart.look Modes.start).holdsAt text 0 = true := rfl
  rw [MatchesInTurn, modesAfter]
  simp [Matches, begins]

theorem holdsAt_lineEnd (modes : Modes) :
    (Anchor.lineEnd.look modes).holdsAt text text.length = true := by
  have nothing : text[text.length]? = none := by simp
  rw [Look.holdsAt, nothing, Anchor.look]
  split
  · rfl
  · split <;> rfl

/-- At the end of a text its end may be asked for. -/
theorem matchesInTurn_lineEnd (items : List Tree) :
    MatchesInTurn text modes (items ++ [.anchor .lineEnd]) start text.length ↔
      MatchesInTurn text modes items start text.length := by
  rw [matchesInTurn_append]
  constructor
  · rintro ⟨middle, own, last, ⟨same, _⟩, rfl⟩
    exact same ▸ own
  · intro own
    exact ⟨text.length, own, text.length, ⟨rfl, holdsAt_lineEnd _⟩, rfl⟩

end Tree

/-- The tree of a level is one of its branches, the last of which is still open. -/
theorem Level.matches_tree
    (level : Level)
    (text : List Char)
    (modes : Modes)
    (start finish : Nat) :
    level.tree.Matches text modes start finish ↔
      Tree.MatchesAny text modes level.branches.reverse start finish ∨
        Tree.MatchesInTurn text (Tree.modesAfterAll modes level.branches.reverse)
          level.items.reverse start finish := by
  rw [Level.tree, Tree.matches_ofBranches (by simp), Tree.matchesAny_append, Tree.MatchesAny,
    Tree.matches_ofItems]
  simp [Tree.MatchesAny]

/-- Marks at the start of the first branch and at the end of the last one change nothing in whole
texts. -/
theorem Level.Fronted.matchesAll_iff
    {level other : Level}
    (fronted : Fronted (.anchor .lineStart) level other)
    (text : List Char) :
    (other.push (.anchor .lineEnd)).tree.MatchesAll text ↔ level.tree.MatchesAll text := by
  unfold Tree.MatchesAll
  rw [matches_tree, matches_tree]
  simp only [Level.push, List.reverse_cons, Tree.matchesInTurn_lineEnd]
  cases fronted with
  | only items ignoring =>
      simp only [List.reverse_append, List.reverse_singleton, List.singleton_append,
        List.reverse_nil, Tree.modesAfterAll, Tree.matchesInTurn_lineStart]
  | several branches first items ignoring =>
      simp only [List.reverse_append, List.reverse_singleton, List.singleton_append,
        Tree.MatchesAny, Tree.modesAfter, Tree.modesAfterAll, Tree.matches_ofItems,
        Tree.modesAfter_ofItems, Tree.matchesInTurn_lineStart]

end Pattern
end PathVersions
