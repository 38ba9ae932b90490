import PathVersions.Proofs.Pattern.BracketClosing

/-!
# Reading a part of a pattern inside a group

A pattern is read in the same way by itself and inside a group, as long as it closes no group that
it did not open. So what becomes of a pattern in front of a closing parenthesis is settled by the
reading of the pattern alone: either the parenthesis is read next, or it falls into a comment that
the pattern ends in. A pattern that cannot be read alone can only be read inside a group if it
closes that group.
-/

namespace PathVersions
namespace Pattern
namespace Progress

/-! ## More groups around a state -/

/-- A state with more open groups around all others. -/
def enclosed (progress : Progress) (frames : List (GroupKind × Level)) : Progress :=
  { progress with outer := progress.outer ++ frames }

section

variable {progress next : Progress} {frames : List (GroupKind × Level)}

@[simp] theorem enclosed_level : (progress.enclosed frames).level = progress.level := rfl

@[simp] theorem enclosed_outer :
    (progress.enclosed frames).outer = progress.outer ++ frames := rfl

@[simp] theorem enclosed_names : (progress.enclosed frames).names = progress.names := rfl

@[simp] theorem enclosed_nil : progress.enclosed [] = progress := by
  simp [enclosed]

/-- An item goes to the innermost group. -/
theorem push_enclosed (item : Tree) :
    (progress.enclosed frames).push item = (progress.push item).enclosed frames := rfl

/-- Opening a group puts it inside all others. -/
theorem opened_enclosed (opening : Opening) :
    (progress.enclosed frames).opened opening = (progress.opened opening).enclosed frames := by
  cases opening with
  | group kind name => rfl
  | flags change => rfl

/-- A repetition is of the last item in the innermost group. -/
theorem repeated_enclosed (least : Nat) (most : Option Nat) (greedy : Bool) :
    (progress.enclosed frames).repeated least most greedy =
      (progress.repeated least most greedy).map (enclosed · frames) := by
  unfold repeated
  rw [enclosed_level]
  cases progress.level.repeated least most greedy <;> rfl

/-- Closing a group that is open inside leaves those around it. -/
theorem closed_enclosed (inside : progress.outer ≠ []) :
    (progress.enclosed frames).closed = progress.closed.map (enclosed · frames) := by
  rcases shape : progress.outer with _ | ⟨⟨kind, parent⟩, outer⟩
  · exact absurd shape inside
  · simp only [closed, enclosed_outer, shape, List.cons_append]
    rfl

/-- A step does not depend on the groups around, unless it closes the innermost of them. -/
theorem step_enclosed
    {c : Char}
    (inside : c = ')' -> progress.outer ≠ [])
    (text : List Char) :
    (progress.enclosed frames).step c text =
      (progress.step c text).map fun (next, rest) => (next.enclosed frames, rest) := by
  rw [step.eq_def, step.eq_def]
  simp only [enclosed_level, enclosed_names, push_enclosed, opened_enclosed, repeated_enclosed]
  split
  · cases readOpening progress.level.ignoring progress.names text <;> rfl
  · rw [closed_enclosed (inside rfl)]
    cases progress.closed <;> rfl
  · rfl
  · cases readBracket progress.level.ignoring text <;> rfl
  · cases progress.repeated 0 (some 1) (readGreed text).1 <;> rfl
  · cases progress.repeated 0 none (readGreed text).1 <;> rfl
  · cases progress.repeated 1 none (readGreed text).1 <;> rfl
  · cases progress.repeated 0 none true with
    | error fault => rfl
    | ok next =>
        cases readRepetition progress.level.ignoring text with
        | error fault => rfl
        | ok result =>
            rcases result with ⟨⟨least, most, greedy⟩, rest⟩
            simp only [bind, Except.bind, Except.map]
            cases progress.repeated least most greedy <;> rfl
  · cases readEscape progress.level.ignoring text <;> rfl
  · rfl
  · rfl
  · rfl
  · rfl

/-- A step that succeeds by itself succeeds in the same way inside any groups. -/
theorem step_enclosed_of_ok
    {c : Char}
    {text rest : List Char}
    (frames : List (GroupKind × Level))
    (stepped : progress.step c text = .ok (next, rest)) :
    (progress.enclosed frames).step c text = .ok (next.enclosed frames, rest) := by
  have inside (closing : c = ')') : progress.outer ≠ [] := by
    intro bottom
    rw [closing, step] at stepped
    simp [closed, bottom, bind, Except.bind] at stepped
  rw [step_enclosed inside, stepped]
  rfl

/-- A repetition opens and closes no group. -/
theorem repeated_outer
    {least : Nat}
    {most : Option Nat}
    {greedy : Bool}
    (repeats : progress.repeated least most greedy = .ok next) :
    next.outer = progress.outer := by
  obtain ⟨level, _, repeats⟩ := bind_eq_ok.mp repeats
  rw [pure_eq_ok] at repeats
  rw [← repeats]

/-- A step that closes no group keeps all open groups, and may add one. -/
theorem step_outer
    {c : Char}
    {text rest : List Char}
    (other : c ≠ ')')
    (stepped : progress.step c text = .ok (next, rest)) :
    progress.outer <:+ next.outer := by
  cases stepsTo_of_step stepped with
  | opens opening rest shorter =>
      cases opening with
      | group kind name => exact List.suffix_cons _ _
      | flags change => exact List.suffix_rfl
  | closes next closed => contradiction
  | branches => exact List.suffix_rfl
  | pushes c item rest other shorter => exact List.suffix_rfl
  | repeats c least most greedy next rest other repeated shorter => rw [repeated_outer repeated]

end

theorem exists_repetition_of_step
    {progress next : Progress}
    {text rest : List Char}
    (stepped : progress.step '{' text = .ok (next, rest)) :
    ∃ bounds, readRepetition progress.level.ignoring text = .ok (bounds, rest) := by
  obtain ⟨_, _, stepped⟩ := bind_eq_ok.mp stepped
  obtain ⟨⟨bounds, left⟩, read, stepped⟩ := bind_eq_ok.mp stepped
  obtain ⟨_, _, stepped⟩ := bind_eq_ok.mp stepped
  simp only [pure_eq_ok, Prod.mk.injEq] at stepped
  exact ⟨bounds, stepped.2 ▸ read⟩

/-! ## Steps in front of a closing mark -/

section

variable {mark : Char} [closing : ClosingMark mark]

/-- What can be left after a step: besides an end of the text after the mark, a brace with nothing
but spacing between it and the mark. -/
def Strayed (mark : Char) (tail : List Char) (next : Progress) (rest : List Char) : Prop :=
  rest <:+ tail ∨
    ∃ inner, rest = '{' :: inner ∧ skip next.level.ignoring inner <:+ mark :: tail

theorem step_repetition_prolonged
    (progress : Progress)
    (least : Nat)
    (most : Option Nat)
    (text : List Char) :
    Prolonged mark (Strayed mark)
      ((.ok (readGreed text) : Except Fault _) >>= fun greed => do
        return (← progress.repeated least most greed.1, greed.2))
      (fun tail => (.ok (readGreed (text ++ mark :: tail)) : Except Fault _) >>= fun greed => do
        return (← progress.repeated least most greed.1, greed.2)) := by
  refine Prolonged.mono ?_ fun _ _ _ => .inl
  refine (readGreed_prolonged text).check (fun greedy => progress.repeated least most greedy) ?_
  intro greedy rest
  cases progress.repeated least most greedy <;> rfl

variable (mark) in
theorem step_prolonged (progress : Progress) (c : Char) (text : List Char) :
    Prolonged mark (Strayed mark)
      (progress.step c text)
      (fun tail => progress.step c (text ++ mark :: tail)) := by
  rw [step.eq_def]
  dsimp only
  split
  · refine Prolonged.mono ?_ fun _ _ _ => .inl
    exact (readOpening_prolonged progress.names text).check
      (fun opening => .ok (progress.opened opening)) fun _ _ => rfl
  · simp only [step]
    cases progress.closed with
    | error fault => exact .error _ _
    | ok next => exact .ok next text
  · exact .ok _ text
  · refine Prolonged.mono ?_ fun _ _ _ => .inl
    exact (readBracket_prolonged text).check (fun item => .ok (progress.push item)) fun _ _ => rfl
  · exact step_repetition_prolonged progress 0 (some 1) text
  · exact step_repetition_prolonged progress 0 none text
  · exact step_repetition_prolonged progress 1 none text
  · simp only [step]
    cases progress.repeated 0 none true with
    | error fault => exact .error _ _
    | ok _ =>
        refine Prolonged.mono ?_ fun _ _ _ => .inl
        refine (readRepetition_prolonged text).check
          (fun bounds => progress.repeated bounds.1 bounds.2.1 bounds.2.2) ?_
        rintro ⟨least, most, greedy⟩ rest
        dsimp only
        cases progress.repeated least most greedy <;> rfl
  · simp only [step]
    refine (readEscape_prolonged text).bind (fun atom rest => .ok _ rest) ?_
    intro tail atom rest braced next left read
    simp only [pure_eq_ok, Prod.mk.injEq] at read
    obtain ⟨rfl, rfl⟩ := read
    exact braced.imp_right fun brace => brace.2
  · exact .ok _ text
  · exact .ok _ text
  · exact .ok _ text
  · have plain (more : List Char) :
        progress.step c more = .ok (progress.push (.literal ⟨c, false⟩), more) := by
      rw [step.eq_def]
      split <;> simp_all
    simp only [plain]
    exact .ok _ text

end

/-! ## Runs -/

section

variable {progress next last : Progress} {text rest : List Char}

theorem run_of_nil (visible : skip progress.level.ignoring text = []) :
    progress.run text = .ok progress := by
  rw [run, visible]

/-- A run takes the first visible character for its next step. -/
theorem run_of_cons
    {c : Char}
    (visible : skip progress.level.ignoring text = c :: rest) :
    progress.run text = progress.step c rest >>= fun (next, left) => next.run left := by
  rw [run, visible]
  dsimp only
  cases stepped : progress.step c rest with
  | error fault => rfl
  | ok result =>
      have shorter := (step_suffix stepped).length_le.trans_lt (lt_of_skip_eq_cons visible)
      simp only [bind, Except.bind]
      exact dif_pos shorter

/-- A run begins with its first step, with any groups around. -/
theorem run_of_step
    {left : List Char}
    {c : Char}
    (frames : List (GroupKind × Level))
    (visible : skip progress.level.ignoring text = c :: rest)
    (stepped : progress.step c rest = .ok (next, left)) :
    (progress.enclosed frames).run text = (next.enclosed frames).run left := by
  have shown : skip (progress.enclosed frames).level.ignoring text = c :: rest := visible
  rw [run_of_cons shown, step_enclosed_of_ok frames stepped]
  rfl

/-- What holds where nothing is left to read, and before a step if it holds after it, holds
wherever a run can start. -/
theorem run_induction
    {motive : Progress -> List Char -> Prop}
    (nothing : ∀ progress text, skip progress.level.ignoring text = [] -> motive progress text)
    (cons : ∀ progress text c rest, skip progress.level.ignoring text = c :: rest ->
      (∀ next left, progress.step c rest = .ok (next, left) -> motive next left) ->
      motive progress text)
    (progress : Progress)
    (text : List Char) :
    motive progress text := by
  induction length : text.length using Nat.strong_induction_on generalizing progress text with
  | _ size inductionHypothesis =>
      cases visible : skip progress.level.ignoring text with
      | nil => exact nothing progress text visible
      | cons c rest =>
          refine cons progress text c rest visible fun next left stepped => ?_
          have shorter := (step_suffix stepped).length_le.trans_lt (lt_of_skip_eq_cons visible)
          exact inductionHypothesis left.length (length ▸ shorter) next left rfl

/-- Runs do not tell apart what differs in spacing at the front. -/
theorem run_eq_of_skip_eq
    {other : List Char}
    (same : skip progress.level.ignoring text = skip progress.level.ignoring other) :
    progress.run text = progress.run other := by
  cases visible : skip progress.level.ignoring other with
  | nil => rw [run_of_nil visible, run_of_nil (same.trans visible)]
  | cons c rest => rw [run_of_cons visible, run_of_cons (same.trans visible)]

/-- What is read by itself is read in the same way inside any groups. -/
theorem run_enclosed
    (frames : List (GroupKind × Level))
    (ran : progress.run text = .ok last) :
    (progress.enclosed frames).run text = .ok (last.enclosed frames) := by
  induction progress, text using run_induction with
  | nothing progress text visible =>
      rw [run_of_nil visible, Except.ok.injEq] at ran
      subst ran
      exact run_of_nil visible
  | cons progress text c rest visible inductionHypothesis =>
      rw [run_of_cons visible] at ran
      obtain ⟨⟨next, left⟩, stepped, ran⟩ := bind_eq_ok.mp ran
      rw [run_of_step frames visible stepped]
      exact inductionHypothesis next left stepped ran

/-- A text without closing parentheses closes no group. -/
theorem run_outer
    (unclosed : ')' ∉ text)
    (ran : progress.run text = .ok last) :
    progress.outer <:+ last.outer := by
  induction progress, text using run_induction with
  | nothing progress text visible =>
      rw [run_of_nil visible, Except.ok.injEq] at ran
      rw [ran]
  | cons progress text c rest visible inductionHypothesis =>
      rw [run_of_cons visible] at ran
      obtain ⟨⟨next, left⟩, stepped, ran⟩ := bind_eq_ok.mp ran
      have shown : c :: rest <:+ text := suffix_of_skip_eq visible
      have other : c ≠ ')' := by
        rintro rfl
        exact unclosed (shown.subset List.mem_cons_self)
      have behind := (step_suffix stepped).trans (suffix_of_cons_suffix shown)
      have later := inductionHypothesis next left stepped
        (fun present => unclosed (behind.subset present)) ran
      exact (step_outer other stepped).trans later

end

/-! ## Runs in front of a closing parenthesis -/

/-- Reading a text arrives at a state, and a closing parenthesis after it is read next, whatever
groups there are around and whatever follows. -/
structure Reaches (progress : Progress) (text : List Char) (last : Progress) : Prop where
  ran : progress.run text = .ok last
  next (frames : List (GroupKind × Level)) (tail : List Char) :
    (progress.enclosed frames).run (text ++ ')' :: tail) = (last.enclosed frames).run (')' :: tail)

/-- Reading a text arrives at a state inside a comment: a closing parenthesis after it, and what
follows on the same line, is not read. -/
structure Fades (progress : Progress) (text : List Char) (last : Progress) : Prop where
  ran : progress.run text = .ok last
  next (frames : List (GroupKind × Level)) (tail : List Char) (oneLine : '\n' ∉ tail) :
    (progress.enclosed frames).run (text ++ ')' :: tail) = .ok (last.enclosed frames)

section

variable {progress next last : Progress} {text rest : List Char}

/-- A step in front, which must leave the parenthesis alone. -/
theorem Reaches.of_step
    {c : Char}
    {left : List Char}
    (reaches : next.Reaches left last)
    (visible : skip progress.level.ignoring text = c :: rest)
    (stepped : progress.step c rest = .ok (next, left))
    (same : ∀ tail, progress.step c (rest ++ ')' :: tail) = .ok (next, left ++ ')' :: tail)) :
    progress.Reaches text last where
  ran := by
    rw [run_of_cons visible, stepped]
    exact reaches.ran
  next frames tail := by
    rw [run_of_step frames (skip_append_of_cons visible tail) (same tail)]
    exact reaches.next frames tail

/-- Spacing in front of a closing parenthesis. -/
theorem reaches_of_spacing
    {spacing : List Char}
    (skips : ∀ more, skip progress.level.ignoring (spacing ++ ')' :: more) = ')' :: more) :
    progress.Reaches spacing progress where
  ran := by
    apply run_of_nil
    obtain plain | ⟨nothing, _⟩ := skip_append ')' progress.level.ignoring spacing
    · simpa [skips] using plain []
    · exact nothing
  next frames tail := by
    apply run_eq_of_skip_eq
    rw [enclosed_level, skips, skip_mark]

/-- What can be read by itself ends in front of a closing mark after it, or inside a comment, into
which the mark falls. -/
theorem run_append_mark
    (mark : Char)
    [ClosingMark mark]
    (ran : progress.run text = .ok last) :
    (∀ frames tail, (progress.enclosed frames).run (text ++ mark :: tail) =
        (last.enclosed frames).run (mark :: tail)) ∨
      ∀ frames tail, '\n' ∉ tail ->
        (progress.enclosed frames).run (text ++ mark :: tail) = .ok (last.enclosed frames) := by
  induction progress, text using run_induction with
  | nothing progress text visible =>
      rw [run_of_nil visible, Except.ok.injEq] at ran
      subst ran
      obtain plain | ⟨_, hidden⟩ := skip_append mark progress.level.ignoring text
      · refine .inl fun frames tail => run_eq_of_skip_eq ?_
        rw [enclosed_level, plain, visible, skip_mark, List.nil_append]
      · exact .inr fun frames tail oneLine => run_of_nil ((hidden tail).2 oneLine)
  | cons progress text c rest visible inductionHypothesis =>
      rw [run_of_cons visible] at ran
      obtain ⟨⟨next, left⟩, stepped, ran⟩ := bind_eq_ok.mp ran
      have shown := @skip_append_of_cons mark _ _ _ _ _ visible
      cases step_prolonged mark progress c rest with
      | kept own after read same =>
          obtain ⟨rfl, rfl⟩ : own = next ∧ after = left := by simpa [read] using stepped
          refine (inductionHypothesis own after read ran).imp (fun next frames tail => ?_)
            fun fades frames tail oneLine => ?_
          · rw [run_of_step frames (shown tail) (same tail), next]
          · rw [run_of_step frames (shown tail) (same tail), fades frames tail oneLine]
      | lost beyond hidden =>
          -- The mark falls into a comment at the end of this very step.
          refine .inr fun frames tail oneLine => ?_
          rw [run_of_step frames (shown tail) (hidden _ stepped tail oneLine)]
          exact run_enclosed frames ran

/-- What can be read by itself ends in front of a closing parenthesis or inside a comment. -/
theorem reaches_or_fades (ran : progress.run text = .ok last) :
    progress.Reaches text last ∨ progress.Fades text last :=
  (run_append_mark ')' ran).imp (fun next => ⟨ran, next⟩) fun fades => ⟨ran, fades⟩

/-- A run that reads on at a brace reads a repetition first. -/
theorem exists_step_of_brace
    {inner : List Char}
    (ran : progress.run ('{' :: inner) = .ok last) :
    ∃ next left, progress.step '{' inner = .ok (next, left) ∧ next.run left = .ok last := by
  rw [run_of_cons (skip_brace _ inner)] at ran
  obtain ⟨⟨next, left⟩, stepped, ran⟩ := bind_eq_ok.mp ran
  exact ⟨next, left, stepped, ran⟩

/-- What is left when the parenthesis was lost closes no group. -/
theorem Strayed.outer
    {tail : List Char}
    {frames : List (GroupKind × Level)}
    (strayed : Strayed ')' tail progress text)
    (unclosed : ')' ∉ tail)
    (ran : (progress.enclosed frames).run text = .ok last) :
    (progress.enclosed frames).outer <:+ last.outer := by
  obtain passed | ⟨inner, rfl, behind⟩ := strayed
  · exact run_outer (fun present => unclosed (passed.subset present)) ran
  · obtain ⟨next, left, stepped, ran⟩ := exists_step_of_brace ran
    obtain ⟨bounds, read⟩ := exists_repetition_of_step stepped
    have passed := readRepetition_passed read behind
    exact (step_outer (by decide) stepped).trans
      (run_outer (fun present => unclosed (passed.subset present)) ran)

/-- A step that leaves the parenthesis alone does not look at what follows it, provided that what
it leaves before the parenthesis can be read. -/
theorem step_of_append
    {c : Char}
    {left tail : List Char}
    (stepped : progress.step c (text ++ ')' :: tail) = .ok (next, left ++ ')' :: tail))
    (ran : next.run left = .ok last) :
    progress.step c text = .ok (next, left) ∧
      ∀ tail, progress.step c (text ++ ')' :: tail) = .ok (next, left ++ ')' :: tail) := by
  cases step_prolonged ')' progress c text with
  | kept own rest read same =>
      have result := (same tail).symm.trans stepped
      simp only [Except.ok.injEq, Prod.mk.injEq, List.append_cancel_right_eq] at result
      obtain ⟨rfl, rfl⟩ := result
      exact ⟨read, same⟩
  | lost beyond _ =>
      -- What is left of a lost parenthesis is shorter, or starts with a brace that no run accepts
      -- in front of the parenthesis alone.
      exfalso
      obtain passed | ⟨inner, shape, behind⟩ := beyond tail next _ stepped
      · have shorter := passed.length_le
        simp only [List.length_append, List.length_cons] at shorter
        omega
      · cases left with
        | nil => simp at shape
        | cons d inner' =>
            simp only [List.cons_append, List.cons.injEq] at shape
            obtain ⟨rfl, rfl⟩ := shape
            obtain ⟨_, _, stepped, _⟩ := exists_step_of_brace ran
            obtain ⟨bounds, read⟩ := exists_repetition_of_step stepped
            cases visible : skip next.level.ignoring inner' with
            | nil => simp [readRepetition_of_nil visible] at read
            | cons d rest =>
                have shorter := behind.length_le
                rw [skip_append_of_cons visible] at shorter
                simp only [List.length_append, List.length_cons] at shorter
                omega

/-- A pattern that can be read inside a group, but not alone, closes the group: it starts with a
part that can be read alone, and goes on with a closing parenthesis. -/
theorem exists_reaches_of_error
    {fault : Fault}
    {frame : GroupKind × Level}
    {tail : List Char}
    (refused : progress.run text = .error fault)
    (unclosed : ')' ∉ tail)
    (ran : (progress.enclosed [frame]).run (text ++ ')' :: tail) = .ok last)
    (finished : last.outer = []) :
    ∃ before after middle,
      text = before ++ ')' :: after ∧ progress.Reaches before middle ∧ middle.outer = [] := by
  induction progress, text using run_induction with
  | nothing progress text visible => simp [run_of_nil visible] at refused
  | cons progress text c rest visible inductionHypothesis =>
      obtain ⟨spacing, shape, skips⟩ := exists_spacing visible
      by_cases closing : c = ')' ∧ progress.outer = []
      · obtain ⟨rfl, bottom⟩ := closing
        exact ⟨spacing, rest, progress, shape, reaches_of_spacing skips, bottom⟩
      · have inside (same : c = ')') : progress.outer ≠ [] :=
          fun bottom => closing ⟨same, bottom⟩
        have shown : skip (progress.enclosed [frame]).level.ignoring (text ++ ')' :: tail) =
            c :: (rest ++ ')' :: tail) :=
          skip_append_of_cons visible tail
        rw [run_of_cons shown, step_enclosed inside] at ran
        cases stepped : progress.step c (rest ++ ')' :: tail) with
        | error fault => simp [stepped, Except.map, bind, Except.bind] at ran
        | ok result =>
            rcases result with ⟨next, left⟩
            rw [stepped] at ran
            cases step_prolonged ')' progress c rest with
            | kept own after read same =>
                rw [same, Except.ok.injEq, Prod.mk.injEq] at stepped
                obtain ⟨rfl, rfl⟩ := stepped
                rw [run_of_cons visible, read] at refused
                obtain ⟨before, remaining, middle, rfl, reaches, bottom⟩ :=
                  inductionHypothesis own after read refused ran
                obtain ⟨taken, rfl⟩ := step_suffix read
                rw [← List.append_assoc] at read
                obtain ⟨alone, always⟩ := step_of_append read reaches.ran
                refine ⟨spacing ++ c :: (taken ++ before), remaining, middle, ?_, ?_, bottom⟩
                · rw [shape]
                  simp
                · exact reaches.of_step (skips _) alone always
            | lost beyond _ =>
                -- No parenthesis is left that could close the groups that are open by now.
                have strayed := beyond tail next left stepped
                have remains := strayed.outer unclosed ran
                simp [finished] at remains

/-- A pattern is read if its run closes all groups and the tree is not nested too deep. -/
theorem read_eq_ok
    {tree : Tree} :
    progress.read text = .ok tree ↔
      ∃ last, progress.run text = .ok last ∧ last.outer = [] ∧ last.level.tree = tree ∧
        tree.depth ≤ nestingLimit := by
  rw [read, bind_eq_ok]
  constructor
  · rintro ⟨last, ran, found⟩
    unfold finish at found
    split at found
    · rename_i bottom
      change (if last.level.tree.depth ≤ nestingLimit then _ else _) = _ at found
      split at found
      · rename_i shallow
        simp only [pure_eq_ok] at found
        exact ⟨last, ran, bottom, found, found ▸ shallow⟩
      · simp at found
    · simp [bind, Except.bind] at found
  · rintro ⟨last, ran, bottom, rfl, shallow⟩
    refine ⟨last, ran, ?_⟩
    rw [finish, bottom]
    change (if last.level.tree.depth ≤ nestingLimit then _ else _) = _
    rw [if_pos shallow]
    rfl

end

end Progress
end Pattern
end PathVersions
