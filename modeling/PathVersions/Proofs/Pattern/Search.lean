import PathVersions.Pattern.Reach
import Mathlib.Data.Fintype.Pigeonhole

/-!
# The search finds exactly the matches

A set of positions stands for the numbers of its bits. Every walk takes such a set to the set of
the positions at which its expression can end, so the search over all positions at once says
whether some stretch of the text matches. Repeating without bound needs no more rounds than the
text has positions, since a longer way would pass some position twice.
-/

namespace PathVersions
namespace Pattern

/-! ## Following a relation -/

namespace Iterated

variable {relation : Nat -> Nat -> Prop}

/-- Following a relation no times stays where it is. -/
@[simp] theorem zero_iff {start finish : Nat} :
    Iterated relation 0 start finish ↔ start = finish := by
  constructor
  · intro way
    cases way
    rfl
  · rintro rfl
    exact .zero start

/-- Following a relation once more starts with one step. -/
theorem succ_iff {count start finish : Nat} :
    Iterated relation (count + 1) start finish ↔
      ∃ middle, relation start middle ∧ Iterated relation count middle finish := by
  constructor
  · intro way
    cases way with
    | succ first others => exact ⟨_, first, others⟩
  · rintro ⟨middle, first, others⟩
    exact .succ first others

/-- A number of steps can be taken in two parts. -/
theorem add_iff {left right start finish : Nat} :
    Iterated relation (left + right) start finish ↔
      ∃ middle, Iterated relation left start middle ∧ Iterated relation right middle finish := by
  induction left generalizing start with
  | zero => simp
  | succ left inductionHypothesis =>
      rw [Nat.add_right_comm, succ_iff]
      constructor
      · rintro ⟨next, first, others⟩
        obtain ⟨middle, before, after⟩ := inductionHypothesis.mp others
        exact ⟨middle, succ_iff.mpr ⟨next, first, before⟩, after⟩
      · rintro ⟨middle, before, after⟩
        obtain ⟨next, first, others⟩ := succ_iff.mp before
        exact ⟨next, first, inductionHypothesis.mpr ⟨middle, others, after⟩⟩

end Iterated

/-- A relation that does not lead beyond a last position. -/
def Bounded (last : Nat) (relation : Nat -> Nat -> Prop) : Prop :=
  ∀ start finish, start ≤ last -> relation start finish -> finish ≤ last

namespace Bounded

variable {last : Nat} {relation : Nat -> Nat -> Prop}

/-- Steps that stay within the text stay within it however many they are. -/
theorem iterated (bounded : Bounded last relation) (count : Nat) :
    Bounded last (Iterated relation count) := by
  induction count with
  | zero =>
      intro start finish within way
      rw [Iterated.zero_iff] at way
      omega
  | succ count inductionHypothesis =>
      intro start finish within way
      obtain ⟨middle, first, others⟩ := Iterated.succ_iff.mp way
      exact inductionHypothesis middle finish (bounded start middle within first) others

/-- A way that is longer than there are positions passes one of them twice, and can do without
what lies between. -/
theorem exists_shorter
    (bounded : Bounded last relation)
    {count start finish : Nat}
    (within : start ≤ last)
    (long : last < count)
    (way : Iterated relation count start finish) :
    ∃ fewer, fewer < count ∧ Iterated relation fewer start finish := by
  have passed (index : Fin (count + 1)) :
      ∃ place : Fin (last + 1), Iterated relation index start place ∧
        Iterated relation (count - index) place finish := by
    have parts : index + (count - index) = count := by omega
    rw [← parts] at way
    obtain ⟨middle, before, after⟩ := Iterated.add_iff.mp way
    have small := bounded.iterated index start middle within before
    exact ⟨⟨middle, by omega⟩, before, after⟩
  choose place before after using passed
  obtain ⟨first, second, different, same⟩ :=
    Fintype.exists_ne_map_eq_of_card_lt place (by simp; omega)
  rcases lt_or_gt_of_ne different with earlier | earlier
  · refine ⟨first + (count - second), by omega, Iterated.add_iff.mpr ?_⟩
    exact ⟨place first, before first, same ▸ after second⟩
  · refine ⟨second + (count - first), by omega, Iterated.add_iff.mpr ?_⟩
    exact ⟨place second, before second, same ▸ after first⟩

/-- What can be reached at all is reached in no more steps than there are positions. -/
theorem exists_short
    (bounded : Bounded last relation)
    {count start finish : Nat}
    (within : start ≤ last)
    (way : Iterated relation count start finish) :
    ∃ few, few ≤ last ∧ Iterated relation few start finish := by
  induction count using Nat.strong_induction_on with
  | _ count inductionHypothesis =>
      by_cases short : count ≤ last
      · exact ⟨count, short, way⟩
      · obtain ⟨fewer, less, shorter⟩ := bounded.exists_shorter within (by omega) way
        exact inductionHypothesis fewer less shorter

end Bounded

/-! ## Sets of positions -/

namespace Positions

/-- No position of a set lies beyond a last one. -/
def Within (last : Nat) (set : Positions) : Prop :=
  ∀ position, set.testBit position = true -> position ≤ last

/-- A step that leads from each position of a set exactly to those that a relation names. -/
structure Follows (last : Nat) (relation : Nat -> Nat -> Prop)
    (step : Positions -> Positions) : Prop where
  bounded : Bounded last relation
  reaches : ∀ set, Within last set -> ∀ finish,
    (step set).testBit finish = true ↔
      ∃ start, set.testBit start = true ∧ relation start finish

/-- A step never leads beyond the last position. -/
theorem Follows.within
    {last : Nat}
    {relation : Nat -> Nat -> Prop}
    {step : Positions -> Positions}
    (follows : Follows last relation step)
    {set : Positions}
    (inside : Within last set) :
    Within last (step set) := by
  intro finish present
  obtain ⟨start, started, related⟩ := (follows.reaches set inside finish).mp present
  exact follows.bounded start finish (inside start started) related

/-- The set of all positions of a text, its end included. -/
@[simp] theorem testBit_all (text : List Char) (position : Nat) :
    (all text).testBit position = decide (position ≤ text.length) := by
  simp only [all, Nat.pow_eq, Nat.testBit_two_pow_sub_one, decide_eq_decide]
  omega

@[simp] theorem testBit_without (set other : Positions) (position : Nat) :
    (without set other).testBit position =
      (set.testBit position && !other.testBit position) := by
  rw [without, Nat.testBit_xor, Nat.testBit_or]
  cases set.testBit position <;> cases other.testBit position <;> rfl

theorem testBit_double_add_zero (set : Nat) (bit : Bool) :
    (2 * set + bit.toNat).testBit 0 = bit := by
  cases bit <;> simp [Nat.testBit_zero]

/-- The positions of a set that has been shifted by one. -/
theorem testBit_double_add_succ (set : Nat) (bit : Bool) (position : Nat) :
    (2 * set + bit.toNat).testBit (position + 1) = set.testBit position := by
  rw [Nat.testBit_succ]
  congr 1
  cases bit with
  | false => simp
  | true =>
      simp only [Bool.toNat_true]
      omega

/-- The positions in front of a character of a class. -/
theorem testBit_ofClass
    (characters : Unicode.CharClass)
    (text : List Char)
    (position : Nat) :
    (ofClass characters text).testBit position = true ↔
      ∃ c, text[position]? = some c ∧ characters.contains c = true := by
  induction text generalizing position with
  | nil => simp [ofClass]
  | cons c rest inductionHypothesis =>
      cases position with
      | zero => rw [ofClass, testBit_double_add_zero]; simp
      | succ position =>
          rw [ofClass, testBit_double_add_succ, inductionHypothesis, List.getElem?_cons_succ]

/-- The condition is looked at between the two characters around a position. -/
theorem testBit_ofLook
    (place : Look)
    (before : Option Char)
    (text : List Char)
    (position : Nat) :
    (ofLook place before text).testBit position = true ↔
      position ≤ text.length ∧
        place.holds (if position = 0 then before else charBefore text position)
          text[position]? = true := by
  induction text generalizing before position with
  | nil =>
      cases position with
      | zero =>
          have bit := testBit_double_add_zero 0 (place.holds before none)
          rw [Nat.mul_zero, Nat.zero_add] at bit
          simp [ofLook, bit]
      | succ position =>
          have bit := testBit_double_add_succ 0 (place.holds before none) position
          rw [Nat.mul_zero, Nat.zero_add] at bit
          simp [ofLook, bit]
  | cons c rest inductionHypothesis =>
      cases position with
      | zero => rw [ofLook, testBit_double_add_zero]; simp
      | succ position =>
          rw [ofLook, testBit_double_add_succ, inductionHypothesis]
          cases position <;> simp [charBefore]

/-- At the start of a text nothing stands before the first character. -/
theorem testBit_ofLook_none (place : Look) (text : List Char) (position : Nat) :
    (ofLook place none text).testBit position = true ↔
      position ≤ text.length ∧ place.holdsAt text position = true := by
  rw [testBit_ofLook]
  cases position <;> rfl

/-! ## Repeated steps -/

variable {last : Nat} {relation : Nat -> Nat -> Prop} {step : Positions -> Positions}

/-- A step that is taken a number of times follows the relation that many times. -/
theorem follows_times (follows : Follows last relation step) (count : Nat) :
    Follows last (Iterated relation count) (times step count) where
  bounded := follows.bounded.iterated count
  reaches := by
    induction count with
    | zero => simp [times]
    | succ count inductionHypothesis =>
        intro set inside finish
        have unfolded : times step (count + 1) set = times step count (step set) := by
          rw [times]
          split
          · rename_i kept
            have kept : step set = set := beq_iff_eq.mp kept
            -- A set that the step keeps is kept by every number of steps.
            have stays (number : Nat) : times step number set = set := by
              cases number with
              | zero => rfl
              | succ number => simp [times, kept]
            rw [kept, stays]
          · rfl
        rw [unfolded, inductionHypothesis (step set) (follows.within inside)]
        constructor
        · rintro ⟨middle, reached, others⟩
          obtain ⟨start, started, first⟩ := (follows.reaches set inside middle).mp reached
          exact ⟨start, started, Iterated.succ_iff.mpr ⟨middle, first, others⟩⟩
        · rintro ⟨start, started, way⟩
          obtain ⟨middle, first, others⟩ := Iterated.succ_iff.mp way
          exact ⟨middle, (follows.reaches set inside middle).mpr ⟨start, started, first⟩, others⟩

/-- Of the positions reached so far, the ones that are not fresh have been stepped from. -/
def Settled (relation : Nat -> Nat -> Prop) (reached fresh : Positions) : Prop :=
  ∀ start finish, reached.testBit start = true -> relation start finish ->
    fresh.testBit start = true ∨ reached.testBit finish = true

/-- From a set with no fresh positions nothing else can be reached. -/
theorem Settled.iterated
    {reached : Positions}
    (settled : Settled relation reached 0)
    {count start finish : Nat}
    (started : reached.testBit start = true)
    (way : Iterated relation count start finish) :
    reached.testBit finish = true := by
  induction way with
  | zero => exact started
  | succ first _ inductionHypothesis =>
      rcases settled _ _ started first with impossible | arrived
      · simp at impossible
      · exact inductionHypothesis arrived

/-- Stepping from the fresh positions once more reaches what a step leads to from any of those
reached so far, and no more. -/
theorem testBit_next
    (follows : Follows last relation step)
    {reached fresh : Positions}
    (inside : Within last reached)
    (part : ∀ position, fresh.testBit position = true -> reached.testBit position = true)
    (settled : Settled relation reached fresh)
    (middle : Nat) :
    (reached ||| without (step fresh) reached).testBit middle = true ↔
      reached.testBit middle = true ∨
        ∃ start, reached.testBit start = true ∧ relation start middle := by
  have freshInside : Within last fresh := fun position present =>
    inside position (part position present)
  rw [Nat.testBit_or, testBit_without, Bool.or_eq_true, Bool.and_eq_true,
    follows.reaches fresh freshInside middle]
  constructor
  · rintro (old | ⟨⟨start, isFresh, related⟩, _⟩)
    · exact .inl old
    · exact .inr ⟨start, part start isFresh, related⟩
  · rintro (old | ⟨start, started, related⟩)
    · exact .inl old
    · rcases settled start middle started related with isFresh | arrived
      · by_cases old : reached.testBit middle = true
        · exact .inl old
        · exact .inr ⟨⟨start, isFresh, related⟩, by simp [old]⟩
      · exact .inl arrived

/-- After a step only the positions that are new are fresh. -/
theorem settled_next
    (follows : Follows last relation step)
    {reached fresh : Positions}
    (inside : Within last reached)
    (part : ∀ position, fresh.testBit position = true -> reached.testBit position = true)
    (settled : Settled relation reached fresh) :
    Settled relation (reached ||| without (step fresh) reached) (without (step fresh) reached) := by
  intro start finish started related
  rw [Nat.testBit_or, Bool.or_eq_true] at started
  rcases started with old | isFresh
  · exact .inr ((testBit_next follows inside part settled finish).mpr (.inr ⟨start, old, related⟩))
  · exact .inl isFresh

/-- Stepping on from fresh positions reaches all that a limited number of steps leads to. -/
theorem testBit_closure
    (follows : Follows last relation step)
    {count : Nat}
    {reached fresh : Positions}
    (inside : Within last reached)
    (part : ∀ position, fresh.testBit position = true -> reached.testBit position = true)
    (settled : Settled relation reached fresh)
    (finish : Nat) :
    (closure step count reached fresh).testBit finish = true ↔
      ∃ number start, number ≤ count ∧ reached.testBit start = true ∧
        Iterated relation number start finish := by
  induction count generalizing reached fresh with
  | zero =>
      constructor
      · intro present
        exact ⟨0, finish, le_rfl, present, .zero finish⟩
      · rintro ⟨number, start, none, started, way⟩
        obtain rfl : number = 0 := by omega
        rw [Iterated.zero_iff] at way
        exact way ▸ started
  | succ count inductionHypothesis =>
      rw [closure]
      split
      · rename_i nothingFresh
        rw [beq_iff_eq] at nothingFresh
        subst nothingFresh
        constructor
        · intro present
          exact ⟨0, finish, by omega, present, .zero finish⟩
        · rintro ⟨number, start, _, started, way⟩
          exact settled.iterated started way
      · have next := testBit_next follows inside part settled
        have nextInside : Within last (reached ||| without (step fresh) reached) := by
          intro middle present
          rcases (next middle).mp present with old | ⟨start, old, related⟩
          · exact inside middle old
          · exact follows.bounded start middle (inside start old) related
        rw [inductionHypothesis nextInside (by simp +contextual [Nat.testBit_or])
          (settled_next follows inside part settled)]
        constructor
        · rintro ⟨number, start, few, started, way⟩
          rcases (next start).mp started with old | ⟨earlier, old, related⟩
          · exact ⟨number, start, by omega, old, way⟩
          · exact ⟨number + 1, earlier, by omega, old, Iterated.succ_iff.mpr ⟨start, related, way⟩⟩
        · rintro ⟨number, start, few, started, way⟩
          cases number with
          | zero => exact ⟨0, start, by omega, (next start).mpr (.inl started), way⟩
          | succ number =>
              obtain ⟨middle, first, others⟩ := Iterated.succ_iff.mp way
              exact ⟨number, middle, by omega, (next middle).mpr (.inr ⟨start, started, first⟩),
                others⟩

/-- A number of steps, and then up to a number of steps more. -/
theorem testBit_again
    (follows : Follows last relation step)
    {set : Positions}
    (inside : Within last set)
    (least further finish : Nat) :
    (closure step further (times step least set) (times step least set)).testBit finish = true ↔
      ∃ number start middle, number ≤ further ∧ set.testBit start = true ∧
        Iterated relation least start middle ∧ Iterated relation number middle finish := by
  have copies := follows_times follows least
  rw [testBit_closure follows (copies.within inside) (fun _ present => present)
    (fun _ _ present _ => .inl present)]
  constructor
  · rintro ⟨number, middle, few, reached, after⟩
    obtain ⟨start, present, before⟩ := (copies.reaches set inside middle).mp reached
    exact ⟨number, start, middle, few, present, before, after⟩
  · rintro ⟨number, start, middle, few, present, before, after⟩
    exact ⟨number, middle, few, (copies.reaches set inside middle).mpr ⟨start, present, before⟩,
      after⟩

/-! ## Steps put together -/

/-- One step after another. -/
theorem Follows.comp
    {firstRelation secondRelation : Nat -> Nat -> Prop}
    {firstStep secondStep : Positions -> Positions}
    (first : Follows last firstRelation firstStep)
    (second : Follows last secondRelation secondStep) :
    Follows last
      (fun start finish => ∃ middle, firstRelation start middle ∧ secondRelation middle finish)
      (fun set => secondStep (firstStep set)) where
  bounded := by
    rintro start finish within ⟨middle, before, after⟩
    exact second.bounded middle finish (first.bounded start middle within before) after
  reaches := by
    intro set inside finish
    rw [second.reaches _ (first.within inside)]
    constructor
    · rintro ⟨middle, reached, after⟩
      obtain ⟨start, present, before⟩ := (first.reaches set inside middle).mp reached
      exact ⟨start, present, middle, before, after⟩
    · rintro ⟨start, present, middle, before, after⟩
      exact ⟨middle, (first.reaches set inside middle).mpr ⟨start, present, before⟩, after⟩

/-- Either of two steps. -/
theorem Follows.union
    {leftRelation rightRelation : Nat -> Nat -> Prop}
    {leftStep rightStep : Positions -> Positions}
    (left : Follows last leftRelation leftStep)
    (right : Follows last rightRelation rightStep) :
    Follows last (fun start finish => leftRelation start finish ∨ rightRelation start finish)
      (fun set => leftStep set ||| rightStep set) where
  bounded := by
    rintro start finish within (onLeft | onRight)
    · exact left.bounded start finish within onLeft
    · exact right.bounded start finish within onRight
  reaches := by
    intro set inside finish
    rw [Nat.testBit_or, Bool.or_eq_true, left.reaches set inside, right.reaches set inside]
    simp only [and_or_left, exists_or]

/-- Staying at the positions where a condition holds. -/
theorem follows_stay
    {condition : Nat -> Prop}
    {places : Positions}
    (holds : ∀ position, position ≤ last ->
      (places.testBit position = true ↔ condition position)) :
    Follows last (fun start finish => start = finish ∧ condition start) (· &&& places) where
  bounded := by
    rintro start finish within ⟨rfl, _⟩
    exact within
  reaches := by
    intro set inside finish
    rw [Nat.testBit_and, Bool.and_eq_true]
    constructor
    · rintro ⟨present, held⟩
      exact ⟨finish, present, rfl, (holds finish (inside finish present)).mp held⟩
    · rintro ⟨start, present, rfl, held⟩
      exact ⟨present, (holds start (inside start present)).mpr held⟩

end Positions

/-! ## Walks -/

namespace Expr

open Positions

/-- A repetition is a number of copies and then a number of further ones. -/
theorem matches_repetition_iff
    {inner : Expr}
    {least : Nat}
    {most : Option Nat}
    {greedy : Bool}
    {text : List Char}
    {start finish : Nat} :
    (repetition inner least most greedy).Matches text start finish ↔
      ∃ further middle, (∀ bound, most = some bound -> least + further ≤ bound) ∧
        Iterated (inner.Matches text) least start middle ∧
          Iterated (inner.Matches text) further middle finish := by
  constructor
  · rintro ⟨count, enough, few, way⟩
    obtain ⟨further, rfl⟩ := Nat.exists_eq_add_of_le enough
    obtain ⟨middle, before, after⟩ := Iterated.add_iff.mp way
    exact ⟨further, middle, few, before, after⟩
  · rintro ⟨further, middle, few, before, after⟩
    exact ⟨least + further, by omega, few, Iterated.add_iff.mpr ⟨middle, before, after⟩⟩

/-- The empty expression stays where it is. -/
theorem follows_walk_empty (text : List Char) :
    Follows text.length (empty.Matches text) (empty.walk text).reach := by
  have everywhere (position : Nat) (within : position ≤ text.length) :
      (all text).testBit position = true ↔ True := by
    simpa using within
  have stays := follows_stay everywhere
  simp only [and_true] at stays
  exact stays

/-- A class leads over one of its characters. -/
theorem follows_walk_chars (characters : Unicode.CharClass) (text : List Char) :
    Follows text.length ((chars characters).Matches text) ((chars characters).walk text).reach where
  bounded := by
    rintro start finish _ ⟨rfl, c, present, _⟩
    exact (List.getElem?_eq_some_iff.mp present).1
  reaches := by
    intro set inside finish
    simp only [walk, Walk.reach, Matches]
    cases finish with
    | zero => simp [Nat.testBit_zero]
    | succ position =>
        have bit := testBit_double_add_succ (set &&& ofClass characters text) false position
        simp only [Bool.toNat_false, Nat.add_zero] at bit
        rw [bit, Nat.testBit_and, Bool.and_eq_true, testBit_ofClass]
        constructor
        · rintro ⟨present, found⟩
          exact ⟨position, present, rfl, found⟩
        · rintro ⟨start, present, same, found⟩
          obtain rfl : position = start := by omega
          exact ⟨present, found⟩

/-- A repetition leads on as often as it may. Beyond the number of positions more steps reach
nothing new, so an unlimited repetition can stop there. -/
theorem follows_walk_repetition
    {inner : Expr}
    {text : List Char}
    (follows : Follows text.length (inner.Matches text) (inner.walk text).reach)
    (least : Nat)
    (most : Option Nat)
    (greedy : Bool) :
    Follows text.length ((repetition inner least most greedy).Matches text)
      ((repetition inner least most greedy).walk text).reach where
  bounded := by
    rintro start finish within ⟨count, _, _, way⟩
    exact follows.bounded.iterated count start finish within way
  reaches := by
    intro set inside finish
    have again (further : Nat) := testBit_again follows inside least further finish
    simp only [matches_repetition_iff]
    cases most with
    | none =>
        rw [walk, Walk.reach, again]
        constructor
        · rintro ⟨number, start, middle, _, present, before, after⟩
          exact ⟨start, present, number, middle, by simp, before, after⟩
        · rintro ⟨start, present, number, middle, _, before, after⟩
          have arrived :=
            follows.bounded.iterated least start middle (inside start present) before
          obtain ⟨few, short, way⟩ := follows.bounded.exists_short arrived after
          exact ⟨few, start, middle, by omega, present, before, way⟩
    | some bound =>
        rw [walk]
        split
        · rename_i ordered
          rw [Walk.reach, again]
          constructor
          · rintro ⟨number, start, middle, few, present, before, after⟩
            refine ⟨start, present, number, middle, ?_, before, after⟩
            intro other same
            cases same
            omega
          · rintro ⟨start, present, number, middle, few, before, after⟩
            have bounded := few bound rfl
            exact ⟨number, start, middle, by omega, present, before, after⟩
        · rename_i reversed
          simp only [Walk.reach, Nat.and_zero, Nat.zero_testBit, Bool.false_eq_true, false_iff]
          rintro ⟨start, _, number, middle, few, _, _⟩
          have bounded := few bound rfl
          omega

/-- Every walk leads to exactly the positions at which its expression can end. -/
theorem follows_walk (expression : Expr) (text : List Char) :
    Follows text.length (expression.Matches text) (expression.walk text).reach := by
  induction expression with
  | empty => exact follows_walk_empty text
  | chars characters => exact follows_walk_chars characters text
  | look place =>
      refine follows_stay fun position within => ?_
      rw [testBit_ofLook_none]
      exact and_iff_right within
  | seq first second firstFollows secondFollows => exact firstFollows.comp secondFollows
  | alt left right leftFollows rightFollows => exact leftFollows.union rightFollows
  | repetition inner least most greedy innerFollows =>
      exact follows_walk_repetition innerFollows least most greedy
  | capture inner innerFollows => exact innerFollows

/-- A match ends within the text. -/
theorem Matches.finish_le
    {expression : Expr}
    {text : List Char}
    {start finish : Nat}
    (found : expression.Matches text start finish)
    (within : start ≤ text.length) :
    finish ≤ text.length :=
  (expression.follows_walk text).bounded start finish within found

/-- The search says whether an expression matches some stretch of a text. -/
theorem foundIn_iff_matchesSome (expression : Expr) (text : List Char) :
    expression.foundIn text = true ↔ expression.MatchesSome text := by
  have inside : Within text.length (Positions.all text) := by
    intro position present
    simpa using present
  have reaches := (expression.follows_walk text).reaches _ inside
  rw [foundIn, bne_iff_ne]
  constructor
  · intro found
    obtain ⟨finish, present⟩ := Nat.exists_testBit_of_ne_zero found
    obtain ⟨start, started, stretch⟩ := (reaches finish).mp present
    exact ⟨start, finish, inside start started, stretch⟩
  · rintro ⟨start, finish, within, stretch⟩ nothing
    have present := (reaches finish).mpr ⟨start, by simp [within], stretch⟩
    simp [nothing] at present

end Expr
end Pattern
end PathVersions
