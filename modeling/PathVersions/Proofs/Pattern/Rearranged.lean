import PathVersions.Proofs.Pattern.Language
import Mathlib.Logic.Relation

/-!
# Rearranged trees

Which way to match is tried first does not show in what a tree matches. So the branches of an
alternation may change places, unless one of them sets flags for the others, and repetitions may
become greedy or reluctant, anywhere in a tree and any number of times.
-/

namespace PathVersions
namespace Pattern
namespace Tree

mutual

/-- Whether a tree sets flags that hold after it. Groups keep the flags that are set in them. -/
def setsFlags : Tree -> Bool
  | .empty => false
  | .setFlags _ => true
  | .literal _ => false
  | .dot => false
  | .anchor _ => false
  | .short _ _ => false
  | .property _ _ => false
  | .bracket _ _ => false
  | .repetition inner _ _ _ => inner.setsFlags
  | .group _ _ => false
  | .concatenation items => anySetsFlags items
  | .alternation branches => anySetsFlags branches

/-- Whether one of some trees sets flags that hold after it. -/
def anySetsFlags : List Tree -> Bool
  | [] => false
  | item :: rest => item.setsFlags || anySetsFlags rest

end

/-- One change of the order in which ways to match are tried. -/
inductive Rearranges : Tree -> Tree -> Prop
  | reorder (branches others : List Tree) (same : branches.Perm others)
      (steady : ∀ branch ∈ branches, branch.setsFlags = false) :
      Rearranges (.alternation branches) (.alternation others)
  | greed (inner : Tree) (least : Nat) (most : Option Nat) (before after : Bool) :
      Rearranges (.repetition inner least most before) (.repetition inner least most after)
  | repetition (inner other : Tree) (least : Nat) (most : Option Nat) (greedy : Bool)
      (inside : Rearranges inner other) :
      Rearranges (.repetition inner least most greedy) (.repetition other least most greedy)
  | group (kind : GroupKind) (inner other : Tree) (inside : Rearranges inner other) :
      Rearranges (.group kind inner) (.group kind other)
  | concatenation (front back : List Tree) (item other : Tree) (inside : Rearranges item other) :
      Rearranges (.concatenation (front ++ item :: back)) (.concatenation (front ++ other :: back))
  | alternation (front back : List Tree) (branch other : Tree)
      (inside : Rearranges branch other) :
      Rearranges (.alternation (front ++ branch :: back)) (.alternation (front ++ other :: back))

/-- Whether a tree can be rearranged to another one. -/
def Rearranged : Tree -> Tree -> Prop := Relation.ReflTransGen Rearranges

/-! ## Flags -/

mutual

theorem modesAfter_of_steady
    (tree : Tree)
    (steady : tree.setsFlags = false)
    (modes : Modes) :
    tree.modesAfter modes = modes := by
  cases tree with
  | setFlags change => contradiction
  | repetition inner least most greedy => exact modesAfter_of_steady inner steady modes
  | concatenation items => exact modesAfterAll_of_steady items steady modes
  | alternation branches => exact modesAfterAll_of_steady branches steady modes
  | _ => rfl

theorem modesAfterAll_of_steady
    (trees : List Tree)
    (steady : anySetsFlags trees = false)
    (modes : Modes) :
    modesAfterAll modes trees = modes := by
  cases trees with
  | nil => rfl
  | cons item rest =>
      obtain ⟨first, others⟩ : item.setsFlags = false ∧ anySetsFlags rest = false := by
        simpa [anySetsFlags] using steady
      rw [modesAfterAll, modesAfter_of_steady item first, modesAfterAll_of_steady rest others]

end

theorem anySetsFlags_eq_false
    {trees : List Tree}
    (steady : ∀ tree ∈ trees, tree.setsFlags = false) :
    anySetsFlags trees = false := by
  induction trees with
  | nil => rfl
  | cons item rest inductionHypothesis =>
      rw [anySetsFlags, steady item (by simp),
        inductionHypothesis fun tree member => steady tree (by simp [member])]
      rfl

variable {text : List Char} {start finish : Nat}

theorem matchesAny_iff_exists
    {branches : List Tree}
    (steady : ∀ branch ∈ branches, branch.setsFlags = false)
    (modes : Modes) :
    MatchesAny text modes branches start finish ↔
      ∃ branch ∈ branches, branch.Matches text modes start finish := by
  induction branches with
  | nil => simp [MatchesAny]
  | cons branch rest inductionHypothesis =>
      have others := inductionHypothesis fun tree member => steady tree (by simp [member])
      rw [MatchesAny, modesAfter_of_steady branch (steady branch (by simp)), others]
      simp

/-! ## One change -/

/-- Whether two trees match the same stretches in all modes, and leave the same modes. -/
structure Alike (tree other : Tree) : Prop where
  modes (modes : Modes) : other.modesAfter modes = tree.modesAfter modes
  same (text : List Char) (modes : Modes) (start finish : Nat) :
    other.Matches text modes start finish ↔ tree.Matches text modes start finish

theorem alike_reorder
    {branches others : List Tree}
    (same : branches.Perm others)
    (steady : ∀ branch ∈ branches, branch.setsFlags = false) :
    Alike (.alternation branches) (.alternation others) where
  modes modes := by
    have steadyOthers : ∀ branch ∈ others, branch.setsFlags = false :=
      fun branch member => steady branch (same.mem_iff.mpr member)
    rw [modesAfter, modesAfter, modesAfterAll_of_steady others (anySetsFlags_eq_false steadyOthers),
      modesAfterAll_of_steady branches (anySetsFlags_eq_false steady)]
  same text modes start finish := by
    have steadyOthers : ∀ branch ∈ others, branch.setsFlags = false :=
      fun branch member => steady branch (same.mem_iff.mpr member)
    rw [Matches, Matches, matchesAny_iff_exists steady, matchesAny_iff_exists steadyOthers]
    simp only [same.mem_iff]

theorem Alike.repetition
    {inner other : Tree}
    (alike : Alike inner other)
    (least : Nat)
    (most : Option Nat)
    (before after : Bool) :
    Alike (.repetition inner least most before) (.repetition other least most after) where
  modes modes := alike.modes modes
  same text modes start finish := by
    have relation : other.Matches text modes = inner.Matches text modes := by
      funext start finish
      exact propext (alike.same text modes start finish)
    rw [Matches, Matches, relation]

theorem Alike.at
    {item other : Tree}
    (alike : Alike item other)
    (front back : List Tree) :
    Alike (.concatenation (front ++ item :: back)) (.concatenation (front ++ other :: back)) ∧
      Alike (.alternation (front ++ item :: back)) (.alternation (front ++ other :: back)) := by
  induction front with
  | nil =>
      refine ⟨⟨fun modes => ?_, fun text modes start finish => ?_⟩,
        ⟨fun modes => ?_, fun text modes start finish => ?_⟩⟩
      · simp only [List.nil_append, modesAfter, modesAfterAll, alike.modes]
      · simp only [List.nil_append, Matches, MatchesInTurn, alike.same, alike.modes]
      · simp only [List.nil_append, modesAfter, modesAfterAll, alike.modes]
      · simp only [List.nil_append, Matches, MatchesAny, alike.same, alike.modes]
  | cons first rest inductionHypothesis =>
      obtain ⟨inTurn, any⟩ := inductionHypothesis
      refine ⟨⟨fun modes => ?_, fun text modes start finish => ?_⟩,
        ⟨fun modes => ?_, fun text modes start finish => ?_⟩⟩
      · exact inTurn.modes (first.modesAfter modes)
      · have rest := inTurn.same text (first.modesAfter modes)
        simp only [Matches] at rest
        simp only [List.cons_append, Matches, MatchesInTurn, rest]
      · exact any.modes (first.modesAfter modes)
      · have rest := any.same text (first.modesAfter modes)
        simp only [Matches] at rest
        simp only [List.cons_append, Matches, MatchesAny, rest]

/-- One change of the order does not show. -/
theorem Rearranges.alike
    {tree other : Tree}
    (step : Rearranges tree other) :
    Alike tree other := by
  induction step with
  | reorder branches others same steady => exact alike_reorder same steady
  | greed inner least most before after =>
      have unchanged : Alike inner inner := ⟨fun _ => rfl, fun _ _ _ _ => Iff.rfl⟩
      exact unchanged.repetition least most before after
  | repetition inner other least most greedy _ inductionHypothesis =>
      exact inductionHypothesis.repetition least most greedy greedy
  | group kind inner other _ inductionHypothesis =>
      exact ⟨fun _ => rfl, fun text modes => inductionHypothesis.same text _⟩
  | concatenation front back item other _ inductionHypothesis =>
      exact (inductionHypothesis.at front back).1
  | alternation front back branch other _ inductionHypothesis =>
      exact (inductionHypothesis.at front back).2

/-- No number of changes of the order shows. -/
theorem Rearranged.alike
    {tree other : Tree}
    (rearranged : Rearranged tree other) :
    Alike tree other := by
  induction rearranged with
  | refl => exact ⟨fun _ => rfl, fun _ _ _ _ => Iff.rfl⟩
  | tail _ step inductionHypothesis =>
      have later := step.alike
      refine ⟨fun modes => ?_, fun text modes start finish => ?_⟩
      · rw [later.modes, inductionHypothesis.modes]
      · rw [later.same, inductionHypothesis.same]

end Tree
end Pattern
end PathVersions
