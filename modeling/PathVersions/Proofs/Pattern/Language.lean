import PathVersions.Pattern.Meaning
import PathVersions.Proofs.Pattern.Remainder

/-!
# The language of a tree

Which stretches of a text a tree matches, said of the tree as it is written: each branch of an
alternation and each count of a repetition that can be chosen counts, flags hold from where they are
set to the end of their group, and classes are described by what their characters are. The
expression that a tree stands for matches just these stretches.
-/

namespace PathVersions
namespace Pattern

/-! ## Characters -/

/-- A condition, or its opposite if that is asked for. -/
def Unless (negated : Bool) (holds : Prop) : Prop := if negated then ¬holds else holds

/-- A class that may be negated holds what is in it, or what is not. -/
theorem containsCode_negatedIf
    {negated : Bool}
    {characters : Unicode.CharClass}
    {code : Nat}
    {holds : Prop}
    (same : characters.containsCode code = true ↔ holds) :
    (Unicode.CharClass.negatedIf negated characters).containsCode code = true ↔
      Unless negated holds := by
  unfold Unicode.CharClass.negatedIf Unless
  cases negated with
  | false => exact same
  | true => simp [Unicode.CharClass.containsCode, ← same]

namespace Modes

variable {modes : Modes} {code : Nat}

/-- Whether a code point, or one that is alike to it where case is ignored, is in a set. -/
def Folds (modes : Modes) (set : Nat -> Prop) (code : Nat) : Prop :=
  if modes.ignoreCase then ∃ other ∈ modes.caseScope.alike (Char.ofNat code), set other
  else set code

/-- Whether a dot stands for a code point. -/
def DotHas (modes : Modes) (code : Nat) : Prop :=
  modes.dotAll = true ∨ (code ≠ 0x0a ∧ (modes.crlf = true -> code ≠ 0x0d))

/-- Folding a class is folding the set that it stands for. -/
theorem containsCode_fold
    {characters : Unicode.CharClass}
    {set : Nat -> Prop}
    (same : ∀ code, characters.containsCode code = true ↔ set code) :
    (modes.fold characters).containsCode code = true ↔ modes.Folds set code := by
  unfold fold Folds
  split
  · simp [Unicode.CharClass.containsCode, same]
  · exact same code

/-- Negating a class is taking the other code points. -/
theorem containsCode_negate
    {negated : Bool}
    {characters result : Unicode.CharClass}
    {holds : Prop}
    (found : modes.negate negated characters = .ok result)
    (same : characters.containsCode code = true ↔ holds) :
    result.containsCode code = true ↔ Unless negated holds := by
  unfold negate at found
  split at found
  · contradiction
  · cases found
    exact containsCode_negatedIf same

end Modes

/-- A literal that is admitted stands for its character. -/
theorem checked_eq_ok
    {modes : Modes}
    {literal : Literal}
    {c : Char}
    (found : literal.checked modes = .ok c) :
    c = literal.char := by
  unfold Literal.checked at found
  split at found
  · contradiction
  · exact (Except.ok.inj found).symm

theorem inSet_eq_ok
    {modes : Modes}
    {literal : Literal}
    {c : Char}
    (found : literal.inSet modes = .ok c) :
    c = literal.char := by
  obtain ⟨own, checked, found⟩ := bind_eq_ok.mp found
  split at found
  · contradiction
  · rw [pure_eq_ok] at found
    exact found ▸ checked_eq_ok checked

theorem containsCode_single (c : Char) (code : Nat) :
    (Unicode.CharClass.single c).containsCode code = true ↔ code = c.toNat := by
  simp only [Unicode.CharClass.single, Unicode.CharClass.containsCode,
    Unicode.CodeRange.anyContains, Unicode.CodeRange.contains, Bool.or_false, Bool.and_eq_true,
    decide_eq_true_eq]
  omega

theorem containsCode_range (first last : Char) (code : Nat) :
    (Unicode.CharClass.range first last).containsCode code = true ↔
      first.toNat ≤ code ∧ code ≤ last.toNat := by
  simp [Unicode.CharClass.range, Unicode.CharClass.containsCode, Unicode.CodeRange.anyContains,
    Unicode.CodeRange.contains]

/-- Whether a code point has a property that is looked up by name. -/
def PropertyHas
    (modes : Modes)
    (query : Unicode.PropertyQuery)
    (negated : Bool)
    (code : Nat) :
    Prop :=
  ∃ characters, query.characters = .ok characters ∧
    Unless negated (modes.Folds (fun other => characters.containsCode other = true) code)

/-- The class of a property holds the code points that have it, or those that do not. -/
theorem containsCode_propertyClass
    {modes : Modes}
    {query : Unicode.PropertyQuery}
    {negated : Bool}
    {characters : Unicode.CharClass}
    {code : Nat}
    (found : propertyClass modes query negated = .ok characters) :
    characters.containsCode code = true ↔ PropertyHas modes query negated code := by
  unfold propertyClass at found
  unfold PropertyHas
  split at found
  · contradiction
  · split at found
    · rename_i own known
      rw [Modes.containsCode_negate found (Modes.containsCode_fold fun _ => Iff.rfl)]
      simp [known]
    · contradiction
    · contradiction

/-- Whether an escape of one letter stands for a code point. -/
def ShortHas (modes : Modes) (kind : ShortClass) (negated : Bool) (code : Nat) : Prop :=
  Unless negated ((kind.characters modes).containsCode code = true)

/-- The class of an escape of one letter, negated for a capital one. -/
theorem containsCode_shortClass
    {modes : Modes}
    {kind : ShortClass}
    {negated : Bool}
    {characters : Unicode.CharClass}
    {code : Nat}
    (found : shortClass modes kind negated = .ok characters) :
    characters.containsCode code = true ↔ ShortHas modes kind negated code :=
  Modes.containsCode_negate found Iff.rfl

/-- The class of a dot leaves out what ends a line, unless the modes say otherwise. -/
theorem containsCode_dotClass
    {modes : Modes}
    {characters : Unicode.CharClass}
    {code : Nat}
    (found : dotClass modes = .ok characters) :
    characters.containsCode code = true ↔ modes.DotHas code := by
  unfold dotClass at found
  unfold Modes.DotHas
  split at found
  · contradiction
  · split at found
    · rename_i all
      cases found
      simp [all, Unicode.CharClass.all, Unicode.CharClass.none, Unicode.CharClass.containsCode,
        Unicode.CodeRange.anyContains]
    · rename_i some
      split at found
      · rename_i crlf
        cases found
        simp [some, crlf, Unicode.CharClass.containsCode, Unicode.CodeRange.anyContains,
          Unicode.CodeRange.contains]
      · rename_i crlf
        cases found
        simp [some, crlf, Unicode.CharClass.single, Unicode.CharClass.containsCode,
          Unicode.CodeRange.anyContains, Unicode.CodeRange.contains]

/-! ## Sets between brackets -/

/-- What an operator makes of two conditions. -/
def SetOperator.Joins (operator : SetOperator) (left right : Prop) : Prop :=
  match operator with
  | .intersection => left ∧ right
  | .difference => left ∧ ¬right
  | .symmetricDifference => (left ∧ ¬right) ∨ (right ∧ ¬left)

/-- An operator joins two classes as it joins their conditions. -/
theorem SetOperator.containsCode_combine
    {operator : SetOperator}
    {left right : Unicode.CharClass}
    {code : Nat}
    {onLeft onRight : Prop}
    (sameLeft : left.containsCode code = true ↔ onLeft)
    (sameRight : right.containsCode code = true ↔ onRight) :
    (operator.combine left right).containsCode code = true ↔ operator.Joins onLeft onRight := by
  cases operator <;>
    simp [combine, Joins, Unicode.CharClass.difference, Unicode.CharClass.symmetricDifference,
      Unicode.CharClass.containsCode, ← sameLeft, ← sameRight]

namespace SetTree

mutual

/-- Whether a set holds a code point. Case is ignored between each pair of brackets and on both
sides of each operator. -/
def Has (modes : Modes) : SetTree -> Nat -> Prop
  | .literal own, code => code = own.char.toNat
  | .range first last, code => first.char.toNat ≤ code ∧ code ≤ last.char.toNat
  | .named kind negated, code =>
      Unless negated (modes.Folds (fun other => kind.characters.containsCode other = true) code)
  | .short kind negated, code => ShortHas modes kind negated code
  | .property query negated, code => PropertyHas modes query negated code
  | .bracket negated inner, code => Unless negated (modes.Folds (inner.Has modes) code)
  | .union items, code => AnyHas modes items code
  | .binary operator left right, code =>
      operator.Joins (modes.Folds (left.Has modes) code) (modes.Folds (right.Has modes) code)

/-- Whether one of some sets holds a code point. -/
def AnyHas (modes : Modes) : List SetTree -> Nat -> Prop
  | [], _ => False
  | item :: rest, code => item.Has modes code ∨ AnyHas modes rest code

end

variable {modes : Modes}

mutual

/-- The class that a set describes is that of the code points that it holds. -/
theorem containsCode_characters
    {characters : Unicode.CharClass}
    (set : SetTree)
    (found : set.characters modes = .ok characters)
    (code : Nat) :
    characters.containsCode code = true ↔ set.Has modes code := by
  cases set with
  | literal own =>
      obtain ⟨c, known, found⟩ := bind_eq_ok.mp found
      rw [pure_eq_ok] at found
      rw [← found, containsCode_single, inSet_eq_ok known, Has]
  | range first last =>
      obtain ⟨low, lowest, found⟩ := bind_eq_ok.mp found
      obtain ⟨high, highest, found⟩ := bind_eq_ok.mp found
      rw [pure_eq_ok] at found
      rw [← found, containsCode_range, inSet_eq_ok lowest, inSet_eq_ok highest, Has]
  | named kind negated =>
      exact Modes.containsCode_negate found (Modes.containsCode_fold fun _ => Iff.rfl)
  | short kind negated => exact containsCode_shortClass found
  | property query negated => exact containsCode_propertyClass found
  | bracket negated inner =>
      obtain ⟨own, known, found⟩ := bind_eq_ok.mp found
      exact Modes.containsCode_negate found
        (Modes.containsCode_fold (containsCode_characters inner known))
  | union items => exact containsCode_unionOf items found code
  | binary operator left right =>
      obtain ⟨first, onLeft, found⟩ := bind_eq_ok.mp found
      obtain ⟨second, onRight, found⟩ := bind_eq_ok.mp found
      rw [pure_eq_ok] at found
      rw [← found]
      exact SetOperator.containsCode_combine
        (Modes.containsCode_fold (containsCode_characters left onLeft))
        (Modes.containsCode_fold (containsCode_characters right onRight))

/-- A union holds what one of its items holds. -/
theorem containsCode_unionOf
    {characters : Unicode.CharClass}
    (items : List SetTree)
    (found : unionOf modes items = .ok characters)
    (code : Nat) :
    characters.containsCode code = true ↔ AnyHas modes items code := by
  cases items with
  | nil =>
      rw [unionOf, Except.ok.injEq] at found
      simp [← found, AnyHas, Unicode.CharClass.none, Unicode.CharClass.containsCode,
        Unicode.CodeRange.anyContains]
  | cons item rest =>
      obtain ⟨first, own, found⟩ := bind_eq_ok.mp found
      obtain ⟨others, remaining, found⟩ := bind_eq_ok.mp found
      rw [pure_eq_ok] at found
      rw [← found, AnyHas, ← containsCode_characters item own,
        ← containsCode_unionOf rest remaining]
      simp [Unicode.CharClass.containsCode]

end

end SetTree

/-! ## Trees -/

/-- Whether a text has a code point of a set between two positions, and nothing else. -/
def Takes (text : List Char) (set : Nat -> Prop) (start finish : Nat) : Prop :=
  finish = start + 1 ∧ ∃ c, text[start]? = some c ∧ set c.toNat

/-- A class matches one character of its set and nothing else. -/
theorem Expr.matches_chars_iff
    {characters : Unicode.CharClass}
    {set : Nat -> Prop}
    (same : ∀ code, characters.containsCode code = true ↔ set code)
    (text : List Char)
    (start finish : Nat) :
    (Expr.chars characters).Matches text start finish ↔ Takes text set start finish := by
  simp only [Matches, Takes, Unicode.CharClass.contains, same]

namespace Tree

mutual

/-- The modes after a tree, which flags set in it may have changed. -/
def modesAfter (modes : Modes) : Tree -> Modes
  | .empty => modes
  | .setFlags change => modes.change change
  | .literal _ => modes
  | .dot => modes
  | .anchor _ => modes
  | .short _ _ => modes
  | .property _ _ => modes
  | .bracket _ _ => modes
  | .repetition inner _ _ _ => inner.modesAfter modes
  | .group _ _ => modes
  | .concatenation items => modesAfterAll modes items
  | .alternation branches => modesAfterAll modes branches

/-- The modes after some trees. -/
def modesAfterAll (modes : Modes) : List Tree -> Modes
  | [] => modes
  | item :: rest => modesAfterAll (item.modesAfter modes) rest

end

mutual

/-- Whether a tree matches a text between two positions, given the modes before it. -/
def Matches (text : List Char) (modes : Modes) : Tree -> Nat -> Nat -> Prop
  | .empty, start, finish => start = finish
  | .setFlags _, start, finish => start = finish
  | .literal own, start, finish =>
      Takes text (modes.Folds fun code => code = own.char.toNat) start finish
  | .dot, start, finish => Takes text modes.DotHas start finish
  | .anchor place, start, finish =>
      start = finish ∧ (place.look modes).holdsAt text start = true
  | .short kind negated, start, finish => Takes text (ShortHas modes kind negated) start finish
  | .property query negated, start, finish =>
      Takes text (PropertyHas modes query negated) start finish
  | .bracket negated inner, start, finish =>
      Takes text (fun code => Unless negated (modes.Folds (inner.Has modes) code)) start finish
  | .repetition inner least most _, start, finish =>
      ∃ count, least ≤ count ∧ (∀ bound, most = some bound -> count ≤ bound) ∧
        Iterated (inner.Matches text modes) count start finish
  | .group kind inner, start, finish => inner.Matches text (modes.change kind.change) start finish
  | .concatenation items, start, finish => MatchesInTurn text modes items start finish
  | .alternation branches, start, finish => MatchesAny text modes branches start finish

/-- Whether trees match a text one after the other, each in the modes that those before leave. -/
def MatchesInTurn (text : List Char) (modes : Modes) : List Tree -> Nat -> Nat -> Prop
  | [], start, finish => start = finish
  | item :: rest, start, finish =>
      ∃ middle, item.Matches text modes start middle ∧
        MatchesInTurn text (item.modesAfter modes) rest middle finish

/-- Whether one of some trees matches a text, each in the modes that those before leave. -/
def MatchesAny (text : List Char) (modes : Modes) : List Tree -> Nat -> Nat -> Prop
  | [], _, _ => False
  | branch :: rest, start, finish =>
      branch.Matches text modes start finish ∨
        MatchesAny text (branch.modesAfter modes) rest start finish

end

/-- Whether a pattern matches a whole text. -/
def MatchesAll (tree : Tree) (text : List Char) : Prop :=
  tree.Matches text Modes.start 0 text.length

end Tree

namespace Expr

/-- A sequence starts with its first expression. -/
theorem matches_ofSequence_cons
    (first : Expr)
    (rest : List Expr)
    (text : List Char)
    (start finish : Nat) :
    (ofSequence (first :: rest)).Matches text start finish ↔
      ∃ middle, first.Matches text start middle ∧
        (ofSequence rest).Matches text middle finish := by
  cases rest with
  | nil => simp [ofSequence, Matches]
  | cons second others => rfl

end Expr

namespace Tree

mutual

/-- An expression matches what its tree matches, and the modes after it are those after the
tree. -/
theorem expression_meaning
    {modes after : Modes}
    {expression : Expr}
    (tree : Tree)
    (found : tree.expression modes = .ok (expression, after)) :
    after = tree.modesAfter modes ∧
      ∀ text start finish,
        expression.Matches text start finish ↔ tree.Matches text modes start finish := by
  cases tree with
  | empty =>
      cases found
      exact ⟨rfl, fun _ _ _ => Iff.rfl⟩
  | setFlags change =>
      cases found
      exact ⟨rfl, fun _ _ _ => Iff.rfl⟩
  | literal own =>
      obtain ⟨c, known, found⟩ := bind_eq_ok.mp found
      cases found
      refine ⟨rfl, Expr.matches_chars_iff fun code => Modes.containsCode_fold fun other => ?_⟩
      rw [containsCode_single, checked_eq_ok known]
  | dot =>
      obtain ⟨characters, known, found⟩ := bind_eq_ok.mp found
      cases found
      exact ⟨rfl, Expr.matches_chars_iff fun code => containsCode_dotClass known⟩
  | anchor place =>
      cases found
      exact ⟨rfl, fun _ _ _ => Iff.rfl⟩
  | short kind negated =>
      obtain ⟨characters, known, found⟩ := bind_eq_ok.mp found
      cases found
      exact ⟨rfl, Expr.matches_chars_iff fun code => containsCode_shortClass known⟩
  | property query negated =>
      obtain ⟨characters, known, found⟩ := bind_eq_ok.mp found
      cases found
      exact ⟨rfl, Expr.matches_chars_iff fun code => containsCode_propertyClass known⟩
  | bracket negated inner =>
      obtain ⟨own, known, found⟩ := bind_eq_ok.mp found
      obtain ⟨characters, negates, found⟩ := bind_eq_ok.mp found
      cases found
      refine ⟨rfl, Expr.matches_chars_iff fun code => Modes.containsCode_negate negates ?_⟩
      exact Modes.containsCode_fold (inner.containsCode_characters known)
  | repetition inner least most greedy =>
      obtain ⟨⟨own, left⟩, known, found⟩ := bind_eq_ok.mp found
      cases found
      obtain ⟨same, meaning⟩ := expression_meaning inner known
      refine ⟨same, fun text start finish => ?_⟩
      have relation : own.Matches text = inner.Matches text modes := by
        funext start finish
        exact propext (meaning text start finish)
      rw [Expr.Matches, Matches, relation]
  | group kind inner =>
      obtain ⟨⟨own, left⟩, known, found⟩ := bind_eq_ok.mp found
      cases found
      obtain ⟨_, meaning⟩ := expression_meaning inner known
      refine ⟨rfl, fun text start finish => ?_⟩
      rw [Matches, ← meaning]
      split <;> rfl
  | concatenation items =>
      obtain ⟨⟨list, left⟩, known, found⟩ := bind_eq_ok.mp found
      cases found
      obtain ⟨same, inTurn, _⟩ := expressions_meaning items known
      exact ⟨same, inTurn⟩
  | alternation branches =>
      obtain ⟨⟨list, left⟩, known, found⟩ := bind_eq_ok.mp found
      cases found
      obtain ⟨same, _, any⟩ := expressions_meaning branches known
      exact ⟨same, any⟩

/-- The modes go from tree to tree, also from one branch to the next. -/
theorem expressions_meaning
    {modes after : Modes}
    {list : List Expr}
    (trees : List Tree)
    (found : expressions modes trees = .ok (list, after)) :
    after = modesAfterAll modes trees ∧
      (∀ text start finish,
        (Expr.ofSequence list).Matches text start finish ↔
          MatchesInTurn text modes trees start finish) ∧
      ∀ text start finish,
        (Expr.ofAlternatives list).Matches text start finish ↔
          MatchesAny text modes trees start finish := by
  cases trees with
  | nil =>
      cases found
      refine ⟨rfl, fun _ _ _ => Iff.rfl, fun text start finish => ?_⟩
      simp [Expr.ofAlternatives, Expr.Matches, MatchesAny, Unicode.CharClass.none]
  | cons item rest =>
      obtain ⟨⟨first, middle⟩, own, found⟩ := bind_eq_ok.mp found
      obtain ⟨⟨others, last⟩, remaining, found⟩ := bind_eq_ok.mp found
      cases found
      obtain ⟨rfl, meaning⟩ := expression_meaning item own
      obtain ⟨rfl, inTurn, any⟩ := expressions_meaning rest remaining
      refine ⟨rfl, fun text start finish => ?_, fun text start finish => ?_⟩
      · rw [Expr.matches_ofSequence_cons, MatchesInTurn]
        simp only [meaning, inTurn]
      · rw [MatchesAny, ← meaning, ← any]
        rfl

end

/-! ## Items and branches -/

section

variable {text : List Char} {modes : Modes} {start finish : Nat}

/-- A single item is no sequence, and yet leaves the modes as it would. -/
theorem modesAfter_ofItems (modes : Modes) (items : List Tree) :
    (ofItems items).modesAfter modes = modesAfterAll modes items := by
  cases items with
  | nil => rfl
  | cons item rest => cases rest <;> rfl

theorem matches_ofItems (items : List Tree) :
    (ofItems items).Matches text modes start finish ↔
      MatchesInTurn text modes items start finish := by
  cases items with
  | nil => rfl
  | cons item rest =>
      cases rest with
      | nil => simp [ofItems, MatchesInTurn]
      | cons second others => rfl

/-- A single branch is no choice, and matches the same. -/
theorem matches_ofBranches
    {branches : List Tree}
    (some : branches ≠ []) :
    (ofBranches branches).Matches text modes start finish ↔
      MatchesAny text modes branches start finish := by
  cases branches with
  | nil => contradiction
  | cons branch rest =>
      cases rest with
      | nil => simp [ofBranches, MatchesAny]
      | cons second others => rfl

/-- What stands in turn may be split anywhere, and the modes go from the front to the back. -/
theorem matchesInTurn_append (front back : List Tree) :
    MatchesInTurn text modes (front ++ back) start finish ↔
      ∃ middle, MatchesInTurn text modes front start middle ∧
        MatchesInTurn text (modesAfterAll modes front) back middle finish := by
  induction front generalizing modes start with
  | nil => simp [MatchesInTurn, modesAfterAll]
  | cons item rest inductionHypothesis =>
      simp only [List.cons_append, MatchesInTurn, modesAfterAll, inductionHypothesis]
      constructor
      · rintro ⟨first, own, middle, others, later⟩
        exact ⟨middle, ⟨first, own, others⟩, later⟩
      · rintro ⟨middle, ⟨first, own, others⟩, later⟩
        exact ⟨first, own, middle, others, later⟩

theorem matchesAny_append (front back : List Tree) :
    MatchesAny text modes (front ++ back) start finish ↔
      MatchesAny text modes front start finish ∨
        MatchesAny text (modesAfterAll modes front) back start finish := by
  induction front generalizing modes with
  | nil => simp [MatchesAny, modesAfterAll]
  | cons branch rest inductionHypothesis =>
      simp only [List.cons_append, MatchesAny, modesAfterAll, inductionHypothesis, or_assoc]

end

end Tree
end Pattern
end PathVersions
