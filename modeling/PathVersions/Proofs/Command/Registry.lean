import Mathlib.Data.List.Sort
import Mathlib.Data.Prod.Lex
import Mathlib.Data.String.Basic
import PathVersions.Proofs.Command.NameMap

/-!
# What a registry shows

A registry is known by the commands that are found in it. As long as no category stands in it twice,
and no name twice in a category, and no category is empty, all that it shows follows from what is
found: the list, which is in order, the overview, the help and the answers.
-/

namespace PathVersions
namespace Registry

/-- A registry in which no category stands twice, no name twice in a category, and no category is
empty. -/
structure WellFormed (registry : Registry) : Prop where
  distinct : NameMap.Distinct registry.categories
  namesDistinct : ∀ entry ∈ registry.categories, NameMap.Distinct entry.2
  nonempty : ∀ entry ∈ registry.categories, entry.2 ≠ []

theorem wellFormed_empty : empty.WellFormed where
  distinct := List.nodup_nil
  namesDistinct := by simp [empty]
  nonempty := by simp [empty]

/-! ## Finding -/

/-- The command that is registered last is found under its name, and all others as before. -/
theorem find?_register
    (registry : Registry)
    (category : String)
    (command : Command)
    (asked name : String) :
    (registry.register category command).find? asked name =
      if (category, command.metadata.name) = (asked, name) then some command
      else registry.find? asked name := by
  rw [find?, find?, register, NameMap.find?_update]
  by_cases same : category = asked
  · subst same
    simp only [if_true, Option.bind_some, NameMap.find?_update, Prod.mk.injEq, true_and]
    cases registry.categories.find? category with
    | none => rfl
    | some commands => rfl
  · simp [same]

/-- A registration keeps each category and each command under one name. -/
theorem WellFormed.register
    {registry : Registry}
    (wellFormed : registry.WellFormed)
    (category : String)
    (command : Command) :
    (registry.register category command).WellFormed := by
  have before : NameMap.Distinct ((registry.categories.find? category).getD []) := by
    cases found : registry.categories.find? category with
    | none => exact List.nodup_nil
    | some commands => exact wellFormed.namesDistinct _ (NameMap.mem_of_find? found)
  refine ⟨wellFormed.distinct.update _ _, ?_, ?_⟩
  · intro entry member
    obtain kept | rfl := NameMap.mem_update member
    · exact wellFormed.namesDistinct entry kept
    · exact before.update _ _
  · intro entry member
    obtain kept | rfl := NameMap.mem_update member
    · exact wellFormed.nonempty entry kept
    · intro nothing
      have found := NameMap.find?_update command.metadata.name command.metadata.name
        (fun _ => command) ((registry.categories.find? category).getD [])
      simp only at nothing
      rw [nothing] at found
      simp [NameMap.find?] at found

/-- A category is known exactly if it has a command. -/
theorem WellFormed.find?_category_isSome_iff
    {registry : Registry}
    (wellFormed : registry.WellFormed)
    (category : String) :
    (registry.categories.find? category).isSome ↔ ∃ name command,
      registry.find? category name = some command := by
  rw [Option.isSome_iff_exists]
  constructor
  · rintro ⟨commands, found⟩
    cases shape : commands with
    | nil => exact absurd shape (wellFormed.nonempty _ (NameMap.mem_of_find? found))
    | cons entry rest =>
        refine ⟨entry.1, entry.2, ?_⟩
        rw [find?, found, shape]
        simp [NameMap.find?]
  · rintro ⟨name, command, found⟩
    obtain ⟨commands, known, _⟩ := Option.bind_eq_some_iff.mp found
    exact ⟨commands, known⟩

/-- In a well-formed registry a category is looked up in its own table. -/
theorem WellFormed.find?_of_mem
    {registry : Registry}
    (wellFormed : registry.WellFormed)
    {category : String}
    {commands : NameMap Command}
    (member : (category, commands) ∈ registry.categories)
    (name : String) :
    registry.find? category name = commands.find? name := by
  rw [find?, (wellFormed.distinct.find?_eq_some_iff category commands).mpr member,
    Option.bind_some]

/-! ## Listing -/

theorem mem_sortNames {name : String} {names : List String} :
    name ∈ sortNames names ↔ name ∈ names :=
  List.mem_mergeSort

/-- Different names are sorted to an ascending list. -/
theorem sortedLT_sortNames
    {names : List String}
    (distinct : names.Nodup) :
    (sortNames names).SortedLT := by
  rw [List.sortedLT_iff_nodup_and_sortedLE, List.sortedLE_iff_pairwise]
  exact ⟨(List.mergeSort_perm _ _).nodup_iff.mpr distinct, List.pairwise_mergeSort' (· ≤ ·) names⟩

/-- Entries of the list compare by their category first. -/
theorem mayPrecede_iff (left right : String × List String) :
    mayPrecede left right = true ↔ toLex left ≤ toLex right := by
  rw [mayPrecede, Prod.Lex.toLex_le_toLex]
  by_cases same : left.1 = right.1
  · rw [if_pos (beq_iff_eq.mpr same), decide_eq_true_iff]
    simp only [same, lt_self_iff_false, true_and, false_or]
    exact not_lt
  · simp [same, lt_iff_le_and_ne]

/-- What is listed are the categories with their commands in order. -/
theorem mem_list_iff (registry : Registry) (category : String) (names : List String) :
    (category, names) ∈ registry.list ↔
      ∃ commands, (category, commands) ∈ registry.categories ∧
        sortNames (NameMap.names commands) = names := by
  rw [list, List.mem_mergeSort, List.mem_map]
  constructor
  · rintro ⟨⟨_, commands⟩, member, rfl, rfl⟩
    exact ⟨commands, member, rfl⟩
  · rintro ⟨commands, member, rfl⟩
    exact ⟨(category, commands), member, rfl⟩

/-- The categories of a list are in order, and none stands in it twice. -/
theorem WellFormed.pairwise_list
    {registry : Registry}
    (wellFormed : registry.WellFormed) :
    registry.list.Pairwise fun left right => left.1 < right.1 := by
  -- Sorting only says that no category comes after a greater one; that they differ makes it strict.
  have ordered : registry.list.Pairwise fun left right => mayPrecede left right = true := by
    apply List.pairwise_mergeSort
    · intro first second third
      simp only [mayPrecede_iff]
      exact le_trans
    · intro first second
      simpa [mayPrecede_iff] using le_total (toLex first) (toLex second)
  have apart : registry.list.Pairwise fun left right => left.1 ≠ right.1 := by
    rw [← List.pairwise_map (f := Prod.fst)]
    apply ((List.mergeSort_perm _ mayPrecede).map Prod.fst).nodup_iff.mpr
    rw [List.map_map]
    exact wellFormed.distinct
  refine (ordered.and apart).imp ?_
  rintro left right ⟨before, different⟩
  rw [mayPrecede_iff, Prod.Lex.toLex_le_toLex] at before
  exact before.resolve_right fun equal => different equal.1

/-- What is listed are the names of the commands that are found. -/
theorem WellFormed.exists_mem_list_iff
    {registry : Registry}
    (wellFormed : registry.WellFormed)
    (category name : String) :
    (∃ names, (category, names) ∈ registry.list ∧ name ∈ names) ↔
      registry.find? category name ≠ none := by
  constructor
  · rintro ⟨names, listed, member⟩
    obtain ⟨commands, known, rfl⟩ := (mem_list_iff registry category names).mp listed
    rw [mem_sortNames] at member
    rw [wellFormed.find?_of_mem known, Ne, NameMap.find?_eq_none_iff, not_not]
    exact member
  · intro found
    obtain ⟨command, found⟩ := Option.ne_none_iff_exists'.mp found
    obtain ⟨commands, known, same⟩ := Option.bind_eq_some_iff.mp found
    have member := NameMap.mem_names_of_mem (NameMap.mem_of_find? same)
    exact ⟨_, (mem_list_iff registry category _).mpr
      ⟨commands, NameMap.mem_of_find? known, rfl⟩, mem_sortNames.mpr member⟩

/-! ## Registries in which the same is found -/

variable {left right : Registry}

/-- Registries in which the same is found list the same, one way and the other. -/
theorem list_subset_of_find?_eq
    (leftFormed : left.WellFormed)
    (rightFormed : right.WellFormed)
    (same : ∀ category name, left.find? category name = right.find? category name)
    {entry : String × List String}
    (listed : entry ∈ left.list) :
    entry ∈ right.list := by
  obtain ⟨category, names⟩ := entry
  obtain ⟨commands, member, rfl⟩ := (mem_list_iff left category names).mp listed
  have known : (right.categories.find? category).isSome := by
    rw [rightFormed.find?_category_isSome_iff]
    simp only [← same]
    rw [← leftFormed.find?_category_isSome_iff,
      (leftFormed.distinct.find?_eq_some_iff category commands).mpr member]
    rfl
  obtain ⟨others, found⟩ := Option.isSome_iff_exists.mp known
  have other := NameMap.mem_of_find? found
  refine (mem_list_iff right category _).mpr ⟨others, other, ?_⟩
  refine (sortedLT_sortNames (rightFormed.namesDistinct _ other)).eq_of_mem_iff
    (sortedLT_sortNames (leftFormed.namesDistinct _ member)) fun name => ?_
  rw [mem_sortNames, mem_sortNames, ← not_iff_not, ← NameMap.find?_eq_none_iff,
    ← NameMap.find?_eq_none_iff, ← rightFormed.find?_of_mem other,
    ← leftFormed.find?_of_mem member, same]

/-- Since lists are sorted, the same entries make the same list. -/
theorem list_eq_of_find?_eq
    (leftFormed : left.WellFormed)
    (rightFormed : right.WellFormed)
    (same : ∀ category name, left.find? category name = right.find? category name) :
    left.list = right.list := by
  -- Two strictly increasing lists with the same members are equal.
  let before (first second : String × List String) : Prop := first.1 < second.1
  have : Std.Antisymm before := ⟨fun _ _ less greater => absurd greater (lt_asymm less)⟩
  have : Std.Irrefl before := ⟨fun _ less => lt_irrefl _ less⟩
  refine List.Pairwise.eq_of_mem_iff (r := before) leftFormed.pairwise_list
    rightFormed.pairwise_list fun entry => ⟨?_, ?_⟩
  · exact list_subset_of_find?_eq leftFormed rightFormed same
  · exact list_subset_of_find?_eq rightFormed leftFormed fun category name =>
      (same category name).symm

/-- The overview goes by the list and by lookups. -/
theorem helpText_eq_of_find?_eq
    (leftFormed : left.WellFormed)
    (rightFormed : right.WellFormed)
    (same : ∀ category name, left.find? category name = right.find? category name) :
    left.helpText = right.helpText := by
  have lines (category : String) (names : List String) :
      left.categoryLines category names = right.categoryLines category names := by
    simp only [categoryLines, same]
  simp only [helpText, list_eq_of_find?_eq leftFormed rightFormed same, lines]

/-- Help on a command goes by its lookup alone. -/
theorem commandHelp_eq_of_find?_eq
    {category name : String}
    (same : left.find? category name = right.find? category name) :
    left.commandHelp category name = right.commandHelp category name := by
  rw [commandHelp, commandHelp, same]

/-! ## Execution -/

/-- The answer of a command that was found. -/
def answer
    (category name : String)
    (command : Command)
    (arguments : List String) :
    Command.Reply :=
  match checkArity command.metadata arguments with
  | .error fault => .of (.error fault)
  | .ok () =>
      let reply := command.run arguments
      { reply with events := executing category name arguments :: reply.events }

/-- A call of a command that is found is answered by it. -/
theorem execute_of_find?
    {registry : Registry}
    {category name : String}
    {command : Command}
    (found : registry.find? category name = some command)
    (arguments : List String) :
    registry.execute category name arguments = answer category name command arguments := by
  obtain ⟨commands, known, same⟩ := Option.bind_eq_some_iff.mp found
  rw [execute, known]
  dsimp only
  rw [same]
  rfl

/-- A command that is not found is said to be unknown, or its category if that has no commands. -/
theorem execute_of_find?_eq_none
    {registry : Registry}
    {category name : String}
    (missing : registry.find? category name = none)
    (arguments : List String) :
    registry.execute category name arguments =
      .of (.error (if (registry.categories.find? category).isSome
        then unknownCommand category name else unknownCategory category)) := by
  rw [execute]
  cases known : registry.categories.find? category with
  | none => rfl
  | some commands =>
      rw [find?, known, Option.bind_some] at missing
      dsimp only
      rw [missing]
      rfl

/-- A wrong number of arguments is not taken for an unknown command. -/
theorem checkArity_ne_notFound
    (metadata : Command.Metadata)
    (arguments : List String)
    (details : String) :
    checkArity metadata arguments ≠ .error (.notFound details) := by
  rw [checkArity]
  split_ifs <;> simp

/-- A command that was found never answers like one that was not. -/
theorem answer_ne_notFound
    (category name : String)
    (command : Command)
    (arguments : List String)
    (details : String) :
    answer category name command arguments ≠ .of (.error (.notFound details)) := by
  rw [answer]
  cases checked : checkArity command.metadata arguments with
  | error fault =>
      have different := checkArity_ne_notFound command.metadata arguments details
      rw [checked] at different
      simpa [Command.Reply.of] using different
  | ok _ => simp [Command.Reply.of]

/-- A call goes by its lookup, and where that fails by whether the category is listed. -/
theorem execute_eq_of_find?_eq
    (leftFormed : left.WellFormed)
    (rightFormed : right.WellFormed)
    (same : ∀ category name, left.find? category name = right.find? category name)
    (category name : String)
    (arguments : List String) :
    left.execute category name arguments = right.execute category name arguments := by
  cases found : left.find? category name with
  | some command =>
      rw [execute_of_find? found, execute_of_find? ((same category name).symm.trans found)]
  | none =>
      have known : (left.categories.find? category).isSome =
          (right.categories.find? category).isSome := by
        rw [Bool.eq_iff_iff, leftFormed.find?_category_isSome_iff,
          rightFormed.find?_category_isSome_iff]
        simp only [same]
      rw [execute_of_find?_eq_none found,
        execute_of_find?_eq_none ((same category name).symm.trans found), known]

end Registry
end PathVersions
