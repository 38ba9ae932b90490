import Mathlib.Data.List.Induction
import PathVersions.Proofs.Command.Registry
import PathVersions.Proofs.Utf8.Order

/-!
# Registries built by registrations

A registry is built by registering commands one after another, while its tables may hold their
entries in any order at any time. Under every pair of a category and a name the command that was
registered last is found, so that nothing a registry shows depends on the order of its tables or on
the order of registrations under different pairs.
-/

namespace PathVersions
namespace Registry

/-- A command that is registered in a category. -/
structure Registration where
  category : String
  command : Command

/-- The category and the name under which a command is registered. -/
def Registration.pair (registration : Registration) : String × String :=
  (registration.category, registration.command.metadata.name)

/-- Two registries whose tables hold the same entries, in whatever order. -/
def SameEntries (left right : Registry) : Prop :=
  ∃ categories, left.categories.Perm categories ∧
    List.Forall₂ (fun own other => own.1 = other.1 ∧ List.Perm own.2 other.2) categories
      right.categories

/-- The registries that registrations one after another lead to from the empty one. After each of
them the tables may hold their entries in another order. -/
inductive Reached : List Registration -> Registry -> Prop
  | empty : Reached [] Registry.empty
  | register
      {registrations : List Registration}
      {registry other : Registry}
      (registration : Registration) :
      Reached registrations registry ->
      SameEntries (registry.register registration.category registration.command) other ->
      Reached (registrations ++ [registration]) other

/-- The registry that registrations one after another lead to from the empty one, with tables in the
order in which their names came up first. -/
def build (registrations : List Registration) : Registry :=
  registrations.foldl
    (fun registry registration => registry.register registration.category registration.command)
    Registry.empty

/-- The order of texts by their bytes. -/
def BytesLt (left right : String) : Prop :=
  (RawText.ofString left).bytes < (RawText.ofString right).bytes

/-- All pairs of a category and a name in a list of commands. -/
def pairs (list : List (String × List String)) : List (String × String) :=
  list.flatMap fun (category, names) => names.map fun name => (category, name)

/-- A list of commands in which the categories are strictly increasing, and the names in each of
them as well, with no empty category and every pair once. -/
structure Ordered (list : List (String × List String)) : Prop where
  categories : (list.map (·.1)).Pairwise BytesLt
  names : ∀ entry ∈ list, entry.2.Pairwise BytesLt
  nonempty : ∀ entry ∈ list, entry.2 ≠ []
  once : (pairs list).Nodup

/-- Running a command fails because it is not known, or its category is not. -/
def FailsAtLookup
    (registry : Registry)
    (category name : String)
    (arguments : List String) : Prop :=
  ∃ details, registry.execute category name arguments = .of (.error (.notFound details))

/-- Two registries that nothing they show or answer tells apart. -/
structure Alike (left right : Registry) : Prop where
  list : left.list = right.list
  helpText : left.helpText = right.helpText
  commandHelp (category name : String) :
    left.commandHelp category name = right.commandHelp category name
  execute (category name : String) (arguments : List String) :
    left.execute category name arguments = right.execute category name arguments

/-! ## The order of tables -/

theorem SameEntries.refl (registry : Registry) : SameEntries registry registry :=
  ⟨registry.categories, List.Perm.refl _, List.forall₂_same.mpr fun _ _ => ⟨rfl, List.Perm.refl _⟩⟩

section

variable
  {own other : NameMap (NameMap Command)}
  (alike : List.Forall₂ (fun own other => own.1 = other.1 ∧ List.Perm own.2 other.2) own other)

include alike

theorem names_eq_of_forall₂ : NameMap.names own = NameMap.names other := by
  induction alike with
  | nil => rfl
  | cons same _ inductionHypothesis =>
      rw [NameMap.names_cons, NameMap.names_cons, same.1, inductionHypothesis]

/-- Tables that agree category by category have the same categories. -/
theorem exists_mem_of_forall₂
    {category : String}
    {commands : NameMap Command}
    (member : (category, commands) ∈ other) :
    ∃ others, (category, others) ∈ own ∧ List.Perm others commands := by
  induction alike with
  | nil => cases member
  | @cons first second rest others same _ inductionHypothesis =>
      obtain rfl | deeper := List.mem_cons.mp member
      · refine ⟨first.2, ?_, same.2⟩
        rw [← show first.1 = category from same.1]
        exact List.mem_cons_self
      · obtain ⟨found, known, perm⟩ := inductionHypothesis deeper
        exact ⟨found, List.mem_cons_of_mem _ known, perm⟩

end

section

variable {left right : Registry} (same : SameEntries left right)

include same

/-- The same categories in another order. -/
theorem SameEntries.names_perm :
    (NameMap.names left.categories).Perm (NameMap.names right.categories) := by
  obtain ⟨categories, reordered, alike⟩ := same
  rw [← names_eq_of_forall₂ alike]
  exact reordered.map Prod.fst

/-- Each category is there with the same commands in another order. -/
theorem SameEntries.exists_mem
    {category : String}
    {commands : NameMap Command}
    (member : (category, commands) ∈ right.categories) :
    ∃ others, (category, others) ∈ left.categories ∧ List.Perm others commands := by
  obtain ⟨categories, reordered, alike⟩ := same
  obtain ⟨others, known, perm⟩ := exists_mem_of_forall₂ alike member
  exact ⟨others, reordered.mem_iff.mpr known, perm⟩

/-- Another order of the tables keeps a registry well formed. -/
theorem SameEntries.wellFormed (wellFormed : left.WellFormed) : right.WellFormed where
  distinct := same.names_perm.nodup_iff.mp wellFormed.distinct
  namesDistinct entry member := by
    obtain ⟨others, known, perm⟩ := same.exists_mem member
    exact (perm.map Prod.fst).nodup_iff.mp (wellFormed.namesDistinct _ known)
  nonempty entry member nothing := by
    obtain ⟨others, known, perm⟩ := same.exists_mem member
    rw [nothing, List.perm_nil] at perm
    exact wellFormed.nonempty _ known perm

/-- The order of the tables does not show in a lookup. -/
theorem SameEntries.find?_eq
    (wellFormed : left.WellFormed)
    (category name : String) :
    right.find? category name = left.find? category name := by
  cases found : right.categories.find? category with
  | none =>
      have missing : left.categories.find? category = none := by
        rw [NameMap.find?_eq_none_iff] at found ⊢
        rwa [same.names_perm.mem_iff]
      rw [find?, find?, found, missing]
  | some commands =>
      have member := NameMap.mem_of_find? found
      obtain ⟨others, known, perm⟩ := same.exists_mem member
      rw [(same.wellFormed wellFormed).find?_of_mem member, wellFormed.find?_of_mem known,
        (wellFormed.namesDistinct _ known).find?_perm perm]

end

/-! ## Registrations -/

/-- The command that was registered last under a pair of a category and a name. -/
def lastUnder (registrations : List Registration) (pair : String × String) : Option Command :=
  (registrations.filter (·.pair == pair)).getLast?.map (·.command)

/-- The registration that comes last is the one that counts. -/
theorem lastUnder_append
    (registrations : List Registration)
    (registration : Registration)
    (pair : String × String) :
    lastUnder (registrations ++ [registration]) pair =
      if registration.pair = pair then some registration.command
      else lastUnder registrations pair := by
  rw [lastUnder, List.filter_append]
  split_ifs with same
  · simp [same]
  · simp [same, lastUnder]

/-- Nothing is found under a pair exactly if it was never registered. -/
theorem lastUnder_eq_none_iff (registrations : List Registration) (pair : String × String) :
    lastUnder registrations pair = none ↔ pair ∉ registrations.map Registration.pair := by
  simp [lastUnder]

/-- What is found was registered. -/
theorem exists_mem_of_lastUnder
    {registrations : List Registration}
    {pair : String × String}
    {command : Command}
    (last : lastUnder registrations pair = some command) :
    ∃ registration ∈ registrations,
      registration.pair = pair ∧ registration.command = command := by
  obtain ⟨registration, final, same⟩ := Option.map_eq_some_iff.mp last
  obtain ⟨member, under⟩ := List.mem_filter.mp (List.mem_of_getLast? final)
  exact ⟨registration, member, eq_of_beq under, same⟩

/-- Registrations one after another reach a registry. -/
theorem reached_build (registrations : List Registration) :
    Reached registrations (build registrations) := by
  induction registrations using List.reverseRec with
  | nil => exact .empty
  | append_singleton before registration inductionHypothesis =>
      rw [build, List.foldl_append]
      exact .register registration inductionHypothesis (SameEntries.refl _)

/-- In every registry that is reached, the command is found that was registered last. -/
theorem Reached.found
    {registrations : List Registration}
    {registry : Registry}
    (reached : Reached registrations registry) :
    registry.WellFormed ∧
      ∀ category name, registry.find? category name = lastUnder registrations (category, name) := by
  -- Only because no name stands twice in a table is what is found independent of its order, so both
  -- parts go through the induction together.
  induction reached with
  | empty => exact ⟨wellFormed_empty, fun _ _ => rfl⟩
  | @register registrations before after registration _ same inductionHypothesis =>
      obtain ⟨wellFormed, found⟩ := inductionHypothesis
      have registered := wellFormed.register registration.category registration.command
      refine ⟨same.wellFormed registered, fun category name => ?_⟩
      rw [same.find?_eq registered, find?_register, found, lastUnder_append]
      rfl

/-- Commands are found under their own names. -/
theorem Reached.name_eq_of_find?
    {registrations : List Registration}
    {registry : Registry}
    (reached : Reached registrations registry)
    {category name : String}
    {command : Command}
    (found : registry.find? category name = some command) :
    command.metadata.name = name := by
  rw [reached.found.2] at found
  obtain ⟨registration, _, under, rfl⟩ := exists_mem_of_lastUnder found
  exact (Prod.mk.inj under).2

/-! ## What is shown -/

theorem mem_pairs_iff (list : List (String × List String)) (category name : String) :
    (category, name) ∈ pairs list ↔ ∃ names, (category, names) ∈ list ∧ name ∈ names := by
  simp [pairs]

/-- There is help on a command exactly if it is found. -/
theorem commandHelp_eq_ok_iff (registry : Registry) (category name : String) :
    (∃ text, registry.commandHelp category name = .ok text) ↔
      registry.find? category name ≠ none := by
  rw [commandHelp]
  cases registry.find? category name <;> simp

/-- A call fails at its lookup exactly if no command is found. -/
theorem failsAtLookup_iff
    (registry : Registry)
    (category name : String)
    (arguments : List String) :
    registry.FailsAtLookup category name arguments ↔ registry.find? category name = none := by
  rw [FailsAtLookup]
  cases found : registry.find? category name with
  | none =>
      rw [execute_of_find?_eq_none found]
      refine ⟨fun _ => rfl, fun _ => ?_⟩
      split
      · exact ⟨_, rfl⟩
      · exact ⟨_, rfl⟩
  | some command =>
      rw [execute_of_find? found]
      simp [answer_ne_notFound]

/-- Texts ascend by their bytes exactly if they ascend by their characters. -/
theorem pairwise_bytesLt_iff (texts : List String) : texts.Pairwise BytesLt ↔ texts.SortedLT := by
  rw [List.sortedLT_iff_pairwise]
  exact ⟨List.Pairwise.imp (RawText.bytes_ofString_lt_iff _ _).mp,
    List.Pairwise.imp (RawText.bytes_ofString_lt_iff _ _).mpr⟩

/-- The commands of a listed category are there, and in order. -/
theorem WellFormed.names_of_mem_list
    {registry : Registry}
    (wellFormed : registry.WellFormed)
    {entry : String × List String}
    (listed : entry ∈ registry.list) :
    entry.2.SortedLT ∧ entry.2 ≠ [] := by
  obtain ⟨commands, member, sorted⟩ := (mem_list_iff registry entry.1 entry.2).mp listed
  rw [← sorted]
  refine ⟨sortedLT_sortNames (wellFormed.namesDistinct _ member), fun nothing => ?_⟩
  have same := List.mergeSort_perm (NameMap.names commands) fun left right => left ≤ right
  rw [← sortNames, nothing, List.nil_perm] at same
  exact wellFormed.nonempty _ member (List.map_eq_nil_iff.mp same)

/-- Categories and commands are listed in the order of their bytes. -/
theorem WellFormed.ordered_list
    {registry : Registry}
    (wellFormed : registry.WellFormed) :
    Ordered registry.list where
  categories := by
    rw [pairwise_bytesLt_iff, List.sortedLT_iff_pairwise, List.pairwise_map]
    exact wellFormed.pairwise_list
  names entry listed := (pairwise_bytesLt_iff entry.2).mpr (wellFormed.names_of_mem_list listed).1
  nonempty entry listed := (wellFormed.names_of_mem_list listed).2
  once := by
    rw [pairs, List.nodup_flatMap]
    refine ⟨fun entry listed => ?_, wellFormed.pairwise_list.imp fun {left right} before => ?_⟩
    · exact (wellFormed.names_of_mem_list listed).1.nodup.map fun _ _ same => (Prod.mk.inj same).2
    · intro pair inLeft inRight
      obtain ⟨_, _, rfl⟩ := List.mem_map.mp inLeft
      obtain ⟨_, _, same⟩ := List.mem_map.mp inRight
      exact before.ne (Prod.mk.inj same).1.symm

/-- Registries in which the same is found cannot be told apart, not even by what they list. -/
theorem alike_of_find?_eq
    {left right : Registry}
    (leftFormed : left.WellFormed)
    (rightFormed : right.WellFormed)
    (same : ∀ category name, left.find? category name = right.find? category name) :
    Alike left right where
  list := list_eq_of_find?_eq leftFormed rightFormed same
  helpText := helpText_eq_of_find?_eq leftFormed rightFormed same
  commandHelp category name := commandHelp_eq_of_find?_eq (same category name)
  execute := execute_eq_of_find?_eq leftFormed rightFormed same

/-- After any registrations, with the tables in any order, exactly the registered pairs are listed,
in order, and they are those that have help and that do not fail when they are run. Registrations
that differ only in the order of different pairs lead to registries that nothing tells apart. -/
theorem Reached.listed_and_alike
    {registrations : List Registration}
    {registry : Registry}
    (reached : Reached registrations registry) :
    (∀ pair, pair ∈ pairs registry.list ↔ pair ∈ registrations.map Registration.pair) ∧
      Ordered registry.list ∧
      (∀ category name,
        ((category, name) ∈ pairs registry.list ↔
          ∃ text, registry.commandHelp category name = .ok text) ∧
        ∀ arguments, (category, name) ∈ pairs registry.list ↔
          ¬ registry.FailsAtLookup category name arguments) ∧
      ∀ others other, Reached others other ->
        (∀ pair, others.filter (·.pair == pair) = registrations.filter (·.pair == pair)) ->
        Alike other registry := by
  obtain ⟨wellFormed, found⟩ := reached.found
  have listed (category name : String) :
      (category, name) ∈ pairs registry.list ↔ registry.find? category name ≠ none := by
    rw [mem_pairs_iff, wellFormed.exists_mem_list_iff]
  refine ⟨?_, wellFormed.ordered_list, ?_, ?_⟩
  · rintro ⟨category, name⟩
    rw [listed, found, Ne, lastUnder_eq_none_iff, not_not]
  · intro category name
    refine ⟨?_, fun arguments => ?_⟩
    · rw [listed, commandHelp_eq_ok_iff]
    · rw [listed, failsAtLookup_iff]
  · intro others other otherReached rearranged
    obtain ⟨otherFormed, otherFound⟩ := otherReached.found
    refine alike_of_find?_eq otherFormed wellFormed fun category name => ?_
    rw [otherFound, found, lastUnder, lastUnder, rearranged]

theorem Reached.listed_and_alike_at_replaced_command :
    let printing (text : String) : Command :=
      ⟨⟨"print", "Print a text", [], [], "one"⟩, fun _ => .of (.ok text)⟩
    let registrations : List Registration :=
      [⟨"two", printing "old"⟩, ⟨"one", printing "old"⟩, ⟨"two", printing "new"⟩]
    let others : List Registration :=
      [⟨"one", printing "old"⟩, ⟨"two", printing "old"⟩, ⟨"two", printing "new"⟩]
    let registry : Registry :=
      ⟨[("one", [("print", printing "old")]), ("two", [("print", printing "new")])]⟩
    Reached registrations registry ∧
      (∀ pair, others.filter (·.pair == pair) = registrations.filter (·.pair == pair)) ∧
      ("two", "print") ∈ pairs registry.list ∧
      Ordered registry.list ∧
      Alike (build others) registry := by
  intro printing registrations others registry
  have reached : Reached registrations registry :=
    .register ⟨"two", printing "new"⟩
      (reached_build [⟨"two", printing "old"⟩, ⟨"one", printing "old"⟩])
      ⟨_, List.Perm.swap _ _ [], List.forall₂_same.mpr fun _ _ => ⟨rfl, List.Perm.refl _⟩⟩
  have rearranged (pair : String × String) :
      others.filter (·.pair == pair) = registrations.filter (·.pair == pair) := by
    by_cases first : pair.1 = "one"
    · simp [others, registrations, Registration.pair, List.filter_cons, Prod.ext_iff, first]
    · simp [others, registrations, Registration.pair, List.filter_cons, Prod.ext_iff,
        Ne.symm first]
  obtain ⟨listed, ordered, _, alike⟩ := reached.listed_and_alike
  refine ⟨reached, rearranged, (listed _).mpr ?_, ordered, ?_⟩
  · decide
  · exact alike others (build others) (reached_build others) rearranged

end Registry
end PathVersions
