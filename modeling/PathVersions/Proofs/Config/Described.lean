import PathVersions.Config.Decode
import PathVersions.Proofs.Toml.Keeping

/-!
# Documents that describe a configuration

A document describes a configuration if the settings of the latter are among its entries. Whatever
else it holds can only be at fault for a number without a value: it never leads to another
configuration.
-/

namespace PathVersions
namespace Config

open Toml

/-- A result, provided that all numbers have values. -/
def given {α : Type} (valued : Bool) (result : α) : Reading α :=
  if valued then .ok result else .error .malformed

/-- One reading after another needs all numbers in both to have values. -/
theorem given_bind
    {α β : Type}
    {next : α -> Reading β}
    {valued others : Bool}
    {result : α}
    {final : β}
    (goesOn : next result = given others final) :
    given valued result >>= next = given (valued && others) final := by
  cases valued
  · rfl
  · exact goesOn

/-- A reading without numbers asks for nothing more. -/
theorem given_map
    {α β : Type}
    {next : α -> Reading β}
    {result : α}
    {final : β}
    (valued : Bool)
    (ends : next result = .ok final) :
    given valued result >>= next = given valued final := by
  cases valued
  · rfl
  · exact ends

theorem ignore_eq_given (node : Node) : ignore node = given node.numbersHaveValues () := rfl

/-- All numbers in a table have values if those in each entry have. -/
theorem numbersHaveValues_eq_all (entries : Entries) :
    Node.numbersHaveValues.inEntries entries = entries.all (·.2.numbersHaveValues) := by
  induction entries with
  | nil => rfl
  | cons entry rest inductionHypothesis =>
      rw [Node.numbersHaveValues.inEntries, List.all_cons, inductionHypothesis]

theorem all_sorted (entries : Entries) (test : Key × Node -> Bool) :
    entries.sorted.all test = entries.all test :=
  (List.mergeSort_perm _ _).all_eq

theorem mem_sorted {entries : Entries} {entry : Key × Node} :
    entry ∈ entries.sorted ↔ entry ∈ entries :=
  List.mem_mergeSort

/-- A fold that passes over some parts and takes in others, each of which may hold a number without
a value. -/
theorem foldlM_given
    {α : Type}
    {step : α -> Key × Node -> Reading α}
    {settle : α -> Key × Node -> α}
    {entries : Entries}
    (steps : ∀ current, ∀ entry ∈ entries,
      step current entry = given entry.2.numbersHaveValues (settle current entry))
    (start : α) :
    entries.foldlM step start =
      given (entries.all (·.2.numbersHaveValues)) (entries.foldl settle start) := by
  induction entries generalizing start with
  | nil => rfl
  | cons entry rest inductionHypothesis =>
      rw [List.foldlM_cons, steps start entry (by simp)]
      exact given_bind (inductionHypothesis (fun current other member =>
        steps current other (by simp [member])) _)

/-! ## One setting -/

section Setting

variable {α : Type} {name : String} {read : Node -> Reading α}

/-- A setting after an entry, given what the entries of its name make of it. -/
def settle (name : String) (result setting : Option α) (entry : Key × Node) : Option α :=
  if entry.1.name == name then result else setting

/-- The same setting from several entries is that setting. -/
theorem foldl_settle (result start : Option α) (entries : Entries) :
    entries.foldl (settle name result) start =
      if entries.any (·.1.name == name) then result else start := by
  induction entries generalizing start with
  | nil => rfl
  | cons entry rest inductionHypothesis =>
      rw [List.foldl_cons, inductionHypothesis, settle, List.any_cons]
      cases entry.1.name == name
      · rfl
      · simp

/-- A setting on which all entries of its name agree is read from any of them. -/
theorem settingIn_eq_given
    {entries : Entries}
    {result : Option α}
    (agree : ∀ entry ∈ entries, entry.1.name = name ->
      some <$> read entry.2 = .ok result ∧ entry.2.numbersHaveValues = true) :
    settingIn name read entries =
      given (Node.numbersHaveValues.inEntries entries)
        (if entries.any (·.1.name == name) then result else none) := by
  have sameAny : entries.sorted.any (·.1.name == name) = entries.any (·.1.name == name) :=
    (List.mergeSort_perm _ _).any_eq
  rw [settingIn, @foldlM_given _ _ (settle name result), all_sorted, numbersHaveValues_eq_all,
    foldl_settle, sameAny]
  rintro setting ⟨key, node⟩ member
  unfold settle
  dsimp only
  by_cases named : key.name = name
  · obtain ⟨known, valued⟩ := agree (key, node) (mem_sorted.mp member) named
    dsimp only at known valued
    rw [if_pos (by simp [named]), if_pos (by simp [named]), known, valued]
    rfl
  · rw [if_neg (by simp [named]), if_neg (by simp [named]), ignore_eq_given]
    exact given_map _ rfl

/-- The setting of a value that says it. -/
theorem settingOf_said
    {content : String}
    {value : α}
    {node : Node}
    (expected : Expected)
    (known : ∀ span, read (.text span content) = .ok value)
    (said : node.Says content [name]) :
    settingOf expected name read node = given node.numbersHaveValues (some value) := by
  cases node with
  | table span origin entries =>
      obtain ⟨⟨entry, member, named⟩, all⟩ := said
      have present : entries.any (·.1.name == name) = true := by
        rw [List.any_eq_true]
        exact ⟨entry, member, by simpa using named⟩
      rw [settingOf, @settingIn_eq_given _ _ _ _ (some value), present, Node.numbersHaveValues]
      · rfl
      · rintro ⟨key, other⟩ present same
        have text := all (key, other) present same
        cases other with
        | text own shown =>
            cases text
            exact ⟨by rw [known]; rfl, rfl⟩
        | _ => exact text.elim
  | _ => exact said.elim

/-- Whether a value is a table without an entry of a name. -/
def Lacks (name : String) (node : Node) : Prop :=
  ∃ span origin entries, node = .table span origin entries ∧
    ∀ entry ∈ entries, entry.1.name ≠ name

/-- The setting of a table that lacks it. -/
theorem settingOf_lacks
    {node : Node}
    (expected : Expected)
    (lacks : Lacks name node) :
    settingOf expected name read node = given node.numbersHaveValues none := by
  obtain ⟨span, origin, entries, rfl, others⟩ := lacks
  rw [settingOf, @settingIn_eq_given _ _ _ _ none, ite_self, Node.numbersHaveValues]
  exact fun entry member same => absurd same (others entry member)

end Setting

/-! ## Whole configurations -/

/-- Entries among which are the settings of a configuration. -/
structure Described (config : Config) (entries : Entries) : Prop where
  general : entries.Holds "general" (Node.Says config.logLevel.name ["log_level"])
  versioning : entries.Holds "versioning" fun node =>
    match config.pattern? with
    | none => Lacks "pattern" node
    | some pattern => node.Says pattern ["pattern"]

/-- A configuration after a part of a document that describes another one. -/
def settlePart (config current : Config) (entry : Key × Node) : Config :=
  if entry.1.name == "general" then { current with logLevel := config.logLevel }
  else if entry.1.name == "versioning" then { current with pattern? := config.pattern? }
  else current

/-- Each part of a described document sets what the configuration has there. -/
theorem readPart_eq_given
    {config : Config}
    {entries : Entries}
    (described : Described config entries)
    (current : Config)
    {entry : Key × Node}
    (member : entry ∈ entries) :
    readPart current entry.1 entry.2 =
      given entry.2.numbersHaveValues (settlePart config current entry) := by
  obtain ⟨key, node⟩ := entry
  unfold readPart settlePart
  dsimp only
  split
  · rename_i general
    have said := described.general.all (key, node) member (by simpa using general)
    rw [@settingOf_said _ _ _ _ config.logLevel _ _
      (fun span => by simp [levelOf, levelOfName]) said]
    exact given_map _ rfl
  · split
    · rename_i versioning
      have all := described.versioning.all (key, node) member (by simpa using versioning)
      have setting : settingOf .versioningSettings "pattern" patternOf node =
          given node.numbersHaveValues config.pattern? := by
        cases known : config.pattern? with
        | none =>
            rw [known] at all
            exact settingOf_lacks _ all
        | some pattern =>
            rw [known] at all
            exact settingOf_said _ (fun span => rfl) all
      rw [setting]
      exact given_map _ rfl
    · rw [ignore_eq_given]
      exact given_map _ rfl

/-- All parts together set what they have, and leave the rest at the default. -/
theorem foldl_settlePart
    (config current : Config)
    (entries : Entries) :
    entries.foldl (settlePart config) current =
      ⟨if entries.any (·.1.name == "general") then config.logLevel else current.logLevel,
        if entries.any (·.1.name == "versioning") then config.pattern? else current.pattern?⟩ := by
  induction entries generalizing current with
  | nil => rfl
  | cons entry rest inductionHypothesis =>
      have any (name : String) : (entry :: rest).any (·.1.name == name) =
          (entry.1.name == name || rest.any (·.1.name == name)) := List.any_cons
      rw [List.foldl_cons, inductionHypothesis, settlePart, any, any]
      have apart : ¬((entry.1.name == "general") = true ∧ (entry.1.name == "versioning") = true) := by
        rw [beq_iff_eq, beq_iff_eq]
        rintro ⟨general, versioning⟩
        exact absurd (general.symm.trans versioning) (by decide)
      generalize rest.any (·.1.name == "general") = moreGeneral
      generalize rest.any (·.1.name == "versioning") = moreVersioning
      cases general : entry.1.name == "general" <;>
        cases versioning : entry.1.name == "versioning"
      · rfl
      · cases moreVersioning <;> rfl
      · cases moreGeneral <;> rfl
      · exact absurd ⟨general, versioning⟩ apart

/-- Whatever else a document holds, the configuration that it describes is the one that is read, if
any is. -/
theorem ofEntries_described
    {config : Config}
    {entries : Entries}
    (described : Described config entries) :
    ofEntries entries = given (Node.numbersHaveValues.inEntries entries) config := by
  have present {name : String} {property : Node -> Prop} (holds : entries.Holds name property) :
      entries.sorted.any (·.1.name == name) = true := by
    obtain ⟨entry, member, named⟩ := holds.found
    rw [List.any_eq_true]
    exact ⟨entry, mem_sorted.mpr member, by simpa using named⟩
  rw [ofEntries, @foldlM_given _ _ (settlePart config), all_sorted, numbersHaveValues_eq_all,
    foldl_settlePart, present described.general, present described.versioning]
  · rfl
  · exact fun current entry member => readPart_eq_given described current (mem_sorted.mp member)

end Config
end PathVersions
