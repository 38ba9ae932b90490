import PathVersions.Command.Paths
import PathVersions.Proofs.Command.Registrations

/-!
# Which command runs

To run the command of a name in a category, a registry looks it up, counts the arguments, and only
then lets it run. Whether a command runs, and which one on which arguments, shows in how the answer
depends on what commands do: change what all of them do, and the answer is what the new behaviour of
that one command says, or it stays the same if none of them runs.
-/

namespace PathVersions

/-- A command takes a number of arguments if there are enough for the parameters that are required,
and not more than there are parameters. -/
def Command.Metadata.Takes (metadata : Command.Metadata) (count : Nat) : Prop :=
  metadata.parameters.countP (·.required) ≤ count ∧ count ≤ metadata.parameters.length

namespace NameMap

/-- A table with all values changed. -/
def mapValues {α β : Type} (change : α -> β) (table : NameMap α) : NameMap β :=
  table.map fun (name, value) => (name, change value)

/-- Changing all values of a table changes the one that is found. -/
theorem find?_mapValues
    {α β : Type}
    (change : α -> β)
    (name : String)
    (table : NameMap α) :
    find? name (mapValues change table) = (find? name table).map change := by
  induction table with
  | nil => rfl
  | cons entry rest inductionHypothesis =>
      obtain ⟨other, value⟩ := entry
      rw [mapValues, List.map_cons, ← mapValues, find?_cons, find?_cons, inductionHypothesis]
      by_cases same : other = name
      · rw [if_pos same, if_pos same, Option.map_some]
      · rw [if_neg same, if_neg same]

end NameMap

namespace Registry

/-- What the commands of a registry do. -/
abbrev Behaviour : Type := Command -> List String -> Command.Reply

/-- A registry of the same commands, which do something else. -/
def behaving (behaviour : Behaviour) (registry : Registry) : Registry where
  categories := registry.categories.mapValues
    (NameMap.mapValues fun command => { command with run := behaviour command })

/-- What is answered when a command runs: its reply, with the event that it is about to run before
all others. -/
def ran
    (category name : String)
    (arguments : List String)
    (reply : Command.Reply) :
    Command.Reply where
  events := executing category name arguments :: reply.events
  result := reply.result

/-- The answer is made from the reply of one command to some arguments, whatever commands do. -/
def RunsOn
    (registry : Registry)
    (category name : String)
    (arguments : List String)
    (command : Command)
    (given : List String) : Prop :=
  ∀ behaviour : Behaviour, (registry.behaving behaviour).execute category name arguments =
    ran category name arguments (behaviour command given)

/-- The answer is the same, whatever commands do. -/
def RunsNothing (registry : Registry) (category name : String) (arguments : List String) : Prop :=
  ∀ behaviour : Behaviour, (registry.behaving behaviour).execute category name arguments =
    registry.execute category name arguments

/-! ## Counting arguments -/

/-- A number of arguments that a command takes is not objected to. -/
theorem checkArity_of_takes
    {metadata : Command.Metadata}
    {arguments : List String}
    (taken : metadata.Takes arguments.length) :
    checkArity metadata arguments = .ok () := by
  obtain ⟨enough, few⟩ := taken
  rw [List.countP_eq_length_filter] at enough
  rw [checkArity, if_neg (Nat.not_lt.mpr enough), if_neg (Nat.not_lt.mpr few)]

/-- A wrong number of arguments is refused with the bound that it misses. -/
theorem checkArity_of_not_takes
    {metadata : Command.Metadata}
    {arguments : List String}
    (refused : ¬metadata.Takes arguments.length) :
    ∃ bound, checkArity metadata arguments = .error (.invalidArguments
      ("Expected at " ++ bound ++ " arguments, got " ++ toString arguments.length)) := by
  rw [Command.Metadata.Takes, List.countP_eq_length_filter, not_and_or, not_le, not_le] at refused
  rw [checkArity]
  split_ifs with few many
  · refine ⟨"least " ++ toString (metadata.parameters.filter (·.required)).length, ?_⟩
    simp [← String.append_assoc]
  · refine ⟨"most " ++ toString metadata.parameters.length, ?_⟩
    simp [← String.append_assoc]
  · exact absurd refused (not_or.mpr ⟨few, many⟩)

/-- Such arguments are handed to the command. -/
theorem answer_of_takes
    (category name : String)
    {command : Command}
    {arguments : List String}
    (taken : command.metadata.Takes arguments.length) :
    answer category name command arguments =
      ran category name arguments (command.run arguments) := by
  rw [answer, checkArity_of_takes taken]
  rfl

/-! ## Changing what commands do -/

/-- Other behaviours do not change which command is found. -/
theorem find?_behaving
    (behaviour : Behaviour)
    (registry : Registry)
    (category name : String) :
    (registry.behaving behaviour).find? category name =
      (registry.find? category name).map fun command =>
        { command with run := behaviour command } := by
  rw [find?, find?, behaving, NameMap.find?_mapValues]
  cases registry.categories.find? category with
  | none => rfl
  | some commands => exact NameMap.find?_mapValues _ name commands

section

variable
  {registry : Registry}
  {category name : String}
  {command : Command}
  {arguments : List String}
  (found : registry.find? category name = some command)

include found

theorem find?_behaving_of_find? (behaviour : Behaviour) :
    (registry.behaving behaviour).find? category name =
      some { command with run := behaviour command } := by
  rw [find?_behaving, found, Option.map_some]

/-- A call with as many arguments as the command takes comes to what the command answers. -/
theorem execute_of_takes (taken : command.metadata.Takes arguments.length) :
    registry.execute category name arguments =
      ran category name arguments (command.run arguments) := by
  rw [execute_of_find? found, answer_of_takes category name taken]

/-- Such a call runs the command once, on just these arguments. -/
theorem runsOn_of_takes (taken : command.metadata.Takes arguments.length) :
    registry.RunsOn category name arguments command arguments := by
  intro behaviour
  exact execute_of_takes (find?_behaving_of_find? found behaviour) taken

/-- Any other call names the bound that is missed, and runs nothing. -/
theorem execute_of_not_takes (refused : ¬command.metadata.Takes arguments.length) :
    ∃ bound, registry.execute category name arguments = .of (.error (.invalidArguments
      ("Expected at " ++ bound ++ " arguments, got " ++ toString arguments.length))) := by
  obtain ⟨bound, checked⟩ := checkArity_of_not_takes refused
  refine ⟨bound, ?_⟩
  rw [execute_of_find? found, answer, checked]

/-- A refusal only depends on how commands are to be called. -/
theorem runsNothing_of_not_takes (refused : ¬command.metadata.Takes arguments.length) :
    registry.RunsNothing category name arguments := by
  intro behaviour
  obtain ⟨bound, checked⟩ := checkArity_of_not_takes refused
  rw [execute_of_find? (find?_behaving_of_find? found behaviour), execute_of_find? found, answer,
    answer, checked]

end

/-- A call of a command that is not found runs nothing. -/
theorem runsNothing_of_missing
    {registry : Registry}
    {category name : String}
    (missing : registry.find? category name = none)
    (arguments : List String) :
    registry.RunsNothing category name arguments := by
  intro behaviour
  have changed : (registry.behaving behaviour).find? category name = none := by
    rw [find?_behaving, missing, Option.map_none]
  rw [execute_of_find?_eq_none changed, execute_of_find?_eq_none missing, behaving,
    NameMap.find?_mapValues, Option.isSome_map]

/-- An answer that is made from the reply of a command is not the same whatever commands do. -/
theorem RunsOn.not_runsNothing
    {registry : Registry}
    {category name : String}
    {command : Command}
    {arguments given : List String}
    (runs : registry.RunsOn category name arguments command given) :
    ¬registry.RunsNothing category name arguments := by
  intro nothing
  -- Two behaviours with different results would have to give the same answer.
  have same (behaviour : Behaviour) : (registry.execute category name arguments).result =
      (behaviour command given).result := by
    rw [← nothing behaviour, runs behaviour, ran]
  have equal := (same fun _ _ => .of (.ok "")).symm.trans (same fun _ _ => .of (.ok "done"))
  simp [Command.Reply.of] at equal

/-- A call runs something exactly if a command is found that takes its arguments. -/
theorem not_runsNothing_iff
    (registry : Registry)
    (category name : String)
    (arguments : List String) :
    ¬registry.RunsNothing category name arguments ↔
      ∃ command, registry.find? category name = some command ∧
        command.metadata.Takes arguments.length := by
  constructor
  · intro something
    cases found : registry.find? category name with
    | none => exact absurd (runsNothing_of_missing found arguments) something
    | some command =>
        refine ⟨command, rfl, ?_⟩
        by_contra refused
        exact something (runsNothing_of_not_takes found refused)
  · rintro ⟨command, found, taken⟩
    exact (runsOn_of_takes found taken).not_runsNothing

/-! ## After registrations -/

/-- A category is known exactly if something was registered in it. -/
theorem Reached.isSome_category_iff
    {registrations : List Registration}
    {registry : Registry}
    (reached : Reached registrations registry)
    (category : String) :
    (registry.categories.find? category).isSome ↔
      category ∈ registrations.map (·.category) := by
  obtain ⟨wellFormed, found⟩ := reached.found
  rw [wellFormed.find?_category_isSome_iff]
  have registered (name : String) :
      (∃ command, registry.find? category name = some command) ↔
        (category, name) ∈ registrations.map Registration.pair := by
    rw [← Option.ne_none_iff_exists', found, Ne, lastUnder_eq_none_iff, not_not]
  simp only [registered, List.mem_map, Registration.pair, Prod.mk.injEq]
  constructor
  · rintro ⟨name, registration, member, same, _⟩
    exact ⟨registration, member, same⟩
  · rintro ⟨registration, member, same⟩
    exact ⟨registration.command.metadata.name, registration, member, same, rfl⟩

/-! ## The commands on paths -/

section

open Command

/-- A command on paths has a parameter for the path and answers every path. -/
theorem exists_answer_of_path_command
    {context : Context}
    {command : Command}
    (builtin : command ∈ [Paths.strip context, Paths.check context, Paths.versioned context]) :
    ∃ name description examples answer,
      command = Paths.command name description examples answer ∧
        ∀ path, ∃ output, (answer path).result = .ok output := by
  simp only [List.mem_cons, List.not_mem_nil, or_false] at builtin
  obtain rfl | rfl | rfl := builtin
  · exact ⟨_, _, _, _, rfl, fun path => ⟨_, rfl⟩⟩
  · exact ⟨_, _, _, _, rfl, fun path => ⟨_, rfl⟩⟩
  · exact ⟨_, _, _, _, rfl, fun path => ⟨_, rfl⟩⟩

/-- The complaint of a command on paths that it was called without one is never heard from a
registry. -/
theorem execute_ne_complaint
    {registry : Registry}
    {category name : String}
    {context : Context}
    {command : Command}
    (found : registry.find? category name = some command)
    (builtin : command ∈ [Paths.strip context, Paths.check context, Paths.versioned context])
    (arguments : List String) :
    ∃ complaint, (command.run []).result = .error complaint ∧
      (registry.execute category name arguments).result ≠ .error complaint := by
  obtain ⟨own, description, examples, answer, rfl, answered⟩ :=
    exists_answer_of_path_command builtin
  refine ⟨_, rfl, ?_⟩
  -- A registry refuses a missing path as well, but in other words.
  by_cases taken : (Paths.command own description examples answer).metadata.Takes arguments.length
  · obtain ⟨path, rfl⟩ := List.length_eq_one_iff.mp (le_antisymm taken.2 taken.1)
    obtain ⟨output, answers⟩ := answered path
    have replied : ((Paths.command own description examples answer).run [path]).result =
        .ok output :=
      answers
    rw [execute_of_takes found taken, ran, replied]
    simp
  · obtain ⟨bound, refused⟩ := execute_of_not_takes found taken
    rw [refused, Reply.of]
    simp [← String.toList_inj]

end

/-- After any registrations, a command runs exactly if one is registered under the name in the
category and takes as many arguments as there are. It is the one that was registered last, it gets
the arguments as they are, and its result is the answer. Otherwise the answer is about an unknown
category, an unknown command or the number of arguments, and no command on paths ever has to say
that its path is missing. -/
theorem Reached.runs_last_registered
    {registrations : List Registration}
    {registry : Registry}
    (reached : Reached registrations registry)
    (category name : String)
    (arguments : List String) :
    (¬registry.RunsNothing category name arguments ↔
      ∃ command, lastUnder registrations (category, name) = some command ∧
        command.metadata.Takes arguments.length) ∧
    (∀ command, lastUnder registrations (category, name) = some command ->
      (command.metadata.Takes arguments.length ->
        registry.RunsOn category name arguments command arguments ∧
          (registry.execute category name arguments).result = (command.run arguments).result) ∧
      (¬command.metadata.Takes arguments.length ->
        ∃ details, registry.execute category name arguments =
          .of (.error (.invalidArguments details))) ∧
      ∀ context, command ∈ [Command.Paths.strip context, Command.Paths.check context,
          Command.Paths.versioned context] ->
        ∃ complaint, (command.run []).result = .error complaint ∧
          (registry.execute category name arguments).result ≠ .error complaint) ∧
    ((category, name) ∉ registrations.map Registration.pair ->
      registry.execute category name arguments = .of (.error (.notFound
        (if category ∈ registrations.map (·.category)
          then "Failed to find command '" ++ name ++ "' in category '" ++ category ++ "'"
          else "Failed to find category '" ++ category ++ "'")))) := by
  have found := reached.found.2 category name
  refine ⟨?_, fun command last => ⟨fun taken => ⟨?_, ?_⟩, fun refused => ?_, ?_⟩, ?_⟩
  · rw [not_runsNothing_iff, found]
  · exact runsOn_of_takes (found.trans last) taken
  · rw [execute_of_takes (found.trans last) taken, ran]
  · obtain ⟨_, answered⟩ := execute_of_not_takes (found.trans last) refused
    exact ⟨_, answered⟩
  · intro context builtin
    exact execute_ne_complaint (found.trans last) builtin arguments
  · intro unregistered
    rw [← lastUnder_eq_none_iff, ← found] at unregistered
    rw [execute_of_find?_eq_none unregistered]
    simp only [reached.isSome_category_iff]
    split_ifs
    · rfl
    · rfl

theorem Reached.runs_last_registered_at_optional_parameter :
    let copy (text : String) : Command :=
      ⟨⟨"copy", "Copy a file", [⟨"from", "Source", true⟩, ⟨"to", "Target", false⟩], [], "files"⟩,
        fun arguments => .of (.ok (text ++ String.join arguments))⟩
    let strip : Command := Command.Paths.strip ⟨Config.default, .default⟩
    let registrations : List Registration :=
      [⟨"files", copy "old "⟩, ⟨"files", strip⟩, ⟨"files", copy "new "⟩]
    let registry := build registrations
    ¬registry.RunsNothing "files" "copy" ["a"] ∧
      registry.RunsOn "files" "copy" ["a"] (copy "new ") ["a"] ∧
      (registry.execute "files" "copy" ["a"]).result = .ok "new a" ∧
      (∃ details, registry.execute "files" "copy" ["a", "b", "c"] =
        .of (.error (.invalidArguments details))) ∧
      (∃ complaint, (strip.run []).result = .error complaint ∧
        (registry.execute "files" "strip" []).result ≠ .error complaint) ∧
      registry.execute "paths" "copy" ["a"] =
        .of (.error (.notFound "Failed to find category 'paths'")) := by
  intro copy strip registrations registry
  have reached : Reached registrations registry := reached_build registrations
  have last : lastUnder registrations ("files", "copy") = some (copy "new ") := by
    simp [lastUnder, registrations, Registration.pair, copy, strip, Command.Paths.strip,
      Command.Paths.command]
  have other : lastUnder registrations ("files", "strip") = some strip := by
    simp [lastUnder, registrations, Registration.pair, copy, strip, Command.Paths.strip,
      Command.Paths.command]
  obtain ⟨runs, ofLast, _⟩ := reached.runs_last_registered "files" "copy" ["a"]
  have taken : (copy "new ").metadata.Takes 1 := ⟨by decide, by decide⟩
  obtain ⟨runsOn, answered⟩ := (ofLast _ last).1 taken
  refine ⟨runs.mpr ⟨_, last, taken⟩, runsOn, answered.trans rfl, ?_, ?_, ?_⟩
  · exact ((reached.runs_last_registered "files" "copy" ["a", "b", "c"]).2.1 _ last).2.1
      fun many => absurd many.2 (by decide)
  · exact ((reached.runs_last_registered "files" "strip" []).2.1 _ other).2.2 _ List.mem_cons_self
  · refine ((reached.runs_last_registered "paths" "copy" ["a"]).2.2 ?_).trans ?_
    · simp [registrations, Registration.pair]
    · rw [if_neg (by simp [registrations])]
      rfl

end Registry
end PathVersions
