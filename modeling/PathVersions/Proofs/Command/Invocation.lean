import PathVersions.Command.Service
import PathVersions.Proofs.Command.Execution

/-!
# The invocation in the help of a command

The help of a command begins with an invocation. Its category is the one that the command says it
belongs to, while the command runs under the category that it was registered in. Where the two are
not the same, the invocation is unknown or runs whatever was registered under it, so that the help
tells how to call a command exactly if the command stands under its own category as well.
-/

namespace PathVersions
namespace Registry

/-- A category and a name lead to a command if it runs on all arguments that it takes. -/
def Dispatches (registry : Registry) (category name : String) (command : Command) : Prop :=
  ∀ arguments, command.metadata.Takes arguments.length ->
    registry.RunsOn category name arguments command arguments

/-- What stands below the invocation in the help of a command. -/
def helpBody (metadata : Command.Metadata) : String :=
  String.intercalate "\n"
    (Style.description metadata.description ::
      (helpPart "Arguments" (metadata.parameters.map parameterLine) ++
        helpPart "Examples" (metadata.examples.map fun line => "  " ++ line)))

/-- The help of a command with an invocation above it. -/
def helpUnder (category name : String) (metadata : Command.Metadata) : String :=
  Style.header ("protopath " ++ category ++ " " ++ name) ++ "\n" ++ helpBody metadata

/-- The help of a command tells how to call it: some reading of the invocation in its header leads
to that command. -/
def TellsCall (registry : Registry) (category name : String) : Prop :=
  ∃ command own called,
    registry.find? category name = some command ∧
      registry.commandHelp category name = .ok (helpUnder own called command.metadata) ∧
      registry.Dispatches own called command

/-- All help that there is tells how to call its command. -/
def TellsCalls (registry : Registry) : Prop :=
  ∀ category name, (∃ text, registry.commandHelp category name = .ok text) ->
    registry.TellsCall category name

/-! ## Dispatch -/

/-- Every command takes as many arguments as it has parameters. -/
theorem takes_length_parameters (metadata : Command.Metadata) :
    metadata.Takes metadata.parameters.length :=
  ⟨List.countP_le_length, le_rfl⟩

theorem RunsOn.unique
    {registry : Registry}
    {category name : String}
    {first second : Command}
    {arguments given others : List String}
    (runsFirst : registry.RunsOn category name arguments first given)
    (runsSecond : registry.RunsOn category name arguments second others) :
    first = second := by
  classical
  -- Were they different, a behaviour could tell them apart.
  let behaviour : Behaviour := fun command _ =>
    .of (.ok (if command = first then "first" else "other"))
  have same := congrArg Command.Reply.result
    ((runsFirst behaviour).symm.trans (runsSecond behaviour))
  by_contra different
  simp [ran, behaviour, Command.Reply.of, Ne.symm different] at same

theorem dispatches_iff
    (registry : Registry)
    (category name : String)
    (command : Command) :
    registry.Dispatches category name command ↔
      registry.find? category name = some command := by
  refine ⟨fun dispatches => ?_, fun found arguments => runsOn_of_takes found⟩
  let arguments := List.replicate command.metadata.parameters.length ""
  have taken : command.metadata.Takes arguments.length := by
    rw [List.length_replicate]
    exact takes_length_parameters command.metadata
  have runs := dispatches arguments taken
  obtain ⟨other, found, accepted⟩ :=
    (registry.not_runsNothing_iff category name arguments).mp runs.not_runsNothing
  rw [found, (runsOn_of_takes found accepted).unique runs]

/-! ## The invocation -/

theorem helpOf_eq (metadata : Command.Metadata) :
    helpOf metadata = helpUnder metadata.category metadata.name metadata := by
  rw [helpOf, helpUnder, helpBody, ← String.intercalate_cons_cons]
  rfl

theorem commandHelp_of_find?
    {registry : Registry}
    {category name : String}
    {command : Command}
    (found : registry.find? category name = some command) :
    registry.commandHelp category name =
      .ok (helpUnder command.metadata.category command.metadata.name command.metadata) := by
  rw [commandHelp, found, ← helpOf_eq]

/-- Which category an invocation names is clear once its name is. -/
theorem category_eq_of_helpUnder_eq
    {first second name : String}
    {metadata : Command.Metadata}
    (same : helpUnder first name metadata = helpUnder second name metadata) :
    first = second := by
  simpa [helpUnder, Style.header, Style.apply, ← String.toList_inj] using same

section

variable
  {registrations : List Registration}
  {registry : Registry}
  (reached : Reached registrations registry)

include reached

/-- The help of a command tells how to call it exactly if it is found under its own category. -/
theorem Reached.tellsCall_iff_find?
    {category name : String}
    {command : Command}
    (found : registry.find? category name = some command) :
    registry.TellsCall category name ↔
      registry.find? command.metadata.category name = some command := by
  have named := reached.name_eq_of_find? found
  have help := commandHelp_of_find? found
  constructor
  · rintro ⟨other, own, called, otherFound, otherHelp, dispatches⟩
    obtain rfl : command = other := Option.some.inj (found.symm.trans otherFound)
    rw [dispatches_iff] at dispatches
    -- Whatever the invocation is read as, its name is that of the command it leads to.
    obtain rfl : command.metadata.name = called := reached.name_eq_of_find? dispatches
    have own : command.metadata.category = own :=
      category_eq_of_helpUnder_eq (Except.ok.inj (help.symm.trans otherHelp))
    rwa [own, ← named]
  · intro alsoFound
    rw [named] at help
    exact ⟨command, _, name, found, help, (dispatches_iff _ _ _ _).mpr alsoFound⟩

theorem Reached.tellsCalls_iff_find? :
    registry.TellsCalls ↔ ∀ category name command,
      registry.find? category name = some command ->
        registry.find? command.metadata.category name = some command := by
  constructor
  · intro tells category name command found
    have told := tells category name ⟨_, commandHelp_of_find? found⟩
    exact (reached.tellsCall_iff_find? found).mp told
  · intro own category name helped
    rw [commandHelp_eq_ok_iff, Option.ne_none_iff_exists'] at helped
    obtain ⟨command, found⟩ := helped
    exact (reached.tellsCall_iff_find? found).mpr (own category name command found)

/-- If every command is registered in the category that it says it belongs to, all help tells how to
call its command. -/
theorem Reached.tellsCalls_of_own_categories
    (own : ∀ registration ∈ registrations,
      registration.command.metadata.category = registration.category) :
    registry.TellsCalls := by
  refine reached.tellsCalls_iff_find?.mpr fun category name command found => ?_
  have last := (reached.found.2 category name).symm.trans found
  obtain ⟨registration, member, under, rfl⟩ := exists_mem_of_lastUnder last
  rwa [own registration member, (Prod.mk.inj under).1]

end

/-- The registrations of the built-in commands. -/
def builtins (context : Context) : List Registration :=
  [⟨Command.Paths.category, Command.Paths.strip context⟩,
   ⟨Command.Paths.category, Command.Paths.check context⟩,
   ⟨Command.Paths.category, Command.Paths.versioned context⟩,
   ⟨Command.Settings.category, Command.Settings.schema⟩,
   ⟨Command.Settings.category, Command.Settings.show context⟩]

theorem reached_withBuiltins (context : Context) :
    Reached (builtins context) (empty.withBuiltins context) := reached_build _

/-- The help of all built-in commands tells how to call them. -/
theorem tellsCalls_withBuiltins (context : Context) : (empty.withBuiltins context).TellsCalls := by
  refine (reached_withBuiltins context).tellsCalls_of_own_categories fun registration member => ?_
  simp only [builtins, List.mem_cons, List.not_mem_nil, or_false] at member
  obtain rfl | rfl | rfl | rfl | rfl := member
  all_goals rfl

/-- After any registrations, the help of a command has the command's own category and its name in
the header. It tells how to call the command exactly if the command is also the one that was
registered last under that pair. Otherwise that pair is unknown, or it leads to another command. All
help tells how to call its command exactly if this holds of all commands, and in particular if each
is registered in its own category. -/
theorem Reached.tellsCalls_iff
    {registrations : List Registration}
    {registry : Registry}
    (reached : Reached registrations registry) :
    (∀ category name command, lastUnder registrations (category, name) = some command ->
      let own := command.metadata.category
      registry.commandHelp category name = .ok (helpUnder own name command.metadata) ∧
        (registry.TellsCall category name ↔
          lastUnder registrations (own, name) = some command) ∧
        (lastUnder registrations (own, name) = none ->
          ∀ arguments, registry.FailsAtLookup own name arguments) ∧
        ∀ other, lastUnder registrations (own, name) = some other ->
          registry.Dispatches own name other) ∧
      (registry.TellsCalls ↔ ∀ category name command,
        lastUnder registrations (category, name) = some command ->
          lastUnder registrations (command.metadata.category, name) = some command) ∧
      ((∀ registration ∈ registrations,
          registration.command.metadata.category = registration.category) ->
        registry.TellsCalls) := by
  have found := reached.found.2
  refine ⟨fun category name command last => ⟨?_, ?_, fun missing arguments => ?_,
    fun other under => ?_⟩, ?_, reached.tellsCalls_of_own_categories⟩
  · have known := (found category name).trans last
    rw [commandHelp_of_find? known, reached.name_eq_of_find? known]
  · rw [reached.tellsCall_iff_find? ((found category name).trans last), found]
  · rw [failsAtLookup_iff, found, missing]
  · rw [dispatches_iff, found, under]
  · simp only [reached.tellsCalls_iff_find?, found]

/-- A command that is registered in its own category and in another one. -/
theorem Reached.tellsCalls_iff_at_two_categories :
    let copy : Command :=
      ⟨⟨"copy", "Copy a file", [⟨"from", "Source", true⟩], [], "files"⟩, fun _ => .of (.ok "")⟩
    let registrations : List Registration := [⟨"files", copy⟩, ⟨"tools", copy⟩]
    let registry := build registrations
    Reached registrations registry ∧
      lastUnder registrations ("tools", "copy") = some copy ∧
      lastUnder registrations ("files", "copy") = some copy ∧
      registry.commandHelp "tools" "copy" = .ok (helpUnder "files" "copy" copy.metadata) ∧
      registry.TellsCall "tools" "copy" ∧
      registry.Dispatches "files" "copy" copy ∧
      registry.TellsCalls ∧
      (build [⟨"files", copy⟩]).TellsCalls := by
  intro copy registrations registry
  have reached : Reached registrations registry := reached_build registrations
  have inTools : lastUnder registrations ("tools", "copy") = some copy := by
    simp [lastUnder, registrations, Registration.pair, copy]
  have inFiles : lastUnder registrations ("files", "copy") = some copy := by
    simp [lastUnder, registrations, Registration.pair, copy]
  obtain ⟨each, all, _⟩ := reached.tellsCalls_iff
  obtain ⟨help, told, _, dispatches⟩ := each "tools" "copy" copy inTools
  refine ⟨reached, inTools, inFiles, help, told.mpr inFiles, dispatches copy inFiles,
    all.mpr fun category name command last => ?_, ?_⟩
  · obtain ⟨registration, member, under, rfl⟩ := exists_mem_of_lastUnder last
    simp only [registrations, List.mem_cons, List.not_mem_nil, or_false] at member
    obtain rfl | rfl := member
    all_goals rwa [← (Prod.mk.inj under).2]
  · exact (reached_build [⟨"files", copy⟩]).tellsCalls_iff.2.2 (by simp [copy])

/-- The help of a command that is only registered in another category than its own begins with an
invocation that is unknown. -/
theorem not_tellsCalls_of_other_category :
    let command : Command := ⟨⟨"cmd", "d", [], [], "other"⟩, fun _ => .of (.ok ":")⟩
    let registrations : List Registration := [⟨"cat", command⟩]
    let registry := build registrations
    Reached registrations registry ∧
      registry.commandHelp "cat" "cmd" =
        .ok "\x1b[1m\x1b[36mprotopath other cmd\x1b[0m\n\x1b[2md\x1b[0m" ∧
      registry.FailsAtLookup "other" "cmd" [] ∧
      (registry.execute "cat" "cmd" []).result = .ok ":" ∧
      ¬registry.TellsCall "cat" "cmd" ∧
      ¬registry.TellsCalls := by
  intro command registrations registry
  have reached : Reached registrations registry := reached_build registrations
  have found : registry.find? "cat" "cmd" = some command := rfl
  have missing : registry.find? "other" "cmd" = none := rfl
  have untold : ¬registry.TellsCall "cat" "cmd" := by
    rw [reached.tellsCall_iff_find? found, missing]
    exact nofun
  refine ⟨reached, by decide +kernel, (failsAtLookup_iff _ _ _ _).mpr missing, rfl, untold, fun tells => ?_⟩
  exact untold (tells "cat" "cmd" ⟨_, commandHelp_of_find? found⟩)

end Registry
end PathVersions
