import PathVersions.Cli.Program
import PathVersions.Proofs.Command.ValidConfigurations

/-!
# Outcomes of runs

A run whose arguments are accepted first loads its configuration, and only then looks at the command
that it is for. It fails for the one reason or for the other, says why, and prints nothing, or it
prints what the command answers.
-/

namespace PathVersions
namespace Cli

namespace Outcome

/-- A run succeeds with a text: it prints the text and a line end, or nothing if the text is
blank. -/
structure Prints (outcome : Outcome) (text : String) : Prop where
  status : outcome.status = 0
  blank : (∀ c ∈ text.toList, Unicode.isBlank c) -> outcome.output = ""
  visible : (∃ c ∈ text.toList, ¬Unicode.isBlank c) -> outcome.output = text ++ "\n"
  complaint : outcome.complaint? = none

end Outcome

namespace Invocation

variable
  {invocation other : Invocation}
  {environment : Environment}
  {probe : RawText -> Files.Probe}
  {config : Config}

/-- The configuration of a run has been loaded in one of the ways that there are. -/
theorem loaded_of_config (loaded : invocation.config environment probe = .ok config) :
    config.Loaded := by
  rw [Invocation.config] at loaded
  cases chosen : invocation.configFile? with
  | none =>
      rw [chosen] at loaded
      exact .fromEnvironment environment probe loaded
  | some path =>
      rw [chosen] at loaded
      exact .fromFile path (probe path) loaded

/-- A configuration that a run has loaded has a context, and the run does not fail in between. -/
theorem exists_context (loaded : invocation.config environment probe = .ok config) :
    ∃ context, Context.ofConfig config = .ok context :=
  Context.exists_ofConfig (loaded_of_config loaded).validate

section

variable
  (loaded : invocation.config environment probe = .ok config)
  {context : Context}
  (made : Context.ofConfig config = .ok context)

include loaded made

/-- A run prints what its command answers. -/
theorem run_prints
    {text : String}
    (answered : (invocation.reply context).result = .ok text) :
    (invocation.run environment probe).Prints text := by
  rw [Invocation.run, loaded]
  dsimp only
  rw [runWith, made]
  dsimp only
  rw [answered]
  refine ⟨rfl, fun blank => ?_, fun visible => ?_, rfl⟩
  · have empty : Unicode.allBlank text = true := by
      rw [Unicode.allBlank, List.all_eq_true]
      exact blank
    exact if_pos empty
  · have shown : ¬Unicode.allBlank text = true := by
      rw [Unicode.allBlank, List.all_eq_true]
      obtain ⟨c, member, seen⟩ := visible
      exact fun blank => seen (blank c member)
    exact if_neg shown

end

end Invocation

theorem run_of_accepted
    {arguments : List RawText}
    {invocation : Invocation}
    (accepted : Request.read arguments = .ok (.run invocation))
    (environment : Environment)
    (probe : RawText -> Files.Probe) :
    Cli.run arguments environment probe = invocation.run environment probe := by
  rw [Cli.run, accepted]

end Cli
end PathVersions
