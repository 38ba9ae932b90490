import PathVersions.Cli.Arguments
import PathVersions.Proofs.Utf8.RawText

/-!
# Positions among the arguments of a run

A text that does not look like an option is a position, and from the third position on, or after two
dashes alone, every text is one, whatever it looks like. So the category, the command and the
arguments of the command reach it as they were given, behind a configuration file or without one.
-/

namespace PathVersions
namespace Cli

/-- An argument looks like an option if it is a dash with something after it. -/
def LooksLikeOption (argument : RawText) : Prop :=
  ∃ second rest, argument.bytes = dash :: second :: rest

/-- The arguments that choose a configuration file. -/
def fileOption (file? : Option RawText) : List RawText :=
  match file? with
  | none => []
  | some file => [.ofString "--config", file]

/-- Two dashes alone. -/
def separator : RawText := .ofString "--"

/-- What positions behind a configuration file ask for. -/
def Invocation.ofPositions (file? : Option RawText) (positions : List String) : Invocation where
  configFile? := file?
  category? := positions[0]?
  command? := positions[1]?
  arguments := positions.drop 2

/-! ## Texts -/

/-- Only a dash is encoded with the byte of a dash in front. -/
theorem eq_dash_of_encode
    {c : Char}
    {rest more : List UInt8}
    (first : String.utf8EncodeChar c ++ rest = dash :: more) :
    c = '-' := by
  -- Decoding reads a dash at the front as a character of its own.
  have pieces := RawText.piecesFrom_encode c rest
  rw [first, RawText.piecesFrom] at pieces
  injection pieces with piece _
  injection piece with same
  exact same.symm

/-- A text that begins with no dash does not look like an option. -/
theorem not_looksLikeOption_ofString {text : String} (begins : text.toList.head? ≠ some '-') :
    ¬LooksLikeOption (.ofString text) := by
  rintro ⟨second, rest, bytes⟩
  rw [RawText.ofString] at bytes
  cases chars : text.toList with
  | nil => simp [chars] at bytes
  | cons c others =>
      rw [chars, List.flatMap_cons] at bytes
      rw [chars, eq_dash_of_encode bytes] at begins
      exact begins rfl

variable {argument : RawText}

/-- What does not look like an option is a value. -/
theorem readArgument_of_not_looksLikeOption
    (plain : ¬LooksLikeOption argument)
    (progress : Progress) :
    readArgument progress argument = Step.more <$> progress.takeValue argument := by
  rw [readArgument]
  split
  · rename_i first second rest bytes
    rw [if_neg]
    rintro dashed
    rw [beq_iff_eq.mp dashed] at bytes
    exact plain ⟨second, rest, bytes⟩
  · rfl

/-- Two dashes alone look like an option. -/
theorem bytes_ne_separator (plain : ¬LooksLikeOption argument) :
    (argument.bytes == [dash, dash]) = false := by
  rw [beq_eq_false_iff_ne]
  intro bytes
  exact plain ⟨dash, [], bytes⟩

/-! ## Progress -/

namespace Progress

/-- What has been read, with what is pending, comes to a configuration file and some positions. -/
def Holds (progress : Progress) (file? : Option RawText) (positions : List String) : Prop :=
  progress.settle = .ok ⟨file?, positions, .nothing, positions.length⟩

/-- One position is pending after those that have been taken in. -/
def withPending
    (file? : Option RawText)
    (positions : List String)
    (text : String) :
    Progress :=
  ⟨file?, positions, .position (.ofString text), positions.length + 1⟩

variable {progress : Progress} {file? : Option RawText} {positions : List String}

theorem holds_start : start.Holds none [] := rfl

/-- A pending text is taken in after all others. -/
theorem holds_withPending (file? : Option RawText) (positions : List String) (text : String) :
    (withPending file? positions text).Holds file? (positions ++ [text]) := by
  rw [Holds, settle, withPending]
  dsimp only
  rw [(RawText.text?_eq_some_iff _ text).mpr rfl, List.length_append, List.length_singleton]

theorem met_of_chooseFile
    {file : RawText}
    {chosen : Progress}
    (taken : progress.chooseFile file = .ok chosen) :
    chosen.met = progress.met := by
  rw [chooseFile] at taken
  split_ifs at taken
  cases taken
  rfl

/-- What is pending counts as met before it is taken in. -/
theorem met_of_settle {settled : Progress} (taken : progress.settle = .ok settled) :
    settled.met = progress.met := by
  rw [settle] at taken
  split at taken
  · cases taken
    rfl
  · contradiction
  · exact met_of_chooseFile taken
  · split at taken
    · contradiction
    · cases taken
      rfl

/-- As many positions have been met as there are. -/
theorem Holds.met (holds : progress.Holds file? positions) : progress.met = positions.length :=
  (met_of_settle holds).symm

/-- A further text waits for what follows it. -/
theorem Holds.takeValue
    (holds : progress.Holds file? positions)
    (text : String) :
    progress.takeValue (.ofString text) = .ok (withPending file? positions text) := by
  have idle : progress.waiting = false := by
    rw [waiting, beq_eq_false_iff_ne]
    intro pending
    rw [Holds, settle, pending] at holds
    contradiction
  rw [Progress.takeValue, idle, if_neg Bool.false_ne_true, holds]
  rfl

/-- At the end of the arguments the positions are what is asked for. -/
theorem Holds.finish (holds : progress.Holds file? positions) :
    progress.finish = .ok (.run (.ofPositions file? positions)) := by
  rw [Progress.finish, holds]
  rfl

end Progress

/-! ## Reading -/

open Progress

variable {progress : Progress} {file? : Option RawText} {positions : List String}

/-- After two dashes every text is a position. -/
theorem readPositions_of_holds
    (holds : progress.Holds file? positions)
    (texts : List String) :
    readPositions progress (texts.map .ofString) =
      .ok (.run (.ofPositions file? (positions ++ texts))) := by
  induction texts generalizing progress positions with
  | nil => rw [List.map_nil, readPositions, holds.finish, List.append_nil]
  | cons text texts inductionHypothesis =>
      rw [List.map_cons, readPositions, holds]
      have rest := inductionHypothesis (holds_withPending file? positions text)
      rw [List.append_assoc, List.singleton_append] at rest
      exact rest

/-- From the third position on every text is a position. -/
theorem readFrom_eq_readPositions
    (many : 3 ≤ progress.met)
    (arguments : List RawText) :
    readFrom progress arguments = readPositions progress arguments := by
  cases arguments with
  | nil => rfl
  | cons argument rest => rw [readFrom, if_pos many]

/-- Two dashes turn all that follows into positions. -/
theorem readFrom_separator
    (few : progress.met < 3)
    (arguments : List RawText) :
    readFrom progress (separator :: arguments) = readPositions progress arguments := by
  rw [readFrom, if_neg (Nat.not_le.mpr few), if_pos (by decide)]

/-- A text that does not look like an option is the next position. -/
theorem readFrom_of_value
    (holds : progress.Holds file? positions)
    (few : positions.length < 3)
    {text : String}
    (plain : ¬LooksLikeOption (.ofString text))
    (rest : List RawText) :
    readFrom progress (.ofString text :: rest) =
      readFrom (withPending file? positions text) rest := by
  rw [readFrom, holds.met, if_neg (Nat.not_le.mpr few), bytes_ne_separator plain,
    if_neg Bool.false_ne_true, readArgument_of_not_looksLikeOption plain, holds.takeValue]
  rfl

/-- The first texts are positions if they do not look like options. -/
theorem exists_readFrom_of_values
    (holds : progress.Holds file? positions)
    (texts : List String)
    (few : positions.length + texts.length ≤ 3)
    (plain : ∀ text ∈ texts, ¬LooksLikeOption (.ofString text)) :
    ∃ next, Holds next file? (positions ++ texts) ∧
      ∀ rest, readFrom progress (texts.map .ofString ++ rest) = readFrom next rest := by
  induction texts generalizing progress positions with
  | nil => exact ⟨progress, by rwa [List.append_nil], fun _ => rfl⟩
  | cons text texts inductionHypothesis =>
      rw [List.length_cons] at few
      obtain ⟨next, held, read⟩ := inductionHypothesis (holds_withPending file? positions text)
        (by rw [List.length_append, List.length_singleton]; omega)
        fun other member => plain other (List.mem_cons_of_mem _ member)
      rw [List.append_assoc, List.singleton_append] at held
      refine ⟨next, held, fun rest => ?_⟩
      rw [List.map_cons, List.cons_append,
        readFrom_of_value holds (by omega) (plain text List.mem_cons_self), read]

/-! ## The configuration file -/

/-- A progress that waits for the value of the option for the configuration file. -/
def awaiting : Progress := ⟨none, [], .configFile none, 0⟩

theorem read_fileOption (file : RawText) (rest : List RawText) :
    Request.read (fileOption (some file) ++ rest) = readFrom awaiting (file :: rest) := rfl

/-- A configuration file with a name is taken in, whatever follows it. -/
theorem exists_readFrom_of_fileOption
    (plain : ∀ file ∈ file?, ¬LooksLikeOption file)
    (named : ∀ file ∈ file?, file.bytes ≠ []) :
    ∃ next, Holds next file? [] ∧
      ∀ rest, Request.read (fileOption file? ++ rest) = readFrom next rest := by
  cases file? with
  | none => exact ⟨.start, holds_start, fun _ => rfl⟩
  | some file =>
      refine ⟨⟨none, [], .configFile (some file), 0⟩, ?_, fun rest => ?_⟩
      · have nonempty : file.bytes.isEmpty = false := by
          rw [List.isEmpty_eq_false_iff]
          exact named file rfl
        rw [Holds, settle]
        dsimp only
        rw [chooseFile, nonempty]
        rfl
      · rw [read_fileOption, readFrom, if_neg (by decide), bytes_ne_separator (plain file rfl),
          if_neg Bool.false_ne_true, readArgument_of_not_looksLikeOption (plain file rfl)]
        rfl

variable {category command : String}

/-- Behind two dashes the arguments of a command reach it as they were given. -/
theorem read_separated
    (plain : ∀ file ∈ file?, ¬LooksLikeOption file)
    (named : ∀ file ∈ file?, file.bytes ≠ [])
    (words : ∀ word ∈ [category, command], ¬LooksLikeOption (.ofString word))
    (arguments : List String) :
    Request.read (fileOption file? ++ .ofString category :: .ofString command :: separator ::
        arguments.map .ofString) =
      .ok (.run ⟨file?, some category, some command, arguments⟩) := by
  obtain ⟨start, atStart, read⟩ := exists_readFrom_of_fileOption plain named
  obtain ⟨next, held, readWords⟩ :=
    exists_readFrom_of_values atStart [category, command] (Nat.le_succ 2) words
  have few : next.met < 3 := by
    rw [held.met]
    exact Nat.lt_succ_self 2
  rw [read]
  refine (readWords _).trans ?_
  rw [readFrom_separator few, readPositions_of_holds held]
  rfl

/-- Without the dashes the arguments of a command reach it as well, if the first of them does not
look like an option. -/
theorem read_direct
    (plain : ∀ file ∈ file?, ¬LooksLikeOption file)
    (named : ∀ file ∈ file?, file.bytes ≠ [])
    {first : String}
    (words : ∀ word ∈ [category, command, first], ¬LooksLikeOption (.ofString word))
    (others : List String) :
    Request.read (fileOption file? ++ .ofString category :: .ofString command :: .ofString first ::
        others.map .ofString) =
      .ok (.run ⟨file?, some category, some command, first :: others⟩) := by
  obtain ⟨start, atStart, read⟩ := exists_readFrom_of_fileOption plain named
  obtain ⟨next, held, readWords⟩ :=
    exists_readFrom_of_values atStart [category, command, first] (Nat.le_refl 3) words
  have many : 3 ≤ next.met := Nat.le_of_eq held.met.symm
  rw [read]
  refine (readWords _).trans ?_
  rw [readFrom_eq_readPositions many, readPositions_of_holds held]
  rfl

/-! ## Values that look like options -/

/-- An option in place of the configuration file is refused, whether or not there is such an option.
-/
theorem readArgument_awaiting {file : RawText} (looks : LooksLikeOption file) :
    ∃ fault, readArgument awaiting file = .error fault := by
  obtain ⟨second, rest, bytes⟩ := looks
  rw [readArgument, bytes]
  dsimp only
  rw [if_pos (beq_self_eq_true dash)]
  split_ifs
  · rw [readLong]
    split_ifs
    · exact ⟨_, rfl⟩
    · split
      · exact ⟨_, rfl⟩
      · exact ⟨_, rfl⟩
    · contradiction
    · exact ⟨_, rfl⟩
  · rw [readShort, if_neg (by simp [atArguments, awaiting]), readCluster.eq_def]
    dsimp only
    split_ifs
    · exact ⟨_, rfl⟩
    · cases rest with
      | nil => exact ⟨_, rfl⟩
      | cons next value => exact ⟨_, rfl⟩
    · exact ⟨_, rfl⟩

/-- Two dashes do not make a position of what the option waits for. -/
theorem readPositions_awaiting (arguments : List RawText) :
    readPositions awaiting arguments = .error .valueMissing := by
  cases arguments with
  | nil => rfl
  | cons argument rest => rfl

/-- A configuration file that looks like an option is not taken for one. -/
theorem read_of_looksLikeOption
    {file : RawText}
    (looks : LooksLikeOption file)
    (rest : List RawText) :
    ∃ fault, Request.read (fileOption (some file) ++ rest) = .error fault := by
  rw [read_fileOption, readFrom, if_neg (by decide)]
  split_ifs
  · exact ⟨_, readPositions_awaiting rest⟩
  · obtain ⟨fault, refused⟩ := readArgument_awaiting looks
    rw [refused]
    exact ⟨fault, rfl⟩

end Cli
end PathVersions
