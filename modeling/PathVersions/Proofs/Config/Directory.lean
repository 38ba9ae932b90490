import PathVersions.Config.Load
import PathVersions.Proofs.Files.Paths
import PathVersions.Proofs.Utf8.RawText

/-!
# The directory of the configuration

An environment designates an absolute directory for the configuration: one in the directory of
configurations, or else in the home of the user. The first one is meant to be ignored unless it is
an absolute path in UTF-8, but any text is taken for it, and a home that is no text is not taken at
all. Apart from that the directory is the designated one, and what is loaded does not depend on the
working directory.
-/

namespace PathVersions
namespace Environment

open Files

/-- Whether the value of a variable is UTF-8. -/
def IsText (value : RawText) : Prop := (String.fromUTF8? value.bytes.toByteArray).isSome = true

/-- Whether the value of a variable is an absolute path in UTF-8. -/
def IsUsable (value : RawText) : Prop := IsText value ∧ IsAbsolute value

/-- Whether a directory is the one that an environment designates, given the home of the user. -/
structure Designates (environment : Environment) (home directory : RawText) : Prop where
  absolute : IsAbsolute directory
  inConfigHome : ∀ value, environment.configHome? = some value -> IsUsable value ->
    namesOf directory = namesOf value ++ [(RawText.ofString "protopath").bytes]
  inHome : (∀ value, environment.configHome? = some value -> ¬IsUsable value) ->
    namesOf directory = namesOf home ++
      [(RawText.ofString ".config").bytes, (RawText.ofString "protopath").bytes]

variable {environment : Environment} {home value : RawText}

/-! ## Values of variables -/

/-- A value is text exactly if it is the encoding of one. -/
theorem isText_iff : IsText value ↔ ∃ text, value = .ofString text := by
  rw [IsText, ← RawText.text?_eq_fromUTF8?, Option.isSome_iff_exists]
  simp only [RawText.text?_eq_some_iff]

/-- A variable is read as text if it is set to its encoding. -/
theorem text?_eq_some_iff {value? : Option RawText} {text : String} :
    text? value? = some text ↔ value? = some (.ofString text) := by
  rw [text?, Option.bind_eq_some_iff]
  simp only [RawText.text?_eq_some_iff]
  constructor
  · rintro ⟨_, known, rfl⟩
    exact known
  · intro known
    exact ⟨_, known, rfl⟩

/-- A variable is not read if it is missing or no text. -/
theorem text?_eq_none_iff {value? : Option RawText} :
    text? value? = none ↔ ∀ value, value? = some value -> ¬IsText value := by
  rw [Option.eq_none_iff_forall_ne_some]
  simp only [ne_eq, text?_eq_some_iff, isText_iff, not_exists]
  constructor
  · rintro none value known text rfl
    exact none text known
  · exact fun none text known => none _ known text rfl

/-! ## Directories -/

/-- The directory with a name in another one. -/
def within (base : RawText) : RawText := joinPaths base (.ofString "protopath")

theorem isAbsolute_within (base : RawText) : IsAbsolute (within base) ↔ IsAbsolute base :=
  isAbsolute_joinPaths (by decide)

/-- The directory of the program adds one name to the base. -/
theorem namesOf_within (base : RawText) :
    namesOf (within base) = namesOf base ++ [(RawText.ofString "protopath").bytes] :=
  namesOf_joinPaths (by decide)

/-- The directory of configurations in the home of the user. -/
def hidden (home : RawText) : RawText :=
  ⟨home.bytes ++ separator :: (RawText.ofString ".config").bytes⟩

/-- The directory for settings is made from the text of the home directory. -/
theorem ofString_hidden (home : String) :
    RawText.ofString (home ++ "/.config") = hidden (.ofString home) := by
  rw [hidden, RawText.ofString, RawText.ofString, String.toList_append, List.flatMap_append]
  rfl

theorem namesOf_hidden (home : RawText) :
    namesOf (hidden home) = namesOf home ++ [(RawText.ofString ".config").bytes] :=
  namesOf_append_separator home.bytes _

theorem isAbsolute_hidden (absolute : IsAbsolute home) : IsAbsolute (hidden home) := by
  have nonempty : home.bytes ≠ [] := by
    intro none
    simp [IsAbsolute, none] at absolute
  exact (isAbsolute_append nonempty).mpr absolute

/-- A directory for settings that is text is used, be it empty or relative. -/
theorem configDirectory_of_isText
    (known : environment.configHome? = some value)
    (decoded : IsText value) :
    environment.configDirectory? = some (within value) := by
  obtain ⟨text, rfl⟩ := isText_iff.mp decoded
  rw [configDirectory?, baseDirectory?, text?_eq_some_iff.mpr known]
  rfl

/-- Otherwise the home directory is used if it is text. -/
theorem configDirectory_of_home
    (unknown : ∀ value, environment.configHome? = some value -> ¬IsText value)
    (known : environment.home? = some home)
    (decoded : IsText home) :
    environment.configDirectory? = some (within (hidden home)) := by
  obtain ⟨text, rfl⟩ := isText_iff.mp decoded
  rw [configDirectory?, baseDirectory?, text?_eq_none_iff.mpr unknown,
    text?_eq_some_iff.mpr known, ← ofString_hidden]
  rfl

/-- If neither is text, there is no directory. -/
theorem configDirectory_eq_none
    (unknown : ∀ value, environment.configHome? = some value -> ¬IsText value)
    (broken : ∀ value, environment.home? = some value -> ¬IsText value) :
    environment.configDirectory? = none := by
  rw [configDirectory?, baseDirectory?, text?_eq_none_iff.mpr unknown,
    text?_eq_none_iff.mpr broken]
  rfl

/-! ## Loading -/

/-- The same configuration is loaded from every working directory, whatever files there are. -/
def LoadsAlike (environment : Environment) : Prop :=
  ∀ (root : Tree) (first second : RawText),
    Config.load environment (FileSystem.probe ⟨root, first⟩) =
      Config.load environment (FileSystem.probe ⟨root, second⟩)

/-- From an absolute directory the same is loaded wherever the program runs. -/
theorem loadsAlike_of_isAbsolute
    (absolute : ∀ directory, environment.configDirectory? = some directory ->
      IsAbsolute directory) :
    environment.LoadsAlike := by
  intro root first second
  rw [Config.load, Config.load, configFile?]
  cases known : environment.configDirectory? with
  | none => rfl
  | some directory =>
      have file : IsAbsolute (joinPaths directory (.ofString "config.toml")) :=
        (isAbsolute_joinPaths (by decide)).mpr (absolute directory known)
      rw [Option.map_some]
      dsimp only
      rw [FileSystem.probe_of_isAbsolute file root first second]

/-! ## Whether the directory is the designated one -/

/-- Whether the text that is taken for the base of the directory is the one that should be. -/
def IsFollowed (environment : Environment) (home : RawText) : Prop :=
  (∃ value, environment.configHome? = some value ∧ IsUsable value) ∨
    ((∀ value, environment.configHome? = some value -> ¬IsText value) ∧ IsText home)

/-- A usable directory for settings is the one to be used. -/
theorem designates_of_usable
    (known : environment.configHome? = some value)
    (usable : IsUsable value) :
    environment.Designates home (within value) where
  absolute := (isAbsolute_within value).mpr usable.2
  inConfigHome other same _ := by
    cases known.symm.trans same
    exact namesOf_within value
  inHome unusable := absurd usable (unusable value known)

/-- Without such a directory the home directory is. -/
theorem designates_of_home
    (unknown : ∀ value, environment.configHome? = some value -> ¬IsText value)
    (absolute : IsAbsolute home) :
    environment.Designates home (within (hidden home)) where
  absolute := (isAbsolute_within _).mpr (isAbsolute_hidden absolute)
  inConfigHome value known usable := absurd usable.1 (unknown value known)
  inHome _ := by
    rw [namesOf_within, namesOf_hidden, List.append_assoc]
    rfl

/-- With an absolute home, the directory of the configuration is the designated one exactly if the
directory of configurations that is set is an absolute path in UTF-8, or is no text while the home
is one. A text that is not absolute is not ignored, and the directory is relative. Without a text
there is no directory at all. Unless the directory is relative, loading does not depend on the
working directory. -/
theorem designates_iff_isFollowed
    (known : environment.home? = some home)
    (absolute : IsAbsolute home) :
    ((∃ directory, environment.configDirectory? = some directory ∧
        environment.Designates home directory) ↔ environment.IsFollowed home) ∧
      (∀ value, environment.configHome? = some value -> IsText value -> ¬IsAbsolute value ->
        ∃ directory, environment.configDirectory? = some directory ∧ ¬IsAbsolute directory ∧
          namesOf directory = namesOf value ++ [(RawText.ofString "protopath").bytes]) ∧
      ((∀ value, environment.configHome? = some value -> ¬IsText value) -> ¬IsText home ->
        environment.configDirectory? = none) ∧
      ((∀ value, environment.configHome? = some value -> IsText value -> IsAbsolute value) ->
        environment.LoadsAlike) := by
  have homeOnly {property : RawText -> Prop} (holds : property home) :
      ∀ value, environment.home? = some value -> property value := by
    intro value same
    cases known.symm.trans same
    exact holds
  refine ⟨⟨?_, ?_⟩, ?_, ?_, ?_⟩
  · rintro ⟨directory, found, designated⟩
    by_cases unknown : ∀ value, environment.configHome? = some value -> ¬IsText value
    · refine .inr ⟨unknown, ?_⟩
      by_contra broken
      rw [configDirectory_eq_none unknown (homeOnly broken)] at found
      contradiction
    · push Not at unknown
      obtain ⟨value, set, decoded⟩ := unknown
      rw [configDirectory_of_isText set decoded] at found
      cases found
      exact .inl ⟨value, set, decoded, (isAbsolute_within value).mp designated.absolute⟩
  · rintro (⟨value, set, usable⟩ | ⟨unknown, decoded⟩)
    · exact ⟨_, configDirectory_of_isText set usable.1, designates_of_usable set usable⟩
    · exact ⟨_, configDirectory_of_home unknown known decoded,
        designates_of_home unknown absolute⟩
  · intro value set decoded relative
    exact ⟨_, configDirectory_of_isText set decoded,
      fun starts => relative ((isAbsolute_within value).mp starts), namesOf_within value⟩
  · exact fun unknown broken => configDirectory_eq_none unknown (homeOnly broken)
  · intro sound
    apply loadsAlike_of_isAbsolute
    intro directory found
    by_cases unknown : ∀ value, environment.configHome? = some value -> ¬IsText value
    · by_cases decoded : IsText home
      · rw [configDirectory_of_home unknown known decoded] at found
        cases found
        exact (designates_of_home unknown absolute).absolute
      · rw [configDirectory_eq_none unknown (homeOnly decoded)] at found
        contradiction
    · push Not at unknown
      obtain ⟨value, set, decoded⟩ := unknown
      rw [configDirectory_of_isText set decoded] at found
      cases found
      exact (isAbsolute_within value).mpr (sound value set decoded)

/-- A directory of configurations that is no text is ignored. -/
theorem designates_iff_isFollowed_at_broken_text :
    let home : RawText := .ofString "/home/user"
    let environment : Environment :=
      { empty with configHome? := some ⟨[0x2f, 0xff]⟩, home? := some home }
    environment.home? = some home ∧ IsAbsolute home ∧
      (∃ directory, environment.configDirectory? = some directory ∧
        environment.Designates home directory) ∧
      environment.configDirectory? = some (.ofString "/home/user/.config/protopath") ∧
      environment.LoadsAlike := by
  intro home environment
  have absolute : IsAbsolute home := by decide
  have unknown : ∀ value, environment.configHome? = some value -> ¬IsText value := by
    intro value set
    cases set
    rw [IsText, ← RawText.text?_eq_fromUTF8?]
    decide
  obtain ⟨followed, _, _, alike⟩ := @designates_iff_isFollowed environment home rfl absolute
  exact ⟨rfl, absolute, followed.mpr (.inr ⟨unknown, isText_iff.mpr ⟨_, rfl⟩⟩), by decide,
    alike fun value set decoded => absurd decoded (unknown value set)⟩

/-- An empty directory of configurations is not ignored: the directory is relative, and what is
loaded depends on the working directory. -/
theorem not_designates_of_empty :
    let home : RawText := .ofString "/home/user"
    let environment : Environment :=
      { empty with configHome? := some (.ofString ""), home? := some home }
    environment.home? = some home ∧ IsAbsolute home ∧
      environment.configDirectory? = some (.ofString "protopath") ∧
      (¬∃ directory, environment.configDirectory? = some directory ∧
        (IsAbsolute directory ∨ environment.Designates home directory)) ∧
      ¬environment.LoadsAlike := by
  intro home environment
  have relative : environment.configDirectory? = some (.ofString "protopath") := by decide
  refine ⟨rfl, by decide, relative, ?_, ?_⟩
  · rintro ⟨directory, found, designated⟩
    cases relative.symm.trans found
    have starts : IsAbsolute (.ofString "protopath") :=
      designated.elim id Designates.absolute
    exact absurd starts (by decide)
  · intro alike
    let file : Tree := .file (.ofString "general.log_level = \"trace\"")
    let root : Tree :=
      .directory
        [(.ofString "protopath", .directory [(.ofString "config.toml", file)]),
         (.ofString "home", .directory [])]
    have same := alike root (.ofString "/") (.ofString "/home")
    exact absurd same (by decide +kernel)

end Environment
end PathVersions
