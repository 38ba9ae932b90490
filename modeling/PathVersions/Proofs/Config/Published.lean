import PathVersions.Config.Load
import PathVersions.Proofs.Config.Rendered
import PathVersions.Proofs.Config.Settings
import PathVersions.Proofs.Json.Validity

/-!
# The published schema promises nothing that is refused

A document whose JSON image the published schema accepts describes a configuration with the values
that the document gives. All that can still be wrong with it is its pattern.
-/

namespace PathVersions

/-! ## Documents as JSON -/

namespace Toml

/-- A value as JSON, which has neither dates nor infinite numbers. A date or time is an object with
one member, by which it is told apart, and every float is a number. -/
def Node.image : Node -> Json.Instance
  | .text _ content => .text content
  | .integer _ _ => .number
  | .float _ _ => .number
  | .boolean _ truth => .bool truth
  | .moment _ written => .object [("$__toml_private_datetime", .text written)]
  | .array _ _ items => .array (inItems items)
  | .table _ _ entries => .object (inEntries entries)
where
  /-- The items of an array as JSON. -/
  inItems : List Node -> List Json.Instance
    | [] => []
    | item :: rest => item.image :: inItems rest
  /-- The entries of a table as JSON. -/
  inEntries : List (Key × Node) -> List (String × Json.Instance)
    | [] => []
    | (key, node) :: rest => (key.name, node.image) :: inEntries rest

/-- A table as JSON. -/
def Entries.image (entries : Entries) : Json.Instance := .object (Node.image.inEntries entries)

/-- Each entry of a table is a member of its image. -/
theorem mem_image
    {entries : Entries}
    {entry : Key × Node}
    (member : entry ∈ entries) :
    (entry.1.name, entry.2.image) ∈ Node.image.inEntries entries := by
  induction entries with
  | nil => contradiction
  | cons first rest inductionHypothesis =>
      obtain rfl | later := List.mem_cons.mp member
      · exact List.mem_cons_self
      · exact List.mem_cons_of_mem _ (inductionHypothesis later)

/-- Only texts become texts. -/
theorem image_eq_text {node : Node} {content : String} :
    node.image = .text content ↔ ∃ span, node = .text span content := by
  cases node <;> simp [Node.image]

/-- Nothing in a document becomes null. -/
theorem image_ne_null (node : Node) : node.image ≠ .null := by
  cases node <;> simp [Node.image]

end Toml

namespace Config

open Toml Json

/-- What becomes an object is read as a map, and what is in it becomes its members. -/
theorem isMap_of_image
    {node : Node}
    {members : List (String × Instance)}
    (known : node.image = .object members) :
    IsMap node ∧
      ∀ name value, inside? name node = some value -> (name, value.image) ∈ members := by
  cases node with
  | table span origin entries =>
      cases known
      refine ⟨trivial, fun name value inside => ?_⟩
      obtain ⟨entry, found, rfl⟩ := Option.map_eq_some_iff.mp inside
      obtain ⟨member, rfl⟩ := Entries.mem_of_find found
      exact mem_image member
  | moment span written => exact ⟨trivial, fun _ _ inside => nomatch inside⟩
  | _ => nomatch known

/-! ## The published schema -/

/-- Whether an instance is the name of a level. -/
def IsLevel (given : Instance) : Prop := ∃ level : LogLevel, given = .text level.name

/-- Whether an instance is a text or nothing. -/
def IsTextOrNull (given : Instance) : Prop := given = .null ∨ ∃ content, given = .text content

/-- The schema of levels accepts their names and nothing else. -/
theorem accepts_levelSchema {root : Value} {given : Instance} :
    Accepts root (.object levelSchema.members) given ↔ IsLevel given := by
  rw [levelSchema]
  refine (Schema.accepts_oneOf (?_ : Schema.Constants _ (LogLevel.all.map LogLevel.name))
    (by decide)).trans ?_
  · exact .cons ⟨_, rfl⟩ (.cons ⟨_, rfl⟩ (.cons ⟨_, rfl⟩ (.cons ⟨_, rfl⟩ (.cons ⟨_, rfl⟩ .nil))))
  constructor
  · rintro ⟨content, present, rfl⟩
    obtain ⟨level, _, rfl⟩ := List.mem_map.mp present
    exact ⟨level, rfl⟩
  · rintro ⟨level, rfl⟩
    exact ⟨level.name, List.mem_map_of_mem (by cases level <;> decide), rfl⟩

/-- The schema of the general settings asks for a level, if one is given. -/
theorem accepts_generalSchema {given : Instance} :
    Accepts schema.value (.object generalSchema.members) given ↔
      ∃ settings, given = .object settings ∧ ∀ setting ∈ settings,
        setting.1 = "log_level" -> IsLevel setting.2 := by
  have resolved : resolve? schema.value ("#/$defs/" ++ "LogLevel") =
      some (.object levelSchema.members) := rfl
  simp only [generalSchema, Schema.accepts_object, List.forall_mem_singleton,
    Schema.accepts_reference resolved, accepts_levelSchema]

/-- The schema of the settings for versions asks for a text or null, if a pattern is given. -/
theorem accepts_versioningSchema {given : Instance} :
    Accepts schema.value (.object versioningSchema.members) given ↔
      ∃ settings, given = .object settings ∧ ∀ setting ∈ settings,
        setting.1 = "pattern" -> IsTextOrNull setting.2 := by
  simp only [versioningSchema, Schema.accepts_object, List.forall_mem_singleton,
    Schema.accepts_textOrNull, IsTextOrNull]

/-- Whether every part of a name is an object, and every setting of a name in it is allowed. -/
def Permits
    (part name : String)
    (allowed : Instance -> Prop)
    (members : List (String × Instance)) :
    Prop :=
  ∀ member ∈ members, member.1 = part -> ∃ settings, member.2 = .object settings ∧
    ∀ setting ∈ settings, setting.1 = name -> allowed setting.2

/-- The published schema asks for a level that there is and for a pattern that is a text, where
these are given, and for nothing else. -/
theorem accepts_schema {given : Instance} :
    Accepts schema.value schema.value given ↔
      ∃ members, given = .object members ∧
        Permits "general" "log_level" IsLevel members ∧
        Permits "versioning" "pattern" IsTextOrNull members := by
  have general : resolve? schema.value ("#/$defs/" ++ "GeneralConfig") =
      some (.object generalSchema.members) := rfl
  have versioning : resolve? schema.value ("#/$defs/" ++ "VersioningConfig") =
      some (.object versioningSchema.members) := rfl
  rw [schema.accepts_value]
  change Accepts schema.value (.object (Json.Schema.object _
    [("general", .reference _ "GeneralConfig" _),
      ("versioning", .reference _ "VersioningConfig" _)]).members) given ↔ _
  rw [Schema.accepts_object]
  simp only [List.forall_mem_cons, List.not_mem_nil, false_implies, implies_true, and_true,
    Schema.accepts_reference general, Schema.accepts_reference versioning, accepts_generalSchema,
    accepts_versioningSchema, Permits]

/-! ## What is read from an accepted document -/

/-- Whether a configuration has the settings that a document gives, and its defaults for those that
the document does not give. -/
structure Takes (config : Config) (entries : Entries) : Prop where
  level :
    (settingAt? "general" "log_level" entries = none ∧ config.logLevel = defaultLogLevel) ∨
      ∃ span, settingAt? "general" "log_level" entries = some (.text span config.logLevel.name)
  pattern :
    (settingAt? "versioning" "pattern" entries = none ∧ config.pattern? = none) ∨
      ∃ span pattern, settingAt? "versioning" "pattern" entries = some (.text span pattern) ∧
        config.pattern? = some pattern

section Accepted

variable {entries : Entries} {part name : String} {allowed : Instance -> Prop}

/-- A part of which the schema asks anything has to be an object. -/
theorem isMap_of_permits
    {entry : Key × Node}
    (permits : Permits part name allowed (Node.image.inEntries entries))
    (member : entry ∈ entries)
    (named : entry.1.name = part) :
    IsMap entry.2 := by
  obtain ⟨settings, isObject, _⟩ := permits _ (mem_image member) named
  exact (isMap_of_image isObject).1

theorem allowed_of_permits
    {node : Node}
    (permits : Permits part name allowed (Node.image.inEntries entries))
    (known : settingAt? part name entries = some node) :
    allowed node.image := by
  obtain ⟨entry, member, named, inside⟩ := exists_mem_of_settingAt known
  obtain ⟨settings, isObject, all⟩ := permits _ (mem_image member) named
  exact all _ ((isMap_of_image isObject).2 _ _ inside) rfl

theorem permits_of_accepts (accepts : Accepts schema.value schema.value entries.image) :
    Permits "general" "log_level" IsLevel (Node.image.inEntries entries) ∧
      Permits "versioning" "pattern" IsTextOrNull (Node.image.inEntries entries) := by
  obtain ⟨members, isObject, permits⟩ := accepts_schema.mp accepts
  cases isObject
  exact permits

/-- Both parts of an accepted document are maps. -/
theorem sectioned_of_accepts (accepts : Accepts schema.value schema.value entries.image) :
    Sectioned entries := by
  obtain ⟨general, versioning⟩ := permits_of_accepts accepts
  rintro entry member (named | named)
  · exact isMap_of_permits general member named
  · exact isMap_of_permits versioning member named

/-- The level of an accepted document is read, as the one that is given or else as the default. -/
theorem exists_level (accepts : Accepts schema.value schema.value entries.image) :
    let setting := settingAt? "general" "log_level" entries
    ∃ level?, readSetting levelOf setting = .ok level? ∧
      ((setting = none ∧ level?.getD defaultLogLevel = defaultLogLevel) ∨
        ∃ span, setting = some (.text span (level?.getD defaultLogLevel).name)) := by
  intro setting
  cases known : setting with
  | none => exact ⟨none, rfl, .inl ⟨rfl, rfl⟩⟩
  | some node =>
      obtain ⟨level, text⟩ := allowed_of_permits (permits_of_accepts accepts).1 known
      obtain ⟨span, rfl⟩ := image_eq_text.mp text
      refine ⟨some level, ?_, .inr ⟨span, rfl⟩⟩
      rw [readSetting, levelOf, levelOfName, LogLevel.ofName?_name]
      rfl

/-- The pattern of an accepted document is read as it is given. -/
theorem exists_pattern (accepts : Accepts schema.value schema.value entries.image) :
    let setting := settingAt? "versioning" "pattern" entries
    ∃ pattern?, readSetting patternOf setting = .ok pattern? ∧
      ((setting = none ∧ pattern? = none) ∨
        ∃ span pattern, setting = some (.text span pattern) ∧ pattern? = some pattern) := by
  intro setting
  cases known : setting with
  | none => exact ⟨none, rfl, .inl ⟨rfl, rfl⟩⟩
  | some node =>
      obtain null | ⟨pattern, text⟩ := allowed_of_permits (permits_of_accepts accepts).2 known
      · exact absurd null (image_ne_null node)
      · obtain ⟨span, rfl⟩ := image_eq_text.mp text
        exact ⟨some pattern, rfl, .inr ⟨span, pattern, rfl, rfl⟩⟩

/-- A table that the published schema accepts describes a configuration. -/
theorem exists_takes
    (regular : entries.Regular)
    (valued : Node.numbersHaveValues.inEntries entries = true)
    (accepts : Accepts schema.value schema.value entries.image) :
    ∃ config, ofEntries entries = .ok config ∧ Takes config entries := by
  obtain ⟨level?, readLevel, level⟩ := exists_level accepts
  obtain ⟨pattern?, readPattern, pattern⟩ := exists_pattern accepts
  refine ⟨⟨level?.getD defaultLogLevel, pattern?⟩, ?_, level, pattern⟩
  rw [ofEntries_eq_ofSettings regular valued (sectioned_of_accepts accepts), ofSettings, readLevel,
    readPattern]
  rfl

/-- A document that describes a configuration can only have a bad pattern. -/
theorem ofText_of_ofEntries
    {config : Config}
    {document : String}
    (read : read? document.toList = some entries)
    (described : ofEntries entries = .ok config) :
    ofText document = .ok config ∨
      ∃ pattern bad, config.pattern? = some pattern ∧
        VersionGrammar.ofPattern pattern = .error bad ∧
          ofText document = .error (.ofBadSetting bad) := by
  have known : ofText document = (do config.validate; return config) := by
    rw [ofText, ofDocument, ofToml, read]
    simp only [described]
  rw [known, validate, grammar]
  cases config.pattern? with
  | none => exact .inl rfl
  | some pattern =>
      cases compiled : VersionGrammar.ofPattern pattern with
      | ok grammar => exact .inl (by simp only [compiled]; rfl)
      | error bad => exact .inr ⟨pattern, bad, rfl, compiled, by simp only [compiled]; rfl⟩

/-- A table that the printed schema accepts describes the configuration with its values, and with
the defaults for what it leaves out. A document with this table is refused only for its pattern. -/
theorem ofEntries_of_accepts
    (regular : entries.Regular)
    (valued : Node.numbersHaveValues.inEntries entries = true)
    (accepts : Accepts schema.value schema.value entries.image)
    (arguments : List String) :
    (Command.Settings.schema.run arguments).result = .ok schema.value.pretty ∧
      ∃ config, ofEntries entries = .ok config ∧ Takes config entries ∧
        ∀ document : String, read? document.toList = some entries ->
          ofText document = .ok config ∨
            ∃ pattern bad, config.pattern? = some pattern ∧
              VersionGrammar.ofPattern pattern = .error bad ∧
                ofText document = .error (.ofBadSetting bad) := by
  obtain ⟨config, described, takes⟩ := exists_takes regular valued accepts
  exact ⟨Command.Settings.renderedSchema_eq, config, described, takes, fun document read =>
    ofText_of_ofEntries read described⟩

/-- A document with a level, a bad pattern and entries that the schema does not know. -/
theorem ofEntries_of_accepts_at_bad_pattern :
    let document :=
      "extra = [1]\n[general]\nlog_level = \"info\"\n[versioning]\npattern = \"(\"\nmore = \x7b\x7d"
    ∃ entries, read? document.toList = some entries ∧
      entries.Regular ∧ Node.numbersHaveValues.inEntries entries = true ∧
      Accepts schema.value schema.value entries.image ∧
      (Command.Settings.schema.run []).result = .ok schema.value.pretty ∧
      ∃ config, ofEntries entries = .ok config ∧ Takes config entries ∧
        (ofText document = .ok config ∨
          ∃ pattern bad, config.pattern? = some pattern ∧
            VersionGrammar.ofPattern pattern = .error bad ∧
              ofText document = .error (.ofBadSetting bad)) := by
  intro document
  obtain ⟨entries, read, accepts, valued⟩ : ∃ entries, read? document.toList = some entries ∧
      Accepts schema.value schema.value entries.image ∧
      Node.numbersHaveValues.inEntries entries = true := by
    refine ⟨_, by subst document; cbv, ?_, rfl⟩
    rw [accepts_schema]
    refine ⟨_, rfl, ?_, ?_⟩
    · have level : ∃ level : LogLevel, "info" = level.name := ⟨.info, rfl⟩
      simpa [Permits, IsLevel, Node.image.inEntries, Node.image] using level
    · simp +contextual [Permits, IsTextOrNull, Node.image.inEntries, Node.image, or_imp]
  have regular := regular_of_read read
  obtain ⟨printed, config, described, takes, outcome⟩ :=
    ofEntries_of_accepts regular valued accepts []
  exact ⟨entries, read, regular, valued, accepts, printed, config, described, takes,
    outcome document read⟩

end Accepted

end Config
end PathVersions
