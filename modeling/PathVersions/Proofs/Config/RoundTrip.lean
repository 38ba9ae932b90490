import PathVersions.Config.Load
import PathVersions.Proofs.Config.Described
import PathVersions.Proofs.Toml.WrittenDocument

/-!
# Configurations read back

The document of a configuration describes this configuration, also when other lines follow it.
-/

namespace PathVersions
namespace Config

open Toml

/-- The entry of the pattern of a configuration, if it has one. -/
def patternEntry (config : Config) : List Char :=
  match config.pattern? with
  | none => []
  | some pattern => writeEntry "pattern".toList pattern.toList

theorem writeText_levelName (level : LogLevel) :
    writeText level.name.toList = '"' :: level.name.toList ++ ['"'] := by
  cases level <;> decide

/-- The document of a configuration consists of headers and entries on lines of their own. -/
theorem toToml_toList (config : Config) :
    config.toToml.toList =
      writeHeader "general".toList ++ (writeEntry "log_level".toList config.logLevel.name.toList ++
        '\n' :: (writeHeader "versioning".toList ++ config.patternEntry)) := by
  unfold toToml patternEntry writeHeader writeEntry
  rw [writeText_levelName]
  cases config.pattern? with
  | none => simp
  | some pattern => simp

/-- The names in the document of a configuration. -/
theorem bareName_of_mem
    {name : String}
    (member : name ∈ ["general", "log_level", "versioning", "pattern"]) :
    BareName name.toList := by
  simp only [List.mem_cons, List.not_mem_nil, or_false] at member
  obtain rfl | rfl | rfl | rfl := member <;> exact ⟨by simp, by simp [isBareKey]⟩

/-- Two tables, one for each kind of setting, describe a configuration. -/
theorem described_tables
    {config : Config}
    {general versioning : Key}
    {first second : Node}
    (names : general.name = "general" ∧ versioning.name = "versioning")
    (level : first.Says config.logLevel.name ["log_level"])
    (pattern :
      match config.pattern? with
      | none => Lacks "pattern" second
      | some pattern => second.Says pattern ["pattern"]) :
    Described config [(general, first), (versioning, second)] where
  general := by
    refine ⟨⟨(general, first), by simp, names.1⟩, ?_⟩
    intro entry member named
    obtain rfl | rfl : entry = (general, first) ∨ entry = (versioning, second) := by
      simpa using member
    · exact level
    · exact absurd (names.2.symm.trans named) (by decide)
  versioning := by
    refine ⟨⟨(versioning, second), by simp, names.2⟩, ?_⟩
    intro entry member named
    obtain rfl | rfl : entry = (general, first) ∨ entry = (versioning, second) := by
      simpa using member
    · exact absurd (names.1.symm.trans named) (by decide)
    · exact pattern

theorem says_single
    (name content : String)
    (span keySpan textSpan : Span) :
    Node.Says content [name] (.table span .header [(⟨name, keySpan⟩, .text textSpan content)]) := by
  refine ⟨⟨_, List.mem_cons_self, rfl⟩, ?_⟩
  intro entry member _
  rw [List.mem_singleton.mp member]
  exact rfl

/-- The document of a configuration, read before what follows it. -/
theorem exists_first_statements (config : Config) (tail : List Char) :
    ∃ first entries,
      readStatements? (config.toToml.toList ++ tail) =
          (readStatements? tail).map (first ++ ·) ∧
        ofStatements? first = some entries ∧ Described config entries ∧
        Node.numbersHaveValues.inEntries entries = true := by
  have skipped {name : List Char} (rest : List Char) :
      skipLines false (writeHeader name ++ rest) = writeHeader name ++ rest := by
    simp [writeHeader, skipLines, isBlank]
  have bareGeneral : BareName "general".toList := bareName_of_mem (by simp)
  have bareLevel : BareName "log_level".toList := bareName_of_mem (by simp)
  have bareVersioning : BareName "versioning".toList := bareName_of_mem (by simp)
  have barePattern : BareName "pattern".toList := bareName_of_mem (by simp)
  rw [toToml_toList]
  simp only [List.append_assoc, List.cons_append]
  obtain ⟨generalSpan, generalKey, general⟩ := readStatements_header bareGeneral
    (skipped (writeEntry "log_level".toList config.logLevel.name.toList ++
      '\n' :: (writeHeader "versioning".toList ++ (config.patternEntry ++ tail))))
  obtain ⟨levelKey, levelSpan, level⟩ := readStatements_entry bareLevel
    config.logLevel.name.toList
    ('\n' :: (writeHeader "versioning".toList ++ (config.patternEntry ++ tail)))
  obtain ⟨versioningSpan, versioningKey, versioning⟩ :=
    @readStatements_header _
      ('\n' :: (writeHeader "versioning".toList ++ (config.patternEntry ++ tail))) _
      bareVersioning (skipped (config.patternEntry ++ tail))
  rw [general, level, versioning]
  unfold patternEntry
  cases known : config.pattern? with
  | none =>
      refine ⟨[.header generalSpan [] ⟨"general", generalKey⟩,
        .entry [] ⟨"log_level", levelKey⟩ (.text levelSpan config.logLevel.name),
        .header versioningSpan [] ⟨"versioning", versioningKey⟩], _, ?_, rfl, ?_, ?_⟩
      · simp [Option.map_map, Function.comp_def]
      · refine described_tables ⟨rfl, rfl⟩ (says_single _ _ _ _ _) ?_
        rw [known]
        exact ⟨_, _, [], rfl, by simp⟩
      · rfl
  | some pattern =>
      obtain ⟨patternKey, patternSpan, entry⟩ :=
        readStatements_entry barePattern pattern.toList tail
      simp only
      rw [entry]
      refine ⟨[.header generalSpan [] ⟨"general", generalKey⟩,
        .entry [] ⟨"log_level", levelKey⟩ (.text levelSpan config.logLevel.name),
        .header versioningSpan [] ⟨"versioning", versioningKey⟩,
        .entry [] ⟨"pattern", patternKey⟩ (.text patternSpan pattern)], _, ?_, rfl, ?_, ?_⟩
      · simp [Option.map_map, Function.comp_def]
      · refine described_tables ⟨rfl, rfl⟩ (says_single _ _ _ _ _) ?_
        rw [known]
        exact says_single _ _ _ _ _
      · rfl

/-- What follows the document of a configuration adds statements to its own. -/
theorem exists_read_append (config : Config) (tail : List Char) :
    ∃ first entries,
      Toml.read? (config.toToml.toList ++ tail) =
          (readStatements? tail).bind (fun more => ofStatements? (first ++ more)) ∧
        ofStatements? first = some entries ∧ Described config entries ∧
        Node.numbersHaveValues.inEntries entries = true := by
  obtain ⟨first, entries, statements, table, described, valued⟩ :=
    exists_first_statements config tail
  refine ⟨first, entries, ?_, table, described, valued⟩
  have unmarked :
      dropMark (config.toToml.toList ++ tail) = config.toToml.toList ++ tail := by
    rw [toToml_toList]
    rfl
  rw [Toml.read?, unmarked, statements]
  cases readStatements? tail <;> rfl

/-- Every configuration reads back from its document, and its pattern is checked on the way. -/
theorem ofToml_toToml (config : Config) :
    ofToml config.toToml.toList = .ok config ∧
      (config.validate = .ok () -> ofText config.toToml = .ok config) := by
  obtain ⟨first, entries, read, table, described, valued⟩ := exists_read_append config []
  have nothing : readStatements? [] = some [] := by
    rw [readStatements?]
    rfl
  have whole : Toml.read? config.toToml.toList = some entries := by
    rw [List.append_nil, nothing, Option.bind_some, List.append_nil, table] at read
    exact read
  have same : ofToml config.toToml.toList = .ok config := by
    rw [ofToml, whole]
    dsimp only
    rw [ofEntries_described described, valued]
    rfl
  refine ⟨same, ?_⟩
  intro valid
  rw [ofText, ofDocument, same]
  dsimp only
  rw [valid]
  rfl

end Config
end PathVersions
