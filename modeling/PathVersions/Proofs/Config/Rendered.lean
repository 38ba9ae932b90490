import PathVersions.Command.Settings
import PathVersions.Proofs.Config.RoundTrip

/-!
# Nothing that is printed is refused

A document is written of a datum exactly if it is a map, every key in it is a text and no value in
it says nothing. JSON only asks for the keys. The datum of a configuration and the datum of a JSON
value have all of this, and so the commands that write them always have an output.
-/

namespace PathVersions

/-! ## Attempts -/

/-- Whether an attempt has a result. -/
def Succeeds (attempt : Except ε α) : Prop := ∃ result, attempt = .ok result

section Attempts

variable {attempt : Except ε α} {second : Except ε β}

@[simp] theorem succeeds_ok (result : α) : Succeeds (.ok result : Except ε α) := ⟨result, rfl⟩

@[simp] theorem not_succeeds_error (fault : ε) : ¬Succeeds (.error fault : Except ε α) := by
  rintro ⟨result, same⟩
  contradiction

/-- An attempt whose result is only turned into another one succeeds as before. -/
theorem succeeds_map_iff {use : α -> β} : Succeeds (use <$> attempt) ↔ Succeeds attempt := by
  cases attempt with
  | error fault => exact iff_of_false (not_succeeds_error fault) (not_succeeds_error fault)
  | ok result => exact iff_of_true (succeeds_ok _) (succeeds_ok _)

/-- Two attempts after each other succeed if both of them do. -/
theorem succeeds_both_iff {use : α -> β -> γ} :
    Succeeds (do let first ← attempt; let other ← second; return use first other) ↔
      Succeeds attempt ∧ Succeeds second := by
  cases attempt with
  | error fault =>
      exact iff_of_false (not_succeeds_error fault) fun both => not_succeeds_error fault both.1
  | ok first =>
      have rest : Succeeds (use first <$> second) ↔ Succeeds second := succeeds_map_iff
      exact rest.trans (and_iff_right (succeeds_ok first)).symm

end Attempts

/-! ## Data that can be written -/

namespace Datum

/-- A datum in which every key is a text, and in which no value says nothing unless units are
allowed. -/
inductive HasForm (units : Prop) : Datum -> Prop
  | unit : units -> HasForm units .unit
  | bool (truth : Bool) : HasForm units (.bool truth)
  | text (content : String) : HasForm units (.text content)
  | array {items : List Datum} :
      (∀ item ∈ items, HasForm units item) -> HasForm units (.array items)
  | map {entries : List (Option String × Datum)} :
      (∀ entry ∈ entries, entry.1.isSome = true) -> (∀ entry ∈ entries, HasForm units entry.2) ->
        HasForm units (.map entries)

variable {units : Prop}

theorem hasForm_unit : HasForm units .unit ↔ units := by
  constructor
  · rintro ⟨allowed⟩
    exact allowed
  · exact .unit

/-- An array can be written if each of its items can. -/
theorem hasForm_array {items : List Datum} :
    HasForm units (.array items) ↔ ∀ item ∈ items, HasForm units item := by
  constructor
  · rintro ⟨⟩
    assumption
  · exact .array

/-- A map can be written if each of its entries has a name and a value that can. -/
theorem hasForm_map {entries : List (Option String × Datum)} :
    HasForm units (.map entries) ↔
      ∀ entry ∈ entries, entry.1.isSome = true ∧ HasForm units entry.2 := by
  constructor
  · rintro ⟨⟩ entry member
    exact ⟨‹∀ entry ∈ entries, entry.1.isSome = true› entry member,
      ‹∀ entry ∈ entries, HasForm units entry.2› entry member⟩
  · intro each
    exact .map (fun entry member => (each entry member).1) fun entry member => (each entry member).2

end Datum

/-! ## JSON -/

namespace Json.Value

open Datum

mutual

/-- A datum is written as a value exactly if every key in it is a text. -/
theorem succeeds_ofDatum_iff : ∀ datum, Succeeds (ofDatum datum) ↔ HasForm True datum
  | .unit => iff_of_true (succeeds_ok _) (.unit trivial)
  | .bool truth => iff_of_true (succeeds_ok _) (.bool truth)
  | .text content => iff_of_true (succeeds_ok _) (.text content)
  | .array items => by
      rw [ofDatum, succeeds_map_iff, succeeds_ofItems_iff items, hasForm_array]
  | .map entries => by
      rw [ofDatum, succeeds_map_iff, succeeds_ofEntries_iff entries, hasForm_map]

theorem succeeds_ofItems_iff :
    ∀ items, Succeeds (ofItems items) ↔ ∀ item ∈ items, HasForm True item
  | [] => by simp [ofItems]
  | item :: rest => by
      rw [ofItems, succeeds_both_iff, succeeds_ofDatum_iff item, succeeds_ofItems_iff rest,
        List.forall_mem_cons]

theorem succeeds_ofEntries_iff :
    ∀ entries, Succeeds (ofEntries entries) ↔
      ∀ entry ∈ entries, entry.1.isSome = true ∧ HasForm True entry.2
  | [] => by simp [ofEntries]
  | (none, _) :: _ => by simp [ofEntries]
  | (some name, datum) :: rest => by
      rw [ofEntries, succeeds_both_iff, succeeds_ofDatum_iff datum, succeeds_ofEntries_iff rest,
        List.forall_mem_cons]
      simp

end

mutual

/-- The datum of a value is written as this value. -/
theorem ofDatum_datum : ∀ value : Value, ofDatum value.datum = .ok value
  | .null => rfl
  | .bool _ => rfl
  | .text _ => rfl
  | .array items => by
      rw [datum, ofDatum, ofItems_itemData items]
      rfl
  | .object members => by
      rw [datum, ofDatum, ofEntries_memberData members]
      rfl

theorem ofItems_itemData : ∀ items, ofItems (itemData items) = .ok items
  | [] => rfl
  | item :: rest => by
      rw [itemData, ofItems, ofDatum_datum item, ofItems_itemData rest]
      rfl

theorem ofEntries_memberData : ∀ members, ofEntries (memberData members) = .ok members
  | [] => rfl
  | (name, value) :: rest => by
      rw [memberData, ofEntries, ofDatum_datum value, ofEntries_memberData rest]
      rfl

end

end Json.Value

namespace Json

/-- What is written as JSON: data in which every key is a text. -/
theorem succeeds_render_iff (datum : Datum) : Succeeds (render datum) ↔ datum.HasForm True := by
  rw [render, succeeds_map_iff, Value.succeeds_ofDatum_iff]

example : render (.array [.map [(none, .unit)]]) = .error .keyNotText := rfl

/-- JSON is written of every JSON value, in the layout of this value. -/
theorem render_datum (value : Value) : render value.datum = .ok value.pretty := by
  rw [render, Value.ofDatum_datum]
  rfl

end Json

/-! ## Documents -/

namespace Toml

open Datum

mutual

/-- On one line everything is written that has no unit in it and no key without a name. -/
theorem succeeds_writeInline_iff : ∀ datum, Succeeds (writeInline datum) ↔ HasForm False datum
  | .unit => iff_of_false (not_succeeds_error _) (by simp [hasForm_unit])
  | .bool true => iff_of_true (succeeds_ok _) (.bool true)
  | .bool false => iff_of_true (succeeds_ok _) (.bool false)
  | .text content => iff_of_true (succeeds_ok _) (.text content)
  | .array items => by
      rw [hasForm_array, ← succeeds_writeInlineItems_iff items]
      exact succeeds_map_iff
  | .map entries => by
      rw [hasForm_map, ← succeeds_writeInlineMembers_iff entries]
      exact succeeds_map_iff

theorem succeeds_writeInlineItems_iff :
    ∀ items, Succeeds (writeInlineItems items) ↔ ∀ item ∈ items, HasForm False item
  | [] => by simp [writeInlineItems]
  | item :: rest => by
      rw [writeInlineItems, succeeds_both_iff, succeeds_writeInline_iff item,
        succeeds_writeInlineItems_iff rest, List.forall_mem_cons]

theorem succeeds_writeInlineMembers_iff :
    ∀ entries, Succeeds (writeInlineMembers entries) ↔
      ∀ entry ∈ entries, entry.1.isSome = true ∧ HasForm False entry.2
  | [] => by simp [writeInlineMembers]
  | (none, _) :: _ => by simp [writeInlineMembers]
  | (some name, value) :: rest => by
      rw [writeInlineMembers, succeeds_both_iff, succeeds_writeInline_iff value,
        succeeds_writeInlineMembers_iff rest, List.forall_mem_cons]
      simp

end

mutual

/-- Under a header only a map is written. -/
theorem succeeds_writeTable_iff (heading : Heading) :
    ∀ datum, Succeeds (writeTable heading datum) ↔ datum.isMap = true ∧ HasForm False datum
  | .map entries => by
      rw [hasForm_map, ← succeeds_writeMembers_iff heading.keys entries]
      exact succeeds_map_iff.trans (and_iff_right rfl).symm
  | .unit => iff_of_false (not_succeeds_error _) (by simp [isMap])
  | .bool _ => iff_of_false (not_succeeds_error _) (by simp [isMap])
  | .text _ => iff_of_false (not_succeeds_error _) (by simp [isMap])
  | .array _ => iff_of_false (not_succeeds_error _) (by simp [isMap])

theorem succeeds_writeMembers_iff (keys : List String) :
    ∀ entries, Succeeds (writeMembers keys entries) ↔
      ∀ entry ∈ entries, entry.1.isSome = true ∧ HasForm False entry.2
  | [] => by simp [writeMembers]
  | (none, _) :: _ => by simp [writeMembers]
  | (some name, value) :: rest => by
      rw [writeMembers, succeeds_both_iff, succeeds_writeMember_iff keys name value,
        succeeds_writeMembers_iff keys rest, List.forall_mem_cons]
      simp

/-- An entry is written if its value can be, be it on a line, under a header, or as several tables.
-/
theorem succeeds_writeMember_iff (keys : List String) (name : String) :
    ∀ datum, Succeeds (writeMember keys name datum) ↔ HasForm False datum
  | .map entries => by
      rw [hasForm_map, ← succeeds_writeMembers_iff (keys ++ [name]) entries]
      exact succeeds_map_iff.trans succeeds_map_iff
  | .array items => by
      rw [writeMember]
      split
      · rename_i tables
        have maps : ∀ item ∈ items, item.isMap = true := by
          simp only [Bool.and_eq_true, List.all_eq_true] at tables
          exact tables.2
        refine succeeds_map_iff.trans ((succeeds_writeElements_iff (keys ++ [name]) items).trans ?_)
        rw [hasForm_array]
        exact forall₂_congr fun item member => and_iff_right (maps item member)
      · exact succeeds_map_iff.trans (succeeds_writeInline_iff (.array items))
  | .unit => succeeds_map_iff.trans (succeeds_writeInline_iff .unit)
  | .bool truth => succeeds_map_iff.trans (succeeds_writeInline_iff (.bool truth))
  | .text content => succeeds_map_iff.trans (succeeds_writeInline_iff (.text content))

theorem succeeds_writeElements_iff (keys : List String) :
    ∀ items, Succeeds (writeElements keys items) ↔
      ∀ item ∈ items, item.isMap = true ∧ HasForm False item
  | [] => by simp [writeElements]
  | item :: rest => by
      rw [writeElements, succeeds_both_iff, succeeds_writeTable_iff (.element keys) item,
        succeeds_writeElements_iff keys rest, List.forall_mem_cons]

end

/-- What documents are written of: maps in which every key is a text and no value says nothing. -/
theorem succeeds_writeDocument_iff (datum : Datum) :
    Succeeds (writeDocument datum) ↔ datum.isMap = true ∧ datum.HasForm False := by
  rw [writeDocument, succeeds_map_iff, succeeds_writeTable_iff]

example : writeDocument (.map [(some "pattern", .unit)]) = .error (.unsupported "unit") := rfl

/-- A name that needs no marks is written without them. -/
theorem writeKey_of_bareName {name : String} (named : BareName name.toList) :
    writeKey name = name := by
  have plain : (!name.toList.isEmpty && name.toList.all isBareKey) = true := by
    rw [Bool.and_eq_true, List.all_eq_true]
    exact ⟨by simpa using named.nonempty, named.bare⟩
  rw [writeKey, if_pos plain]

/-- A table with one text has one line. -/
theorem writeMembers_text (keys : List String) (name content : String) :
    writeMembers keys [(some name, .text content)] =
      .ok ⟨writeKey name ++ " = " ++ String.ofList (writeText content.toList) ++ "\n", []⟩ := by
  have line := String.append_empty
    (s := writeKey name ++ " = " ++ String.ofList (writeText content.toList) ++ "\n")
  exact congrArg (fun lines => Except.ok (WrittenTable.mk lines [])) line

/-- A table with nothing but lines is one block. -/
theorem writeMember_table
    {name lines : String}
    {entries : List (Option String × Datum)}
    (written : writeMembers [name] entries = .ok ⟨lines, []⟩) :
    writeMember [] name (.map entries) =
      .ok (.ofBlocks ["[" ++ writeKey name ++ "]\n" ++ lines]) := by
  rw [writeMember, List.nil_append, written]
  change Except.ok (WrittenTable.ofBlocks (WrittenTable.under _ _)) = _
  simp [WrittenTable.under, Heading.keys]

/-- The blocks of two tables stand apart by a blank line. -/
theorem writeDocument_tables
    {first second firstLines secondLines : String}
    {firstEntries secondEntries : List (Option String × Datum)}
    (firstWritten : writeMembers [first] firstEntries = .ok ⟨firstLines, []⟩)
    (secondWritten : writeMembers [second] secondEntries = .ok ⟨secondLines, []⟩) :
    writeDocument (.map [(some first, .map firstEntries), (some second, .map secondEntries)]) =
      .ok ("[" ++ writeKey first ++ "]\n" ++ firstLines ++ "\n[" ++ writeKey second ++ "]\n" ++
        secondLines) := by
  rw [writeDocument, writeTable, writeMembers, Heading.keys, writeMember_table firstWritten,
    writeMembers, writeMember_table secondWritten, writeMembers]
  change Except.ok (String.intercalate "\n" _) = _
  refine congrArg Except.ok (String.toList_injective ?_)
  simp [WrittenTable.under, WrittenTable.append, WrittenTable.ofBlocks]

end Toml

/-! ## Configurations -/

namespace Config

open Toml

theorem writeKey_of_mem
    {name : String}
    (member : name ∈ ["general", "log_level", "versioning", "pattern"]) :
    writeKey name = name :=
  writeKey_of_bareName (bareName_of_mem member)

/-- The document of a configuration is what is written of it. -/
theorem writeDocument_datum (config : Config) :
    writeDocument config.datum = .ok config.toToml := by
  have general := writeMembers_text ["general"] "log_level" config.logLevel.name
  have title : writeKey "general" = "general" := writeKey_of_mem (by simp)
  have other : writeKey "versioning" = "versioning" := writeKey_of_mem (by simp)
  rw [writeKey_of_mem (by simp), writeText_levelName] at general
  unfold datum toToml
  cases config.pattern? with
  | none =>
      refine (writeDocument_tables general rfl).trans (congrArg Except.ok ?_)
      apply String.toList_injective
      simp [title, other]
  | some pattern =>
      have versioning := writeMembers_text ["versioning"] "pattern" pattern
      rw [writeKey_of_mem (by simp)] at versioning
      refine (writeDocument_tables general versioning).trans (congrArg Except.ok ?_)
      apply String.toList_injective
      simp [title, other]

end Config

/-! ## Commands -/

namespace Command.Settings

/-- No configuration is refused when it is written, so the command that prints it never fails. -/
theorem rendered_eq (config : Config) : rendered config = .ok (annotated config config.toToml) := by
  rw [rendered, Config.writeDocument_datum]
  rfl

/-- The schema is not refused when it is written, so the command that prints it never fails. -/
theorem renderedSchema_eq : renderedSchema = .ok Config.schema.value.pretty := by
  rw [renderedSchema, Json.render_datum]
  rfl

end Command.Settings
end PathVersions
