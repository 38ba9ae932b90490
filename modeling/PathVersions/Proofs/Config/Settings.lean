import PathVersions.Proofs.Config.Described
import PathVersions.Proofs.Toml.Regular
import Mathlib.Data.String.Basic
import Mathlib.Data.List.Nodup

/-!
# Two settings decide a configuration

Of a document only two values matter: the level of logging and the pattern. They are looked at in
this order, wherever the document has them, and each of them has its default if it is absent. The
other entries are passed over, whatever they are.
-/

namespace PathVersions

/-! ## Entries with distinct names -/

namespace Toml.Entries

variable {entries other : Entries} {entry : Key × Node} {name : String}

/-- With no name twice, an entry is found exactly if it is there. -/
theorem find?_eq_some_iff (distinct : (entries.map (·.1.name)).Nodup) :
    entries.find? name = some entry ↔ entry ∈ entries ∧ entry.1.name = name := by
  constructor
  · exact fun found => mem_of_find found
  · rintro ⟨member, named⟩
    cases found : entries.find? name with
    | none => exact absurd named (name_ne_of_find found entry member)
    | some first =>
        obtain ⟨present, same⟩ := mem_of_find found
        exact congrArg some
          (List.inj_on_of_nodup_map distinct present member (same.trans named.symm))

/-- With no name twice, the order of the entries does not matter to a lookup. -/
theorem find?_perm
    (distinct : (entries.map (·.1.name)).Nodup)
    (permuted : entries.Perm other) :
    entries.find? name = other.find? name := by
  ext entry
  rw [find?_eq_some_iff distinct,
    find?_eq_some_iff ((permuted.map _).nodup_iff.mp distinct), permuted.mem_iff]

theorem sorted_perm (entries : Entries) : entries.sorted.Perm entries := List.mergeSort_perm _ _

/-- Of two sorted entries the later one does not have the smaller name. -/
theorem pairwise_sorted (entries : Entries) :
    entries.sorted.Pairwise fun left right => left.1.name ≤ right.1.name := by
  have ordered := @List.pairwise_mergeSort _
    (fun left right : Key × Node => decide (left.1.name ≤ right.1.name))
    (fun left middle right first second => by
      simp only [decide_eq_true_eq] at first second ⊢
      exact le_trans first second)
    (fun left right => by simpa using le_total left.1.name right.1.name) entries
  exact ordered.imp fun least => by simpa using least

end Toml.Entries

namespace Config

open Toml

variable {entries : Entries} {name : String}

/-! ## Folds that pass over entries -/

section Folds

variable {α : Type} {step : α -> Key × Node -> Reading α}

/-- Take in the entry of a name, if there is one. -/
def visit
    (step : α -> Key × Node -> Reading α)
    (entries : Entries)
    (name : String)
    (current : α) :
    Reading α :=
  match entries.find? name with
  | none => .ok current
  | some entry => step current entry

section Visits

variable {entry : Key × Node} {rest : Entries}

/-- The entry of a name is taken in. -/
theorem visit_of_name_eq
    (named : entry.1.name = name)
    (current : α) :
    visit step (entry :: rest) name current = step current entry := by
  simp [visit, Entries.find?, named]

/-- Entries of other names are passed over. -/
theorem visit_of_name_ne (other : entry.1.name ≠ name) :
    visit step (entry :: rest) name = visit step rest name := by
  funext current
  simp [visit, Entries.find?, other]

/-- A name without an entry changes nothing. -/
theorem visit_of_absent
    (absent : ∀ entry ∈ entries, entry.1.name ≠ name)
    (current : α) :
    visit step entries name current = .ok current := by
  have none : entries.find? name = none := by
    rw [Entries.find?, List.find?_eq_none]
    exact fun entry member same => absent entry member (by simpa using same)
  rw [visit, none]

end Visits

/-- A fold that passes over all entries but those of one name visits this name. -/
theorem foldlM_of_single
    (distinct : (entries.map (·.1.name)).Nodup)
    (passes : ∀ current, ∀ entry ∈ entries, entry.1.name ≠ name ->
      step current entry = .ok current)
    (start : α) :
    entries.foldlM step start = visit step entries name start := by
  induction entries generalizing start with
  | nil => rfl
  | cons entry rest inductionHypothesis =>
      obtain ⟨once, distinct⟩ := List.nodup_cons.mp distinct
      have later := inductionHypothesis distinct fun current other member =>
        passes current other (List.mem_cons_of_mem _ member)
      rw [List.foldlM_cons]
      by_cases named : entry.1.name = name
      · have absent : ∀ other ∈ rest, other.1.name ≠ name := by
          rintro other member rfl
          exact once (List.mem_map.mpr ⟨other, member, named.symm⟩)
        simp only [visit_of_name_eq named, later, visit_of_absent absent]
        exact bind_pure _
      · rw [passes start entry List.mem_cons_self named, visit_of_name_ne named]
        exact later start

/-- A fold over sorted entries that passes over all but those of two names visits these names in
their order. -/
theorem foldlM_of_pair
    {first second : String}
    (smaller : ¬second ≤ first)
    (ordered : entries.Pairwise fun left right => left.1.name ≤ right.1.name)
    (distinct : (entries.map (·.1.name)).Nodup)
    (passes : ∀ current, ∀ entry ∈ entries, entry.1.name ≠ first -> entry.1.name ≠ second ->
      step current entry = .ok current)
    (start : α) :
    entries.foldlM step start =
      visit step entries first start >>= visit step entries second := by
  induction entries generalizing start with
  | nil => rfl
  | cons entry rest inductionHypothesis =>
      obtain ⟨once, distinctRest⟩ := List.nodup_cons.mp distinct
      obtain ⟨least, ordered⟩ := List.pairwise_cons.mp ordered
      rw [List.foldlM_cons]
      by_cases isFirst : entry.1.name = first
      · -- The first name is not there again, so that of the rest only the second one counts.
        have single := foldlM_of_single distinctRest fun current other member different =>
          passes current other (List.mem_cons_of_mem _ member)
            (fun same => once (List.mem_map.mpr ⟨other, member, same.trans isFirst.symm⟩)) different
        have apart : entry.1.name ≠ second := fun same =>
          smaller (le_of_eq (same.symm.trans isFirst))
        rw [visit_of_name_eq isFirst]
        simp only [visit_of_name_ne apart, single]
      · by_cases isSecond : entry.1.name = second
        · -- Names after the second one are greater than the first one.
          have absent : ∀ other ∈ entry :: rest, other.1.name ≠ first := by
            intro other member same
            obtain rfl | later := List.mem_cons.mp member
            · exact isFirst same
            · exact smaller (isSecond ▸ same ▸ least other later)
          have single := foldlM_of_single distinct fun current other member different =>
            passes current other member (absent other member) different
          rw [← List.foldlM_cons, single, visit_of_absent absent]
          rfl
        · rw [passes start entry List.mem_cons_self isFirst isSecond, visit_of_name_ne isFirst,
            visit_of_name_ne isSecond]
          exact inductionHypothesis ordered distinctRest
            (fun current other member => passes current other (List.mem_cons_of_mem _ member)) start

end Folds

/-! ## One setting -/

/-- The value of a name in a table. -/
def inside? (name : String) : Node -> Option Node
  | .table _ _ entries => (Entries.find? entries name).map (·.2)
  | _ => none

/-- The value of a setting in a part of a document. -/
def settingAt? (part name : String) (entries : Entries) : Option Node :=
  (entries.find? part).bind fun entry => inside? name entry.2

/-- A setting stands in the part that its path names. -/
theorem exists_mem_of_settingAt
    {part : String}
    {node : Node}
    (known : settingAt? part name entries = some node) :
    ∃ entry ∈ entries, entry.1.name = part ∧ inside? name entry.2 = some node := by
  obtain ⟨entry, found, inside⟩ := Option.bind_eq_some_iff.mp known
  obtain ⟨member, named⟩ := Entries.mem_of_find found
  exact ⟨entry, member, named, inside⟩

/-- Read a setting that may be absent. -/
def readSetting {α : Type} (read : Node -> Reading α) : Option Node -> Reading (Option α)
  | none => .ok none
  | some node => some <$> read node

/-- Whether a value counts as a table: a date or time does. -/
def IsMap : Node -> Prop
  | .table _ _ _ => True
  | .moment _ _ => True
  | _ => False

/-- A value that nobody asks for is passed over if its numbers have values. -/
theorem ignore_of_valued {node : Node} (valued : node.numbersHaveValues = true) :
    ignore node = .ok () := by
  rw [ignore, if_pos valued]

theorem valued_of_mem
    {entry : Key × Node}
    (valued : Node.numbersHaveValues.inEntries entries = true)
    (member : entry ∈ entries) :
    entry.2.numbersHaveValues = true := by
  rw [numbersHaveValues_eq_all, List.all_eq_true] at valued
  exact valued entry member

/-- What a table comes to is what its one setting comes to. -/
theorem settingOf_eq_readSetting
    {α : Type}
    {read : Node -> Reading α}
    {node : Node}
    (expected : Expected)
    (isMap : IsMap node)
    (regular : node.Regular)
    (valued : node.numbersHaveValues = true) :
    settingOf expected name read node = readSetting read (inside? name node) := by
  cases node with
  | table span origin entries =>
      have distinct := (Entries.regular_of_table regular).distinct
      have permuted := Entries.sorted_perm entries
      rw [settingOf, settingIn, inside?,
        @foldlM_of_single _ name _ _ ((permuted.map _).nodup_iff.mpr distinct), visit,
        ← Entries.find?_perm distinct permuted.symm]
      · cases found : Entries.find? entries name with
        | none => rfl
        | some entry =>
            have named : entry.1.name = name := (Entries.mem_of_find found).2
            simp [named, readSetting]
      · rintro setting ⟨key, node⟩ member other
        have own := valued_of_mem valued (mem_sorted.mp member)
        dsimp only at own other ⊢
        rw [if_neg (by simpa using other), ignore_of_valued own]
        rfl
  | moment span written => rfl
  | _ => exact isMap.elim

/-! ## Both settings -/

/-- The configuration that the values of both settings describe. -/
def ofSettings (level? pattern? : Option Node) : Reading Config := do
  let level ← readSetting levelOf level?
  let pattern ← readSetting patternOf pattern?
  return ⟨level.getD defaultLogLevel, pattern⟩

/-- Entries in which both parts that hold settings count as tables. -/
def Sectioned (entries : Entries) : Prop :=
  ∀ entry ∈ entries, entry.1.name = "general" ∨ entry.1.name = "versioning" -> IsMap entry.2

/-- Take in one entry of a document. -/
def takeEntry (config : Config) (entry : Key × Node) : Reading Config :=
  readPart config entry.1 entry.2

/-- The entries of a document are taken in one by one, in the order of their names. -/
theorem ofEntries_eq_foldlM (entries : Entries) :
    ofEntries entries = entries.sorted.foldlM takeEntry default := rfl

/-- Of the general settings only the level is read, and the others are passed over. -/
theorem takeEntry_general
    {entry : Key × Node}
    (named : entry.1.name = "general")
    (isMap : IsMap entry.2)
    (regular : entry.2.Regular)
    (valued : entry.2.numbersHaveValues = true)
    (current : Config) :
    takeEntry current entry = do
      let level ← readSetting levelOf (inside? "log_level" entry.2)
      return { current with logLevel := level.getD defaultLogLevel } := by
  rw [takeEntry, readPart, named, if_pos (by decide),
    settingOf_eq_readSetting _ isMap regular valued]

/-- Of the settings for versions only the pattern is read, and the others are passed over. -/
theorem takeEntry_versioning
    {entry : Key × Node}
    (named : entry.1.name = "versioning")
    (isMap : IsMap entry.2)
    (regular : entry.2.Regular)
    (valued : entry.2.numbersHaveValues = true)
    (current : Config) :
    takeEntry current entry = do
      let pattern? ← readSetting patternOf (inside? "pattern" entry.2)
      return { current with pattern? } := by
  rw [takeEntry, readPart, named, if_neg (by decide), if_pos (by decide),
    settingOf_eq_readSetting _ isMap regular valued]

/-- Every other part is passed over. -/
theorem takeEntry_other
    {entry : Key × Node}
    (other : entry.1.name ≠ "general" ∧ entry.1.name ≠ "versioning")
    (valued : entry.2.numbersHaveValues = true)
    (current : Config) :
    takeEntry current entry = .ok current := by
  rw [takeEntry, readPart, if_neg (by simpa using other.1), if_neg (by simpa using other.2),
    ignore_of_valued valued]
  rfl

/-- Whatever else a document says, and in whatever order, the values of both settings decide what
it describes. -/
theorem ofEntries_eq_ofSettings
    (regular : entries.Regular)
    (valued : Node.numbersHaveValues.inEntries entries = true)
    (sectioned : Sectioned entries) :
    ofEntries entries =
      ofSettings (settingAt? "general" "log_level" entries)
        (settingAt? "versioning" "pattern" entries) := by
  have permuted := entries.sorted_perm
  have distinct : (entries.sorted.map (·.1.name)).Nodup :=
    (permuted.map _).nodup_iff.mpr regular.distinct
  have ordered := entries.pairwise_sorted
  have known (entry : Key × Node) (member : entry ∈ entries.sorted) :
      entry.2.numbersHaveValues = true :=
    valued_of_mem valued (permuted.mem_iff.mp member)
  rw [ofEntries_eq_foldlM, @foldlM_of_pair _ _ _ "general" "versioning" (by decide) ordered
    distinct (fun current entry member general versioning =>
      takeEntry_other ⟨general, versioning⟩ (known entry member) current)]
  have first : visit takeEntry entries.sorted "general" default = do
        let level ← readSetting levelOf (settingAt? "general" "log_level" entries)
        return { default with logLevel := level.getD defaultLogLevel } := by
    rw [visit, settingAt?, Entries.find?_perm distinct permuted]
    cases found : entries.find? "general" with
    | none => rfl
    | some entry =>
        obtain ⟨member, named⟩ := Entries.mem_of_find found
        exact takeEntry_general named (sectioned entry member (.inl named))
          (regular.each entry member) (valued_of_mem valued member) default
  have second (current : Config) (unset : current.pattern? = none) :
      visit takeEntry entries.sorted "versioning" current = do
        let pattern? ← readSetting patternOf (settingAt? "versioning" "pattern" entries)
        return { current with pattern? } := by
    rw [visit, settingAt?, Entries.find?_perm distinct permuted]
    cases found : entries.find? "versioning" with
    | none =>
        obtain ⟨level, pattern?⟩ := current
        cases unset
        rfl
    | some entry =>
        obtain ⟨member, named⟩ := Entries.mem_of_find found
        exact takeEntry_versioning named (sectioned entry member (.inr named))
          (regular.each entry member) (valued_of_mem valued member) current
  rw [first, ofSettings, bind_assoc]
  simp only [pure_bind, second _ (rfl : ({ default with logLevel := _ } : Config).pattern? = none)]

end Config
end PathVersions
