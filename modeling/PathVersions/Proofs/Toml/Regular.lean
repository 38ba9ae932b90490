import PathVersions.Proofs.Number.Canonical
import PathVersions.Proofs.Toml.Keeping

/-!
# Documents name every entry once

Whatever statements a document has, no table in it has two entries of one name: an entry is only
added under a name that its table does not have, and otherwise a value is changed in its place. Nor
does it hold any number but those that decimals are read as.
-/

namespace PathVersions
namespace Toml

/-- Values as documents can have them: no table has two entries of one name, and floats are
canonical. -/
inductive Node.Regular : Node -> Prop
  | text (span : Span) (content : String) : Regular (.text span content)
  | integer (span : Span) (value? : Option Int) : Regular (.integer span value?)
  | float (span : Span) {value? : Option Number.Binary64} :
      (∀ value, value? = some value -> value.Canonical) -> Regular (.float span value?)
  | boolean (span : Span) (truth : Bool) : Regular (.boolean span truth)
  | moment (span : Span) (written : String) : Regular (.moment span written)
  | array (span : Span) (origin : ArrayOrigin) {items : List Node} :
      (∀ item ∈ items, Regular item) -> Regular (.array span origin items)
  | table (span : Span) (origin : TableOrigin) {entries : Entries} :
      (entries.map (·.1.name)).Nodup -> (∀ entry ∈ entries, Regular entry.2) ->
        Regular (.table span origin entries)

/-- A float in a document has the one form of its value. -/
theorem Node.Regular.canonical
    {span : Span}
    {value : Number.Binary64}
    (regular : Node.Regular (.float span (some value))) :
    value.Canonical := by
  cases regular with
  | float _ canonical => exact canonical value rfl

/-- Entries of a table as documents can have it. -/
structure Entries.Regular (entries : Entries) : Prop where
  distinct : (entries.map (·.1.name)).Nodup
  each : ∀ entry ∈ entries, entry.2.Regular

/-- An extension that leaves entries as documents can have them. -/
def Extension.Regular (extension : Extension) : Prop :=
  ∀ origin entries after, extension origin entries = some after ->
    entries.Regular -> after.Regular

/-! ## Entries -/

namespace Entries

variable {entries after : Entries} {key : Key} {node : Node} {name : String}

theorem regular_nil : Entries.Regular [] := ⟨List.nodup_nil, by simp⟩

/-- The entries of a document make a table of it. -/
theorem Regular.table
    (regular : entries.Regular)
    (span : Span)
    (origin : TableOrigin) :
    Node.Regular (.table span origin entries) :=
  .table span origin regular.distinct regular.each

/-- The entries of a table are as documents can have them. -/
theorem regular_of_table
    {span : Span}
    {origin : TableOrigin}
    (regular : Node.Regular (.table span origin entries)) :
    entries.Regular := by
  cases regular with
  | table _ _ distinct each => exact ⟨distinct, each⟩

/-- Each item of an array is as documents can have it. -/
theorem each_of_array
    {span : Span}
    {origin : ArrayOrigin}
    {items : List Node}
    (regular : Node.Regular (.array span origin items)) :
    ∀ item ∈ items, item.Regular := by
  cases regular with
  | array _ _ each => exact each

/-- What is found under a name is as documents can have it. -/
theorem Regular.of_find
    (regular : entries.Regular)
    (found : entries.find? name = some (key, node)) :
    node.Regular :=
  regular.each _ (mem_of_find found).1

/-- An entry under a new name takes no name twice. -/
theorem Regular.append
    (regular : entries.Regular)
    (absent : entries.find? key.name = none)
    (added : node.Regular) :
    Entries.Regular (entries ++ [(key, node)]) where
  distinct := by
    rw [List.map_append, List.map_singleton]
    refine List.nodup_append.mpr ⟨regular.distinct, List.nodup_singleton _, ?_⟩
    intro old present new same
    obtain ⟨entry, member, rfl⟩ := List.mem_map.mp present
    rw [List.mem_singleton.mp same]
    exact name_ne_of_find absent entry member
  each := by
    intro entry member
    obtain old | rfl := (List.mem_append.mp member).imp_right List.mem_singleton.mp
    · exact regular.each entry old
    · exact added

/-- Another value under the same name takes no new name. -/
theorem Regular.replace
    (regular : entries.Regular)
    (changed : node.Regular) :
    (entries.replace name node).Regular where
  distinct := by
    rw [names_replace]
    exact regular.distinct
  each := by
    intro entry member
    obtain old | ⟨_, rfl⟩ := mem_replace member
    · exact regular.each entry old
    · exact changed

/-- Changing the last item of an array leaves the others as they are. -/
theorem regular_changeLast
    {change : Node -> Option Node}
    {items changed : List Node}
    (keeps : ∀ item after, change item = some after -> item.Regular -> after.Regular)
    (done : changeLast? change items = some changed)
    (regular : ∀ item ∈ items, item.Regular) :
    ∀ item ∈ changed, item.Regular := by
  fun_induction changeLast? change items generalizing changed with
  | case1 => contradiction
  | case2 item =>
      obtain ⟨after, replaced, rfl⟩ := Option.map_eq_some_iff.mp done
      simpa using keeps item after replaced (regular item (by simp))
  | case3 item next rest inductionHypothesis =>
      obtain ⟨others, replaced, rfl⟩ := Option.map_eq_some_iff.mp done
      have same := inductionHypothesis replaced fun other member =>
        regular other (List.mem_cons_of_mem _ member)
      intro other member
      obtain rfl | later := List.mem_cons.mp member
      · exact regular other (by simp)
      · exact same other later

/-! ## Extensions -/

variable {dotted : Bool} {extension : Extension} {path : List Key}

/-- An entry is only added if its name is free. -/
theorem regular_add (added : node.Regular) : Extension.Regular (add dotted key node) := by
  intro origin entries after done regular
  simp only [add] at done
  split_ifs at done with apart present
  cases done
  exact regular.append (by simpa using present) added

/-- A header makes a table under a free name, or goes on with one that is there. -/
theorem regular_place (placed : node.Regular) : Extension.Regular (place key node) := by
  intro origin entries after done regular
  simp only [place] at done
  split_ifs at done with present
  · cases done
    exact regular.replace placed
  · cases done
    exact regular.append (by simpa using present) placed

/-- A header of an array adds one more item to it, or starts the array. -/
theorem regular_append
    (span : Span)
    (appended : node.Regular) :
    Extension.Regular (append key span node) := by
  intro origin entries after done regular
  simp only [append] at done
  split at done
  · rename_i absent
    cases done
    exact regular.append absent (.array span .headers (by simpa using appended))
  · rename_i outer items found
    cases done
    refine regular.replace (.array _ .headers ?_)
    have old := each_of_array (regular.of_find found)
    intro item member
    obtain present | rfl := (List.mem_append.mp member).imp_right List.mem_singleton.mp
    · exact old item present
    · exact appended
  · contradiction

/-- Extending a table that a path leads to is no different from extending the whole. -/
theorem regular_descend
    (keeps : Extension.Regular extension) :
    Extension.Regular (descend dotted extension path) := by
  intro origin entries after done regular
  fun_induction descend dotted extension path origin entries generalizing after with
  | case1 origin entries => exact keeps origin entries after done regular
  | case2 key path _ entries absent origin inductionHypothesis =>
      obtain ⟨inner, extended, same⟩ := Option.bind_eq_some_iff.mp done
      cases same
      exact regular.append absent ((inductionHypothesis inner extended regular_nil).table _ _)
  | case3 => contradiction
  | case4 key path _ entries _ span origin inner found _ inductionHypothesis =>
      obtain ⟨extended, reached, same⟩ := Option.bind_eq_some_iff.mp done
      cases same
      have old := regular_of_table (regular.of_find found)
      exact regular.replace ((inductionHypothesis extended reached old).table _ _)
  | case5 key path _ entries _ span items found inductionHypothesis =>
      obtain ⟨changed, reached, same⟩ := Option.bind_eq_some_iff.mp done
      cases same
      refine regular.replace (.array _ .headers ?_)
      refine regular_changeLast ?_ reached (each_of_array (regular.of_find found))
      intro item after replaced own
      cases item with
      | table span origin inner =>
          obtain ⟨extended, within, same⟩ := Option.bind_eq_some_iff.mp replaced
          cases same
          exact (inductionHypothesis _ _ _ within (regular_of_table own)).table _ _
      | _ => contradiction
  | case6 => contradiction

/-- An entry that is reached by a dotted key adds to tables only. -/
theorem Regular.assign
    (regular : entries.Regular)
    (added : node.Regular)
    (done : entries.assign path key node = some after) :
    after.Regular :=
  regular_descend (regular_add added) _ _ _ done regular

end Entries

/-! ## Values -/

/-- A reader of values as documents can have them. -/
def ValueReader.Regular (reader : ValueReader) : Prop :=
  ∀ text node rest, reader text = some (node, rest) -> node.Regular

variable {reader : ValueReader} {text rest : List Char} {node : Node}

/-- A float with a dot or an exponent is rounded to a canonical value. -/
theorem canonical_of_float
    {hasSign negative : Bool}
    {written : List Char}
    {value : Number.Binary64}
    (known : Scalar.float? hasSign negative written = some (.float (some value))) :
    value.Canonical := by
  rw [Scalar.float?.eq_def] at known
  dsimp only at known
  split_ifs at known
  obtain ⟨whole, _, known⟩ := Option.bind_eq_some_iff.mp known
  obtain ⟨fraction, _, known⟩ := Option.bind_eq_some_iff.mp known
  obtain ⟨power, _, known⟩ := Option.bind_eq_some_iff.mp known
  simp only [Option.pure_def, Option.some.injEq, Scalar.float.injEq, Option.map_eq_some_iff]
    at known
  obtain ⟨magnitude, decimal, rfl⟩ := known
  exact Number.Magnitude.canonical_ofDecimal decimal

/-- A decimal number is an integer or such a float. -/
theorem canonical_of_decimal
    {written : List Char}
    {value : Number.Binary64}
    (known : Scalar.decimal? written = some (.float (some value))) :
    value.Canonical := by
  have noInteger {hasSign negative : Bool} {body : List Char}
      (known : Scalar.integer? hasSign negative body = some (.float (some value))) :
      value.Canonical := by
    rw [Scalar.integer?] at known
    split_ifs at known
    simp at known
  rw [Scalar.decimal?.eq_def] at known
  dsimp only at known
  split at known
  · contradiction
  · exact noInteger known
  · split_ifs at known
    · simp at known
    · exact canonical_of_float known
    · exact noInteger known

/-- A float without marks is canonical. -/
theorem canonical_of_scalar
    {written : List Char}
    {value : Number.Binary64}
    (known : Scalar.ofText? written = some (.float (some value))) :
    value.Canonical := by
  rw [Scalar.ofText?.eq_def] at known
  split at known
  · simp at known
  · simp at known
  · split at known
    · rw [Scalar.based?] at known
      split_ifs at known
      simp at known
    · exact canonical_of_decimal known
  · split at known
    · simp only [Option.some.injEq, Scalar.float.injEq] at known
      rw [← known]
      trivial
    · simp only [Option.some.injEq, Scalar.float.injEq] at known
      rw [← known]
      trivial
    · exact canonical_of_decimal known

/-- Neither a text nor a number nor a date has entries in it. -/
theorem regular_readScalar : ValueReader.Regular readScalar? := by
  intro text node rest read
  rw [readScalar?] at read
  dsimp only at read
  obtain ⟨scalar, known, read⟩ := Option.bind_eq_some_iff.mp read
  cases scalar with
  | integer value? =>
      cases read
      exact .integer _ _
  | float value? =>
      cases read
      refine .float _ ?_
      rintro value rfl
      exact canonical_of_scalar known
  | boolean truth =>
      cases read
      exact .boolean _ _
  | moment =>
      cases read
      exact .moment _ _

/-- The items of an array are read by the reader of values. -/
theorem regular_readItems
    (values : ValueReader.Regular reader)
    {items : List Node}
    (read : readItems? reader text = some (items, rest)) :
    ∀ item ∈ items, item.Regular := by
  fun_induction readItems? reader text generalizing items with
  | case1 => simp_all
  | case2 => contradiction
  | case3 =>
      rename_i first
      cases read
      simpa using values _ _ _ first
  | case4 =>
      rename_i first inductionHypothesis
      obtain ⟨⟨others, left⟩, goesOn, same⟩ := Option.map_eq_some_iff.mp read
      cases same
      intro other member
      obtain rfl | later := List.mem_cons.mp member
      · exact values _ _ _ first
      · exact inductionHypothesis goesOn other later
  | case5 => contradiction
  | case6 => contradiction

/-- A table on one line is built up entry by entry. -/
theorem regular_readEntries
    (values : ValueReader.Regular reader)
    {entries after : Entries}
    (regular : entries.Regular)
    (read : readEntries? reader entries text = some (after, rest)) :
    after.Regular := by
  fun_induction readEntries? reader entries text with
  | case1 => cases read; exact regular
  | case5 =>
      rename_i first extended assigned left _ _ _
      cases read
      exact regular.assign (values _ _ _ first) assigned
  | case6 =>
      rename_i first extended assigned left _ _ _ _ inductionHypothesis
      exact inductionHypothesis (regular.assign (values _ _ _ first) assigned) read
  | _ => contradiction

/-- A value with values within it is as regular as those. -/
theorem regular_readOuter
    {nested : Option ValueReader}
    (inside : ∀ reader, nested = some reader -> reader.Regular) :
    ValueReader.Regular (readOuter? nested) := by
  have marked (text : List Char) (node : Node) (rest : List Char)
      (read : readOuter?.readMarked text = some (node, rest)) : node.Regular := by
    obtain ⟨_, _, same⟩ := Option.bind_eq_some_iff.mp read
    cases same
    exact .text _ _
  intro text node rest read
  rw [readOuter?.eq_def] at read
  split at read
  · obtain ⟨reader, known, read⟩ := Option.bind_eq_some_iff.mp read
    obtain ⟨_, items, same⟩ := Option.bind_eq_some_iff.mp read
    cases same
    exact .array _ _ (regular_readItems (inside reader known) items)
  · obtain ⟨reader, known, read⟩ := Option.bind_eq_some_iff.mp read
    obtain ⟨_, entries, same⟩ := Option.bind_eq_some_iff.mp read
    cases same
    exact (regular_readEntries (inside reader known) Entries.regular_nil entries).table _ _
  · exact marked _ _ _ read
  · exact marked _ _ _ read
  · exact regular_readScalar _ _ _ read

/-- This holds at every depth, by induction on how much deeper values may go. -/
theorem regular_readNested (depth : Nat) : ValueReader.Regular (readNested? depth) := by
  induction depth with
  | zero => exact regular_readOuter (by simp)
  | succ depth inductionHypothesis =>
      apply regular_readOuter
      rintro reader ⟨⟩
      exact inductionHypothesis

theorem regular_readValue : ValueReader.Regular readValue? := regular_readNested nestingLimit

/-! ## Documents -/

/-- A statement whose value is as documents can have it. -/
def Statement.Regular : Statement -> Prop
  | .entry _ _ node => node.Regular
  | _ => True

/-- A statement has at most one value. -/
theorem regular_readStatement
    {statement : Statement}
    (read : readStatement? text = some (statement, rest)) :
    statement.Regular := by
  rw [readStatement?.eq_def] at read
  split at read
  · obtain ⟨_, _, read⟩ := Option.bind_eq_some_iff.mp read
    dsimp only at read
    split at read
    · cases read
      trivial
    · contradiction
  · obtain ⟨_, _, read⟩ := Option.bind_eq_some_iff.mp read
    dsimp only at read
    split at read
    · cases read
      trivial
    · contradiction
  · obtain ⟨_, _, read⟩ := Option.bind_eq_some_iff.mp read
    dsimp only at read
    split at read
    · obtain ⟨_, value, same⟩ := Option.bind_eq_some_iff.mp read
      cases same
      exact regular_readValue _ _ _ value
    · contradiction

theorem regular_readStatements
    {statements : List Statement}
    (read : readStatements? text = some statements) :
    ∀ statement ∈ statements, statement.Regular := by
  fun_induction readStatements? text generalizing statements with
  | case1 =>
      cases read
      simp
  | case4 =>
      rename_i first inductionHypothesis
      obtain ⟨others, goesOn, rfl⟩ := Option.map_eq_some_iff.mp read
      intro other member
      obtain rfl | later := List.mem_cons.mp member
      · exact regular_readStatement first
      · exact inductionHypothesis goesOn other later
  | _ => contradiction

namespace Building

/-- A document as far as it is built, with all its entries as documents can have them. -/
structure Regular (building : Building) : Prop where
  finished : building.finished.Regular
  latest : match building.latest with
    | .whole => True
    | .table _ _ _ entries => entries.Regular
    | .item _ _ _ entries => entries.Regular

variable {building later : Building} {statement : Statement} {entries finished : Entries}

/-- Where a statement leads to is found in what has been built so far. -/
theorem regular_found
    {path : List Key}
    {key : Key}
    (regular : finished.Regular)
    (found : add?.found finished path key = some entries) :
    entries.Regular := by
  induction path generalizing finished with
  | nil =>
      simp only [add?.found, Entries.opened] at found
      split at found
      · cases found
        exact Entries.regular_nil
      · rename_i present
        cases found
        exact Entries.regular_of_table (regular.of_find present)
      · contradiction
  | cons outer path inductionHypothesis =>
      simp only [add?.found] at found
      split at found
      · cases found
        exact Entries.regular_nil
      · rename_i present
        split_ifs at found
        exact inductionHypothesis (Entries.regular_of_table (regular.of_find present)) found
      · rename_i present
        split at found
        · rename_i last
          have each := Entries.each_of_array (regular.of_find present)
          exact inductionHypothesis
            (Entries.regular_of_table (each _ (List.mem_of_getLast? last))) found
        · contradiction
      · contradiction

/-- Putting the last table back in its place is an extension like any other. -/
theorem Regular.close
    (regular : building.Regular)
    (closed : building.close? = some entries) :
    entries.Regular := by
  obtain ⟨finished, latest⟩ := building
  cases latest with
  | whole =>
      cases closed
      exact regular.finished
  | table span path key inner =>
      exact Entries.regular_descend
        (Entries.regular_place (Entries.Regular.table regular.latest _ _)) _ _ _ closed
        regular.finished
  | item span path key inner =>
      exact Entries.regular_descend
        (Entries.regular_append span (Entries.Regular.table regular.latest _ _)) _ _ _ closed
        regular.finished

/-- Taking in a statement leaves what is built as documents can have it. -/
theorem Regular.add
    (regular : building.Regular)
    (own : statement.Regular)
    (added : building.add? statement = some later) :
    later.Regular := by
  cases statement with
  | header span path key =>
      obtain ⟨finished, closed, opened⟩ := Option.bind_eq_some_iff.mp added
      obtain ⟨entries, found, same⟩ := Option.bind_eq_some_iff.mp opened
      cases same
      exact ⟨regular.close closed, regular_found (regular.close closed) found⟩
  | arrayHeader span path key =>
      obtain ⟨finished, closed, opened⟩ := Option.bind_eq_some_iff.mp added
      obtain ⟨_, _, same⟩ := Option.bind_eq_some_iff.mp opened
      cases same
      exact ⟨regular.close closed, Entries.regular_nil⟩
  | entry path key node =>
      obtain ⟨finished, latest⟩ := building
      cases latest with
      | whole =>
          obtain ⟨extended, done, same⟩ := Option.bind_eq_some_iff.mp added
          cases same
          exact ⟨regular.finished.assign own done, trivial⟩
      | table span outer name entries =>
          obtain ⟨extended, done, same⟩ := Option.bind_eq_some_iff.mp added
          cases same
          exact ⟨regular.finished, Entries.Regular.assign regular.latest own done⟩
      | item span outer name entries =>
          obtain ⟨extended, done, same⟩ := Option.bind_eq_some_iff.mp added
          cases same
          exact ⟨regular.finished, Entries.Regular.assign regular.latest own done⟩

/-- Statement by statement, what is built stays as documents can have it. -/
theorem Regular.run
    {statements : List Statement}
    (regular : building.Regular)
    (own : ∀ statement ∈ statements, statement.Regular)
    (run : statements.foldlM add? building = some later) :
    later.Regular := by
  induction statements generalizing building with
  | nil =>
      cases run
      exact regular
  | cons statement rest inductionHypothesis =>
      rw [List.foldlM_cons] at run
      obtain ⟨next, added, goesOn⟩ := Option.bind_eq_some_iff.mp run
      exact inductionHypothesis (regular.add (own statement (by simp)) added)
        (fun other member => own other (List.mem_cons_of_mem _ member)) goesOn

end Building

/-- No table of a document has two entries of one name, and all its floats are canonical. -/
theorem regular_of_read
    {document : List Char}
    {entries : Entries}
    (read : read? document = some entries) :
    entries.Regular := by
  obtain ⟨statements, known, read⟩ := Option.bind_eq_some_iff.mp read
  obtain ⟨building, run, closed⟩ := Option.bind_eq_some_iff.mp read
  have start : Building.Regular .start := ⟨Entries.regular_nil, trivial⟩
  exact (start.run (regular_readStatements known) run).close closed

end Toml
end PathVersions
