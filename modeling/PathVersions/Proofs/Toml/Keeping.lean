import PathVersions.Toml.Document

/-!
# What a document has said

The texts of a document, found along paths of names, stay as they are whatever statements follow:
entries are added under new names only, and a table that is opened again is extended. So what a
document says can be read off its first statements.
-/

namespace PathVersions
namespace Toml

/-- Entries of which some have a name, all of them with a property of their values. -/
structure Entries.Holds (entries : Entries) (name : String) (property : Node -> Prop) : Prop where
  found : ∃ entry ∈ entries, entry.1.name = name
  all : ∀ entry ∈ entries, entry.1.name = name -> property entry.2

/-- Whether a path of names leads from a value through tables to a text. -/
def Node.Says (content : String) : List String -> Node -> Prop
  | [], .text _ own => own = content
  | name :: path, .table _ _ entries => Entries.Holds entries name (Node.Says content path)
  | _, _ => False

/-- Whether every text in a value is also in another one. -/
def Node.Keeps (before after : Node) : Prop :=
  ∀ content path, before.Says content path -> after.Says content path

/-- Whether every text in the values of entries is also in those of other ones. -/
def Entries.Keeps (before after : Entries) : Prop :=
  ∀ content name path,
    before.Holds name (Node.Says content path) -> after.Holds name (Node.Says content path)

/-! ## Entries -/

namespace Entries

variable {entries before after : Entries} {key : Key} {node : Node} {name : String}

theorem Keeps.refl (entries : Entries) : entries.Keeps entries :=
  fun _ _ _ holds => holds

/-- What is kept over two stretches is kept over both. -/
theorem Keeps.trans
    {middle : Entries}
    (first : before.Keeps middle)
    (second : middle.Keeps after) :
    before.Keeps after :=
  fun content name path holds => second content name path (first content name path holds)

/-- A table keeps what its entries keep, however it came about. -/
theorem Keeps.table
    (keeps : before.Keeps after)
    (span span' : Span)
    (origin origin' : TableOrigin) :
    Node.Keeps (.table span origin before) (.table span' origin' after) := by
  intro content path said
  cases path with
  | nil => exact said.elim
  | cons name path => exact keeps content name path said

/-- Nothing is said of arrays, since no setting is in one. -/
theorem keeps_array
    (span : Span)
    (origin : ArrayOrigin)
    (items : List Node)
    (other : Node) :
    Node.Keeps (.array span origin items) other := by
  intro content path said
  cases path <;> exact said.elim

theorem mem_of_find
    (found : entries.find? name = some (key, node)) :
    (key, node) ∈ entries ∧ key.name = name :=
  ⟨List.mem_of_find?_eq_some found, by simpa using List.find?_some found⟩

theorem name_ne_of_find
    (absent : entries.find? name = none) :
    ∀ entry ∈ entries, entry.1.name ≠ name := by
  simpa [Entries.find?] using absent

/-- An entry under a new name takes nothing away. -/
theorem keeps_append
    (absent : entries.find? key.name = none) :
    entries.Keeps (entries ++ [(key, node)]) := by
  rintro content name path ⟨⟨old, member, named⟩, all⟩
  refine ⟨⟨old, by simp [member], named⟩, ?_⟩
  intro entry present same
  rw [List.mem_append, List.mem_singleton] at present
  obtain present | rfl := present
  · exact all entry present same
  · exact absurd (named.trans same.symm) (name_ne_of_find absent old member)

/-- An entry after a replacement was there before or is the new one. -/
theorem mem_replace
    {entry : Key × Node}
    (member : entry ∈ entries.replace name node) :
    entry ∈ entries ∨ (entry.1.name = name ∧ entry.2 = node) := by
  fun_induction replace name node entries with
  | case1 => exact absurd member (by simp)
  | case2 key other rest same =>
      obtain rfl | later := List.mem_cons.mp member
      · exact .inr ⟨by simpa using same, rfl⟩
      · exact .inl (by simp [later])
  | case3 key other rest different inductionHypothesis =>
      obtain rfl | later := List.mem_cons.mp member
      · exact .inl (by simp)
      · exact (inductionHypothesis later).imp_left (List.mem_cons_of_mem _)

theorem names_replace (entries : Entries) (name : String) (node : Node) :
    (entries.replace name node).map (·.1.name) = entries.map (·.1.name) := by
  fun_induction replace name node entries <;> simp_all

/-- A replacement keeps what the old value says, if the new value says it. -/
theorem keeps_replace
    {old : Node}
    (found : entries.find? name = some (key, old))
    (keeps : old.Keeps node) :
    entries.Keeps (entries.replace name node) := by
  rintro content other path ⟨exists_named, all⟩
  obtain ⟨present, same⟩ := mem_of_find found
  refine ⟨?_, ?_⟩
  · have names : other ∈ (entries.replace name node).map (·.1.name) := by
      rw [names_replace]
      simpa using exists_named
    simpa using names
  · intro entry member named
    obtain old | ⟨replaced, rfl⟩ := mem_replace member
    · exact all entry old named
    · exact keeps content path (all (key, _) present (same.trans (replaced.symm.trans named)))

/-- Entries that differ in one value only, which keeps what the other one says. -/
theorem keeps_at
    {old new : Node}
    (front back : Entries)
    (keeps : old.Keeps new) :
    Keeps (front ++ (key, old) :: back) (front ++ (key, new) :: back) := by
  rintro content name path ⟨⟨entry, member, named⟩, all⟩
  simp only [List.mem_append, List.mem_cons] at member all
  refine ⟨?_, ?_⟩
  · obtain before | rfl | after := member
    · exact ⟨entry, by simp [before], named⟩
    · exact ⟨(key, new), by simp, named⟩
    · exact ⟨entry, by simp [after], named⟩
  · intro other present same
    obtain before | rfl | after := by simpa using present
    · exact all other (.inl before) same
    · exact keeps content path (all (key, old) (.inr (.inl rfl)) same)
    · exact all other (.inr (.inr after)) same

/-- Changing the value of a name changes at most one place. -/
theorem replace_shape (entries : Entries) (name : String) :
    (∀ node, entries.replace name node = entries) ∨
      ∃ front key back, ∀ node, entries.replace name node = front ++ (key, node) :: back := by
  induction entries with
  | nil => exact .inl fun _ => rfl
  | cons entry rest inductionHypothesis =>
      obtain ⟨key, other⟩ := entry
      by_cases same : (key.name == name) = true
      · exact .inr ⟨[], key, rest, fun node => by simp [replace, same]⟩
      · obtain unchanged | ⟨front, place, back, changed⟩ := inductionHypothesis
        · exact .inl fun node => by simp [replace, same, unchanged]
        · exact .inr ⟨(key, other) :: front, place, back, fun node => by
            simp [replace, same, changed]⟩

/-- Of two replacements under one name, the second keeps what the first one says. -/
theorem keeps_replace_replace
    {old new : Node}
    (entries : Entries)
    (keeps : old.Keeps new) :
    (entries.replace name old).Keeps (entries.replace name new) := by
  obtain unchanged | ⟨front, key, back, changed⟩ := replace_shape entries name
  · rw [unchanged, unchanged]
    exact Keeps.refl entries
  · rw [changed, changed]
    exact keeps_at front back keeps

end Entries

/-! ## Extensions -/

/-- Whether an extension of entries keeps their texts. -/
def Extension.Keeping (extension : Extension) : Prop :=
  ∀ origin entries after, extension origin entries = some after -> entries.Keeps after

/-- Whether an extension can be done wherever another one can, and the texts it leads to are kept by
the other one. -/
def Extension.Within (early late : Extension) : Prop :=
  ∀ origin entries after, late origin entries = some after ->
    ∃ before, early origin entries = some before ∧ before.Keeps after

namespace Entries

variable {dotted : Bool} {extension early late : Extension} {path : List Key} {key : Key}

/-- Adding an entry fails where its name is taken, and so keeps all others. -/
theorem add_keeping (node : Node) : Extension.Keeping (add dotted key node) := by
  intro origin entries after done
  simp only [add] at done
  split at done
  · contradiction
  · split at done
    · contradiction
    · rename_i absent
      cases done
      exact keeps_append (by simpa using absent)

/-- Adding to an array changes no table. -/
theorem append_keeping (span : Span) (node : Node) : Extension.Keeping (append key span node) := by
  intro origin entries after done
  simp only [append] at done
  split at done
  · rename_i absent
    cases done
    exact keeps_append absent
  · rename_i found
    cases done
    exact keeps_replace found (keeps_array _ _ _ _)
  · contradiction

/-- What an extension keeps in a table, it keeps in all tables around. -/
theorem descend_keeping
    (keeping : Extension.Keeping extension) :
    Extension.Keeping (descend dotted extension path) := by
  intro origin entries after done
  fun_induction descend dotted extension path origin entries generalizing after with
  | case1 origin entries => exact keeping origin entries after done
  | case2 key path _ entries absent origin inductionHypothesis =>
      obtain ⟨inner, _, same⟩ := Option.bind_eq_some_iff.mp done
      cases same
      exact keeps_append absent
  | case3 => contradiction
  | case4 key path _ entries _ span origin inner found open_ inductionHypothesis =>
      obtain ⟨extended, within, same⟩ := Option.bind_eq_some_iff.mp done
      cases same
      exact keeps_replace found ((inductionHypothesis extended within).table _ _ _ _)
  | case5 key path _ entries _ span items found inductionHypothesis =>
      obtain ⟨changed, _, same⟩ := Option.bind_eq_some_iff.mp done
      cases same
      exact keeps_replace found (keeps_array _ _ _ _)
  | case6 => contradiction

theorem changeLast_within
    {early late : Node -> Option Node}
    {items changed : List Node}
    (within : ∀ item after, late item = some after -> ∃ before, early item = some before)
    (done : changeLast? late items = some changed) :
    ∃ before, changeLast? early items = some before := by
  fun_induction changeLast? late items generalizing changed with
  | case1 => contradiction
  | case2 item =>
      obtain ⟨after, replaced, _⟩ := Option.map_eq_some_iff.mp done
      obtain ⟨before, possible⟩ := within item after replaced
      exact ⟨[before], by simp [changeLast?, possible]⟩
  | case3 item next rest inductionHypothesis =>
      obtain ⟨after, replaced, _⟩ := Option.map_eq_some_iff.mp done
      obtain ⟨before, possible⟩ := inductionHypothesis replaced
      exact ⟨item :: before, by simp [changeLast?, possible]⟩

/-- Change what stands in a node, if it is a table. -/
def inTable (change : Extension) : Node -> Option Node
  | .table span origin inner => do return .table span origin (← change origin inner)
  | _ => none

/-- Where a later extension succeeds inside a table, the earlier one does as well. -/
theorem descend_within
    (within : Extension.Within early late) :
    Extension.Within (descend dotted early path) (descend dotted late path) := by
  intro origin entries after done
  fun_induction descend dotted late path origin entries generalizing after with
  | case1 origin entries => exact within origin entries after done
  | case2 key path outer entries absent origin inductionHypothesis =>
      obtain ⟨inner, extended, same⟩ := Option.bind_eq_some_iff.mp done
      cases same
      obtain ⟨before, possible, keeps⟩ := inductionHypothesis inner extended
      refine ⟨entries ++ [(key, .table key.span origin before)], ?_,
        keeps_at entries [] (keeps.table _ _ _ _)⟩
      simp only [descend, absent]
      exact Option.bind_eq_some_iff.mpr ⟨before, possible, rfl⟩
  | case3 => contradiction
  | case4 key path outer entries _ span origin inner found opened inductionHypothesis =>
      obtain ⟨extended, reached, same⟩ := Option.bind_eq_some_iff.mp done
      cases same
      obtain ⟨before, possible, keeps⟩ := inductionHypothesis extended reached
      refine ⟨entries.replace key.name (.table span origin before), ?_,
        keeps_replace_replace entries (keeps.table _ _ _ _)⟩
      simp only [descend, found, opened]
      exact Option.bind_eq_some_iff.mpr ⟨before, possible, rfl⟩
  | case5 key path outer entries _ span items found inductionHypothesis =>
      obtain ⟨changed, reached, same⟩ := Option.bind_eq_some_iff.mp done
      cases same
      have inside (item after : Node)
          (replaced : inTable (descend dotted late path) item = some after) :
          ∃ before, inTable (descend dotted early path) item = some before := by
        cases item with
        | table span origin inner =>
            obtain ⟨extended, reached, _⟩ := Option.bind_eq_some_iff.mp replaced
            obtain ⟨before, possible, _⟩ := inductionHypothesis _ _ _ reached
            exact ⟨.table span origin before, Option.bind_eq_some_iff.mpr ⟨before, possible, rfl⟩⟩
        | _ => contradiction
      obtain ⟨before, possible⟩ := changeLast_within inside reached
      refine ⟨entries.replace key.name (.array span .headers before), ?_,
        keeps_replace_replace entries (keeps_array _ _ _ _)⟩
      simp only [descend, found]
      exact Option.bind_eq_some_iff.mpr ⟨before, possible, rfl⟩
  | case6 => contradiction

/-- A table of more entries can be put where one of fewer can. -/
theorem place_within
    {before after : Entries}
    (span : Span)
    (keeps : before.Keeps after) :
    Extension.Within (place key (.table span .header before))
      (place key (.table span .header after)) := by
  intro origin entries placed done
  simp only [place] at done ⊢
  split at done
  · rename_i present
    cases done
    rw [if_pos present]
    exact ⟨_, rfl, keeps_replace_replace entries (keeps.table _ _ _ _)⟩
  · rename_i absent
    cases done
    rw [if_neg absent]
    exact ⟨_, rfl, keeps_at entries [] (keeps.table _ _ _ _)⟩

/-- Whether an item can be added to an array does not depend on the item. -/
theorem append_within
    (span : Span)
    (before after : Node) :
    Extension.Within (append key span before) (append key span after) := by
  intro origin entries appended done
  simp only [append] at done ⊢
  split at done
  · cases done
    exact ⟨_, rfl, keeps_at entries [] (keeps_array _ _ _ _)⟩
  · cases done
    exact ⟨_, rfl, keeps_replace_replace entries (keeps_array _ _ _ _)⟩
  · contradiction

end Entries

/-! ## Documents -/

namespace Building

variable {building later : Building} {statement : Statement}

/-- A header puts its table where nothing is lost. -/
theorem keeps_of_found
    {span : Span}
    {path : List Key}
    {key : Key}
    {origin : TableOrigin}
    {finished entries after : Entries}
    (found : add?.found finished path key = some entries)
    (placed : Entries.descend false (Entries.place key (.table span .header entries)) path origin
      finished = some after) :
    finished.Keeps after := by
  induction path generalizing origin finished after with
  | nil =>
      simp only [add?.found, Entries.opened] at found
      simp only [Entries.descend, Entries.place] at placed
      split at found
      · rename_i absent
        rw [absent] at placed
        cases placed
        exact Entries.keeps_append absent
      · rename_i present
        rw [present] at placed
        cases found
        cases placed
        exact Entries.keeps_replace present ((Entries.Keeps.refl entries).table _ _ _ _)
      · contradiction
  | cons outer path inductionHypothesis =>
      simp only [add?.found] at found
      simp only [Entries.descend] at placed
      split at found
      · rename_i absent
        rw [absent] at placed
        obtain ⟨inner, _, same⟩ := Option.bind_eq_some_iff.mp placed
        cases same
        exact Entries.keeps_append absent
      · rename_i present
        rw [present] at placed
        split at found
        · contradiction
        · rename_i unbraced
          simp only [unbraced] at placed
          obtain ⟨inner, reached, same⟩ := Option.bind_eq_some_iff.mp placed
          cases same
          exact Entries.keeps_replace present
            ((inductionHypothesis found reached).table _ _ _ _)
      · rename_i present
        rw [present] at placed
        obtain ⟨items, _, same⟩ := Option.bind_eq_some_iff.mp placed
        cases same
        exact Entries.keeps_replace present (Entries.keeps_array _ _ _ _)
      · contradiction

/-- What is built keeps its texts when a statement is taken in. -/
theorem add_keeps
    {after : Entries}
    (added : building.add? statement = some later)
    (closed : later.close? = some after) :
    ∃ before, building.close? = some before ∧ before.Keeps after := by
  cases statement with
  | header span path key =>
      obtain ⟨finished, before, opened⟩ := Option.bind_eq_some_iff.mp added
      obtain ⟨entries, found, same⟩ := Option.bind_eq_some_iff.mp opened
      cases same
      exact ⟨finished, before, keeps_of_found found closed⟩
  | arrayHeader span path key =>
      obtain ⟨finished, before, opened⟩ := Option.bind_eq_some_iff.mp added
      obtain ⟨_, _, same⟩ := Option.bind_eq_some_iff.mp opened
      cases same
      exact ⟨finished, before,
        Entries.descend_keeping (Entries.append_keeping _ _) _ _ _ closed⟩
  | entry path key node =>
      have assigned {entries extended : Entries}
          (done : entries.assign path key node = some extended) :
          entries.Keeps extended :=
        Entries.descend_keeping (Entries.add_keeping node) _ _ _ done
      obtain ⟨finished, latest⟩ := building
      cases latest with
      | whole =>
          obtain ⟨extended, done, same⟩ := Option.bind_eq_some_iff.mp added
          cases same
          cases closed
          exact ⟨finished, rfl, assigned done⟩
      | table span outer name entries =>
          obtain ⟨extended, done, same⟩ := Option.bind_eq_some_iff.mp added
          cases same
          exact Entries.descend_within (Entries.place_within span (assigned done)) _ _ _ closed
      | item span outer name entries =>
          obtain ⟨extended, done, same⟩ := Option.bind_eq_some_iff.mp added
          cases same
          exact Entries.descend_within (Entries.append_within span _ _) _ _ _ closed

/-- What is built keeps its texts whatever statements follow. -/
theorem run_keeps
    {statements : List Statement}
    {after : Entries}
    (run : statements.foldlM add? building = some later)
    (closed : later.close? = some after) :
    ∃ before, building.close? = some before ∧ before.Keeps after := by
  induction statements generalizing building with
  | nil =>
      cases run
      exact ⟨after, closed, Entries.Keeps.refl after⟩
  | cons statement rest inductionHypothesis =>
      rw [List.foldlM_cons] at run
      obtain ⟨next, added, goesOn⟩ := Option.bind_eq_some_iff.mp run
      obtain ⟨middle, reached, kept⟩ := inductionHypothesis goesOn
      obtain ⟨before, known, keeps⟩ := add_keeps added reached
      exact ⟨before, known, keeps.trans kept⟩

end Building

/-- A document keeps the texts of its first statements. -/
theorem ofStatements_append
    {first more : List Statement}
    {after : Entries}
    (read : ofStatements? (first ++ more) = some after) :
    ∃ before, ofStatements? first = some before ∧ before.Keeps after := by
  obtain ⟨later, run, closed⟩ := Option.bind_eq_some_iff.mp read
  rw [List.foldlM_append] at run
  obtain ⟨building, start, goesOn⟩ := Option.bind_eq_some_iff.mp run
  obtain ⟨before, known, keeps⟩ := Building.run_keeps goesOn closed
  exact ⟨before, Option.bind_eq_some_iff.mpr ⟨building, start, known⟩, keeps⟩

end Toml
end PathVersions
