import Mathlib.Data.List.Nodup
import PathVersions.Command.Registry

/-!
# Tables without an order

A table of values under names is known by what is found in it. As long as no name stands in it
twice, the order of its entries makes no difference to that, and changing the value of a name
changes nothing else.
-/

namespace PathVersions
namespace NameMap

variable {α : Type}

/-- No name stands in a table twice. -/
def Distinct (table : NameMap α) : Prop := (names table).Nodup

@[simp] theorem names_nil : names ([] : NameMap α) = [] := rfl

@[simp] theorem names_cons (name : String) (value : α) (rest : NameMap α) :
    names ((name, value) :: rest) = name :: names rest := rfl

/-- The first entry of a name counts. -/
theorem find?_cons (name other : String) (value : α) (rest : NameMap α) :
    find? name ((other, value) :: rest) = if other = name then some value else find? name rest := by
  simp [find?]

/-- Nothing is found exactly if the name is not there. -/
theorem find?_eq_none_iff (name : String) (table : NameMap α) :
    find? name table = none ↔ name ∉ names table := by
  induction table with
  | nil => simp [find?]
  | cons entry rest inductionHypothesis =>
      obtain ⟨other, value⟩ := entry
      rw [find?_cons, names_cons, List.mem_cons, not_or, ← inductionHypothesis]
      by_cases same : other = name
      · simp [same]
      · simp [same, Ne.symm same]

/-- What is found is there. -/
theorem mem_of_find?
    {name : String}
    {value : α}
    {table : NameMap α}
    (found : find? name table = some value) :
    (name, value) ∈ table := by
  induction table with
  | nil => simp [find?] at found
  | cons entry rest inductionHypothesis =>
      obtain ⟨other, first⟩ := entry
      rw [find?_cons] at found
      by_cases same : other = name
      · rw [if_pos same, Option.some.injEq] at found
        simp [same, found]
      · rw [if_neg same] at found
        exact List.mem_cons_of_mem _ (inductionHypothesis found)

theorem mem_names_of_mem
    {name : String}
    {value : α}
    {table : NameMap α}
    (member : (name, value) ∈ table) :
    name ∈ names table :=
  List.mem_map_of_mem (f := Prod.fst) member

/-- With no name twice, all that is there is found. -/
theorem Distinct.find?_eq_some_iff
    {table : NameMap α}
    (distinct : Distinct table)
    (name : String)
    (value : α) :
    find? name table = some value ↔ (name, value) ∈ table := by
  refine ⟨mem_of_find?, fun member => ?_⟩
  cases found : find? name table with
  | none => exact absurd (mem_names_of_mem member) ((find?_eq_none_iff name table).mp found)
  | some other =>
      have same : (name, other) = (name, value) :=
        List.inj_on_of_nodup_map distinct (mem_of_find? found) member rfl
      rw [(Prod.mk.inj same).2]

/-- In what order a table holds its entries makes no difference to what is found in it. -/
theorem Distinct.find?_perm
    {table other : NameMap α}
    (distinct : Distinct table)
    (reordered : List.Perm table other)
    (name : String) :
    find? name other = find? name table := by
  have otherDistinct : Distinct other := (reordered.map Prod.fst).nodup distinct
  ext value
  rw [otherDistinct.find?_eq_some_iff, distinct.find?_eq_some_iff, reordered.mem_iff]

/-! ## Changing a value -/

/-- An update changes what is found under its name only. -/
theorem find?_update
    (name other : String)
    (change : Option α -> α)
    (table : NameMap α) :
    find? other (update name change table) =
      if name = other then some (change (find? name table)) else find? other table := by
  induction table with
  | nil => simp [update, find?]
  | cons entry rest inductionHypothesis =>
      obtain ⟨first, value⟩ := entry
      rw [update]
      by_cases same : first = name
      · subst same
        simp only [beq_self_eq_true, if_true, find?_cons]
        split <;> rfl
      · rw [if_neg (by simpa using same), find?_cons, inductionHypothesis, find?_cons, find?_cons,
          if_neg same]
        by_cases asked : name = other
        · subst asked
          rw [if_neg same, if_pos rfl, if_pos rfl]
        · rw [if_neg asked, if_neg asked]

/-- An update adds its name at the end, unless it is there. -/
theorem names_update
    (name : String)
    (change : Option α -> α)
    (table : NameMap α) :
    names (update name change table) =
      if name ∈ names table then names table else names table ++ [name] := by
  induction table with
  | nil => rfl
  | cons entry rest inductionHypothesis =>
      obtain ⟨first, value⟩ := entry
      rw [update]
      by_cases same : first = name
      · simp [same]
      · rw [if_neg (by simpa using same), names_cons, inductionHypothesis, names_cons]
        by_cases known : name ∈ names rest
        · simp [known]
        · simp [known, Ne.symm same]

/-- No update makes a name appear twice. -/
theorem Distinct.update
    {table : NameMap α}
    (distinct : Distinct table)
    (name : String)
    (change : Option α -> α) :
    Distinct (update name change table) := by
  rw [Distinct, names_update]
  split
  · exact distinct
  · rename_i unknown
    rw [← List.concat_eq_append]
    exact List.Nodup.concat unknown distinct

/-- The entries of a changed table are entries that were there, and the changed one. -/
theorem mem_update
    {name : String}
    {change : Option α -> α}
    {table : NameMap α}
    {entry : String × α}
    (member : entry ∈ update name change table) :
    entry ∈ table ∨ entry = (name, change (find? name table)) := by
  induction table with
  | nil => simpa [update, find?] using member
  | cons first rest inductionHypothesis =>
      obtain ⟨other, value⟩ := first
      rw [update] at member
      by_cases same : other = name
      · rw [if_pos (by simpa using same), List.mem_cons] at member
        rw [find?_cons, if_pos same]
        obtain changed | kept := member
        · exact .inr changed
        · exact .inl (List.mem_cons_of_mem _ kept)
      · rw [if_neg (by simpa using same), List.mem_cons] at member
        rw [find?_cons, if_neg same]
        obtain rfl | deeper := member
        · exact .inl List.mem_cons_self
        · exact (inductionHypothesis deeper).imp_left (List.mem_cons_of_mem _)

end NameMap
end PathVersions
