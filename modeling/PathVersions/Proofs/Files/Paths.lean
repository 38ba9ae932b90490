import PathVersions.Files.Tree
import Mathlib.Data.List.Basic

/-!
# Names on paths

A path is absolute or not, and otherwise comes down to the names between its separators, of which
several in a row count as one. Joining a path to another one goes on with the names of the other.
Only a path that is not absolute leads to different places from different working directories.
-/

namespace PathVersions
namespace Files

/-- Whether a path starts at the root. -/
def IsAbsolute (path : RawText) : Prop := path.bytes.head? = some separator

instance (path : RawText) : Decidable (IsAbsolute path) :=
  inferInstanceAs (Decidable (path.bytes.head? = some separator))

/-- The names on a path. -/
def namesOf (path : RawText) : List (List UInt8) :=
  (partsOf path.bytes).filter fun name => !name.isEmpty

variable {base path : RawText} {bytes front back : List UInt8}

theorem partsOf_ne_nil (bytes : List UInt8) : partsOf bytes ≠ [] := by
  fun_induction partsOf bytes <;> simp_all

/-- A separator splits the parts of a path. -/
theorem partsOf_append_separator (front back : List UInt8) :
    partsOf (front ++ separator :: back) = partsOf front ++ partsOf back := by
  induction front with
  | nil => simp [partsOf]
  | cons byte rest inductionHypothesis =>
      rw [List.cons_append, partsOf, partsOf, inductionHypothesis]
      by_cases separates : (byte == separator) = true
      · simp [separates]
      · rw [if_neg separates, if_neg separates]
        cases parts : partsOf rest with
        | nil => exact absurd parts (partsOf_ne_nil rest)
        | cons part others => rfl

/-- The names on both sides of a separator are those on the whole path. -/
theorem namesOf_append_separator (front back : List UInt8) :
    namesOf ⟨front ++ separator :: back⟩ = namesOf ⟨front⟩ ++ namesOf ⟨back⟩ := by
  rw [namesOf, partsOf_append_separator, List.filter_append]
  rfl

/-- A separator at the end adds no name. -/
theorem namesOf_separator (front : List UInt8) :
    namesOf ⟨front ++ [separator]⟩ = namesOf ⟨front⟩ := by
  rw [namesOf_append_separator]
  exact List.append_nil _

theorem isAbsolute_append (nonempty : front ≠ []) :
    IsAbsolute ⟨front ++ back⟩ ↔ IsAbsolute ⟨front⟩ := by
  rw [IsAbsolute, IsAbsolute, List.head?_append_of_ne_nil _ nonempty]

/-- A path that does not start at the root is put behind the other one, after a separator if it
needs one. -/
theorem joinPaths_of_relative (relative : ¬IsAbsolute path) :
    joinPaths base path =
      if base.bytes.isEmpty || base.bytes.getLast? == some separator then
        ⟨base.bytes ++ path.bytes⟩
      else ⟨base.bytes ++ separator :: path.bytes⟩ := by
  have ordinary : (path.bytes.head? == some separator) = false := by
    simpa [IsAbsolute] using relative
  rw [joinPaths, ordinary, if_neg Bool.false_ne_true]

/-- A path that does not start at the root goes on where the other one ends. -/
theorem isAbsolute_joinPaths (relative : ¬IsAbsolute path) :
    IsAbsolute (joinPaths base path) ↔ IsAbsolute base := by
  rw [joinPaths_of_relative relative]
  by_cases nameless : base.bytes = []
  · have start : ¬IsAbsolute base := by simp [IsAbsolute, nameless]
    rw [nameless, if_pos (by simp), List.nil_append]
    exact iff_of_false relative start
  · split
    · exact isAbsolute_append nameless
    · exact isAbsolute_append nameless

/-- The names of the other path come first. -/
theorem namesOf_joinPaths (relative : ¬IsAbsolute path) :
    namesOf (joinPaths base path) = namesOf base ++ namesOf path := by
  rw [joinPaths_of_relative relative]
  split
  · rename_i joins
    simp only [Bool.or_eq_true, List.isEmpty_iff, beq_iff_eq] at joins
    obtain none | ends := joins
    · have empty : namesOf base = [] := by rw [namesOf, none]; rfl
      rw [none, empty]
      rfl
    · obtain ⟨front, closed⟩ := List.getLast?_eq_some_iff.mp ends
      have names : namesOf base = namesOf ⟨front⟩ := by
        rw [namesOf, closed]
        exact namesOf_separator front
      rw [names, closed, List.append_assoc, List.singleton_append]
      exact namesOf_append_separator front path.bytes
  · exact namesOf_append_separator base.bytes path.bytes

end Files

namespace FileSystem

open Files

/-- An absolute path leads to the same place from every working directory. -/
theorem resolve_of_isAbsolute
    {path : RawText}
    (absolute : IsAbsolute path)
    (root : Tree)
    (first second : RawText) :
    resolve ⟨root, first⟩ path = resolve ⟨root, second⟩ path := by
  have start : (path.bytes.head? == some separator) = true := by
    simpa [IsAbsolute] using absolute
  rw [resolve, resolve, start]
  rfl

/-- A look at an absolute path shows the same from every working directory. -/
theorem probe_of_isAbsolute
    {path : RawText}
    (absolute : IsAbsolute path)
    (root : Tree)
    (first second : RawText) :
    probe ⟨root, first⟩ path = probe ⟨root, second⟩ path := by
  rw [probe, probe, resolve_of_isAbsolute absolute root first second]

end FileSystem
end PathVersions
