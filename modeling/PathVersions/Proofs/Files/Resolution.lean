import PathVersions.Files.Tree
import Mathlib.Data.List.Basic

/-!
# Paths that lead nowhere

Following a path fails at the first name that there is no way on by: a name under a file, one that
is too long, or one that the directory does not have. A path can also fail as a whole, before it is
followed. Each of these gives a fault of its own.
-/

namespace PathVersions
namespace Files

variable {place : Place} {name : List UInt8} {names : List (List UInt8)} {fault : Fault}

/-- Why there is no way on from a place by a name. -/
inductive Place.Blocks (place : Place) (name : List UInt8) : Fault -> Prop
  | underFile {contents : RawText} :
      place.tree = .file contents ->
      Blocks place name .notDirectory
  | longName {entries : List (RawText × Tree)} :
      place.tree = .directory entries ->
      255 < name.length ->
      Blocks place name .nameTooLong
  | noEntry {entries : List (RawText × Tree)} :
      place.tree = .directory entries ->
      name ∉ [[], self, outer] ->
      name.length ≤ 255 ->
      (∀ entry ∈ entries, entry.1.bytes ≠ name) ->
      Blocks place name .notFound

/-- Why names lead nowhere from a place: one of them blocks the way, after those before it have been
followed. -/
inductive Place.Strays : Place -> List (List UInt8) -> Fault -> Prop
  | here {place : Place} {name : List UInt8} {rest : List (List UInt8)} {fault : Fault} :
      place.Blocks name fault ->
      Strays place (name :: rest) fault
  | later {place next : Place} {name : List UInt8} {rest : List (List UInt8)} {fault : Fault} :
      place.enter name = .ok next ->
      Strays next rest fault ->
      Strays place (name :: rest) fault

namespace Place

theorem enter_of_file
    {contents : RawText}
    (regular : place.tree = .file contents) :
    place.enter name = .error .notDirectory := by
  rw [enter, entries?, regular]

/-- A long name is none of the names that stand for a directory. -/
theorem notMem_of_long (long : 255 < name.length) : name ∉ [[], self, outer] := by
  intro member
  simp only [List.mem_cons, List.not_mem_nil, or_false] at member
  obtain rfl | rfl | rfl := member <;> simp [self, outer] at long

/-- In a directory, a name of its own is looked for among the entries. -/
theorem enter_of_directory
    {entries : List (RawText × Tree)}
    (directory : place.tree = .directory entries)
    (ordinary : name ∉ [[], self, outer]) :
    place.enter name =
      if 255 < name.length then .error .nameTooLong
      else
        match entries.find? fun entry => entry.1.bytes == name with
        | some (_, tree) => .ok ⟨tree, name, (place.tree, place.name) :: place.around⟩
        | none => .error .notFound := by
  simp only [List.mem_cons, List.not_mem_nil, or_false, not_or] at ordinary
  have own : (name.isEmpty || name == self) = false := by simp [ordinary]
  have around : (name == outer) = false := by simp [ordinary]
  rw [enter, entries?, directory]
  dsimp only
  rw [own, around]
  rfl

/-- The directory itself and the one around it can always be entered. -/
theorem exists_enter_of_mem
    {entries : List (RawText × Tree)}
    (directory : place.tree = .directory entries)
    (member : name ∈ [[], self, outer]) :
    ∃ next, place.enter name = .ok next := by
  simp only [List.mem_cons, List.not_mem_nil, or_false] at member
  rw [enter, entries?, directory]
  obtain rfl | rfl | rfl := member
  · exact ⟨place, rfl⟩
  · exact ⟨place, rfl⟩
  · cases place.around with
    | nil => exact ⟨place, rfl⟩
    | cons nearest others => exact ⟨_, rfl⟩

/-- A name cannot be entered exactly for the reason that blocks it. -/
theorem enter_eq_error_iff : place.enter name = .error fault ↔ place.Blocks name fault := by
  constructor
  · intro failed
    cases known : place.tree with
    | file contents =>
        rw [enter_of_file known, Except.error.injEq] at failed
        exact failed ▸ .underFile known
    | directory entries =>
        by_cases member : name ∈ [[], self, outer]
        · obtain ⟨next, entered⟩ := exists_enter_of_mem known member
          rw [entered] at failed
          contradiction
        · rw [enter_of_directory known member] at failed
          split at failed
          · rename_i long
            rw [Except.error.injEq] at failed
            exact failed ▸ .longName known long
          · rename_i short
            split at failed
            · contradiction
            · rename_i absent
              rw [Except.error.injEq] at failed
              refine failed ▸ .noEntry known member (Nat.not_lt.mp short) fun entry present same => ?_
              simpa [same] using List.find?_eq_none.mp absent entry present
  · rintro (known | ⟨known, long⟩ | ⟨known, ordinary, short, absent⟩)
    · exact enter_of_file known
    · rw [enter_of_directory known (notMem_of_long long), if_pos long]
    · rename_i entries
      have missing : (entries.find? fun entry => entry.1.bytes == name) = none := by
        simpa using absent
      rw [enter_of_directory known ordinary, if_neg (Nat.not_lt.mpr short), missing]

theorem Blocks.fault_mem (blocks : place.Blocks name fault) :
    fault ∈ [Fault.notFound, .notDirectory, .nameTooLong] := by
  cases blocks <;> decide

theorem Strays.fault_mem (strays : place.Strays names fault) :
    fault ∈ [Fault.notFound, .notDirectory, .nameTooLong] := by
  induction strays with
  | here blocks => exact blocks.fault_mem
  | later _ _ inductionHypothesis => exact inductionHypothesis

end Place

end Files

namespace FileSystem

open Files

variable {place : Place} {names : List (List UInt8)} {fault : Fault}

theorem follow_cons (place : Place) (name : List UInt8) (rest : List (List UInt8)) :
    follow place (name :: rest) =
      match place.enter name with
      | .ok next => follow next rest
      | .error fault => .error fault := by
  rw [follow]
  cases place.enter name <;> rfl

/-- Names lead nowhere exactly where one of them blocks the way. -/
theorem follow_eq_error_iff : follow place names = .error fault ↔ place.Strays names fault := by
  induction names generalizing place with
  | nil =>
      rw [follow]
      constructor
      · intro failed
        contradiction
      · intro strays
        cases strays
  | cons name rest inductionHypothesis =>
      rw [follow_cons]
      cases entered : place.enter name with
      | ok next =>
          dsimp only
          rw [inductionHypothesis]
          constructor
          · exact .later entered
          · rintro (blocks | ⟨again, strays⟩)
            · rw [Place.enter_eq_error_iff.mpr blocks] at entered
              contradiction
            · rw [entered, Except.ok.injEq] at again
              exact again ▸ strays
      | error first =>
          dsimp only
          rw [Except.error.injEq]
          constructor
          · rintro rfl
            exact .here (Place.enter_eq_error_iff.mp entered)
          · rintro (blocks | ⟨again, _⟩)
            · rw [Place.enter_eq_error_iff.mpr blocks, Except.error.injEq] at entered
              exact entered.symm
            · rw [entered] at again
              contradiction

/-- Names are followed one after another, and the first that blocks is the end. -/
theorem follow_append (place : Place) (front back : List (List UInt8)) :
    follow place (front ++ back) =
      match follow place front with
      | .ok next => follow next back
      | .error fault => .error fault := by
  induction front generalizing place with
  | nil => rfl
  | cons name front inductionHypothesis =>
      rw [List.cons_append, follow_cons, follow_cons]
      cases place.enter name with
      | ok next => exact inductionHypothesis next
      | error fault => rfl

/-- Further separators in front of a path make no difference to where its names lead. -/
theorem follow_separators
    {entries : List (RawText × Tree)}
    (directory : place.tree = .directory entries)
    (count : Nat)
    (bytes : List UInt8) :
    follow place (partsOf (List.replicate count separator ++ bytes)) =
      follow place (partsOf bytes) := by
  induction count with
  | zero => rfl
  | succ count inductionHypothesis =>
      have stays : place.enter [] = .ok place := by
        rw [Place.enter, Place.entries?, directory]
        rfl
      have first : partsOf (separator :: (List.replicate count separator ++ bytes)) =
          [] :: partsOf (List.replicate count separator ++ bytes) := by
        rw [partsOf]
        rfl
      rw [List.replicate_succ, List.cons_append, first, follow_cons, stays]
      exact inductionHypothesis

/-- The names that a path is followed by from the root. -/
def route (files : FileSystem) (path : RawText) : List (List UInt8) :=
  if path.bytes.head? == some separator then partsOf path.bytes
  else partsOf files.workingDirectory.bytes ++ partsOf path.bytes

/-- Why a path leads nowhere. -/
inductive LeadsNowhere (files : FileSystem) (path : RawText) : Fault -> Prop
  | zeroByte :
      0 ∈ path.bytes ->
      LeadsNowhere files path .zeroByte
  | empty :
      path.bytes = [] ->
      LeadsNowhere files path .notFound
  | tooLong :
      0 ∉ path.bytes ->
      4096 ≤ path.bytes.length ->
      LeadsNowhere files path .nameTooLong
  | strays {fault : Fault} :
      0 ∉ path.bytes ->
      path.bytes ≠ [] ->
      path.bytes.length < 4096 ->
      (Place.ofRoot files.root).Strays (files.route path) fault ->
      LeadsNowhere files path fault

variable {files : FileSystem} {path : RawText}

/-- A path is looked at as a whole before it is followed. -/
theorem resolve_eq (files : FileSystem) (path : RawText) :
    files.resolve path =
      if 0 ∈ path.bytes then .error .zeroByte
      else if path.bytes = [] then .error .notFound
      else if 4096 ≤ path.bytes.length then .error .nameTooLong
      else follow (Place.ofRoot files.root) (files.route path) := by
  have followed : (do
      let start ←
        if path.bytes.head? == some separator then pure (Place.ofRoot files.root)
        else follow (Place.ofRoot files.root) (partsOf files.workingDirectory.bytes)
      follow start (partsOf path.bytes)) =
        follow (Place.ofRoot files.root) (files.route path) := by
    rw [route]
    split
    · rfl
    · rw [follow_append]
      cases follow (Place.ofRoot files.root) (partsOf files.workingDirectory.bytes) <;> rfl
  rw [← followed, resolve]
  simp only [List.contains_iff_mem, List.isEmpty_iff]

/-- A path cannot be resolved exactly if it leads nowhere, and its fault says why. -/
theorem resolve_eq_error_iff :
    files.resolve path = .error fault ↔ files.LeadsNowhere path fault := by
  rw [resolve_eq]
  constructor
  · intro failed
    split at failed
    · rename_i zero
      exact Except.error.inj failed ▸ .zeroByte zero
    split at failed
    · rename_i empty
      exact Except.error.inj failed ▸ .empty empty
    split at failed
    · rename_i clean _ long
      exact Except.error.inj failed ▸ .tooLong clean long
    · rename_i clean nonempty short
      exact .strays clean nonempty (Nat.not_le.mp short) (follow_eq_error_iff.mp failed)
  · rintro (zero | empty | ⟨clean, long⟩ | ⟨clean, nonempty, short, strays⟩)
    · rw [if_pos zero]
    · rw [if_neg (by simp [empty]), if_pos empty]
    · have nonempty : path.bytes ≠ [] := List.ne_nil_of_length_pos (by omega)
      rw [if_neg clean, if_neg nonempty, if_pos long]
    · rw [if_neg clean, if_neg nonempty, if_neg (Nat.not_le.mpr short)]
      exact follow_eq_error_iff.mpr strays

theorem LeadsNowhere.fault_mem (nowhere : files.LeadsNowhere path fault) :
    fault ∈ [Fault.zeroByte, .notFound, .notDirectory, .nameTooLong] := by
  cases nowhere with
  | zeroByte _ => decide
  | empty _ => decide
  | tooLong _ _ => decide
  | strays _ _ _ strays => exact List.mem_cons_of_mem _ strays.fault_mem

end FileSystem
end PathVersions
