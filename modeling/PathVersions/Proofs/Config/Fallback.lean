import PathVersions.Proofs.Config.Loading
import PathVersions.Proofs.Files.Resolution

/-!
# Falling back to the default configuration

A file that may be absent is meant to be replaced by the default configuration only where there is
no such file, and to be loaded like any other one apart from that. Whether it is there is asked
first, though, and the answer is the same for every path that leads nowhere: one that goes on below
a file, or that is too long, or that has a zero byte in it, is silently replaced by the default
configuration as well. What is there is never replaced.
-/

namespace PathVersions
namespace Config

open Files

variable {files : FileSystem} {path : RawText} {fault : Fault}

/-- The failure of loading a file that is not there. -/
def missing (path : RawText) : Failure := .unreadable path.shown Fault.notFound.details

/-- Whether a file that may be absent is loaded like any other one, apart from the default
configuration where there is no such file. -/
structure FallsBackIfMissing (path : RawText) (probe : Probe) : Prop where
  absent : loadFrom path probe = .error (missing path) -> loadOrDefault path probe = .ok default
  otherwise : loadFrom path probe ≠ .error (missing path) ->
    loadOrDefault path probe = loadFrom path probe

/-- Only a path that is not found is reported as missing. -/
theorem missing_eq_iff
    (known : fault ∈ [Fault.zeroByte, .notFound, .notDirectory, .nameTooLong]) :
    Failure.unreadable path.shown fault.details = missing path ↔ fault = .notFound := by
  rw [missing, Failure.unreadable.injEq, eq_self, true_and]
  simp only [List.mem_cons, List.not_mem_nil, or_false] at known
  obtain rfl | rfl | rfl | rfl := known <;> decide

/-- Once a document has been read, nothing that is wrong with it counts as a failure to read it. -/
theorem ofDocument_ne_unreadable (location document shown details : String) :
    ofDocument location document ≠ .error (.unreadable shown details) := by
  intro failed
  rw [ofDocument] at failed
  cases described : ofToml document.toList with
  | error misfit => simp [described] at failed
  | ok config =>
      rw [described] at failed
      dsimp only at failed
      rw [validate] at failed
      cases checked : config.grammar with
      | ok grammar =>
          rw [checked] at failed
          contradiction
      | error bad =>
          rw [checked] at failed
          simp [bind, Except.bind, Failure.ofBadSetting] at failed

/-! ## Paths that lead somewhere -/

theorem probe_of_place
    {place : Place}
    (resolved : files.resolve path = .ok place) :
    files.probe path = ⟨true, place.path, FileSystem.contentsOf place.tree⟩ := by
  rw [FileSystem.probe, resolved]

/-- A directory is there, but is no file to be loaded. -/
theorem loadFrom_of_directory
    {place : Place}
    {entries : List (RawText × Tree)}
    (resolved : files.resolve path = .ok place)
    (directory : place.tree = .directory entries) :
    loadFrom path (files.probe path) =
      .error (.unreadable path.shown Fault.isDirectory.details) := by
  apply loadFrom_of_fault
  rw [probe_of_place resolved, directory]
  rfl

/-- What is there is never reported as missing. -/
theorem loadFrom_ne_missing
    {place : Place}
    (resolved : files.resolve path = .ok place) :
    loadFrom path (files.probe path) ≠ .error (missing path) := by
  cases known : place.tree with
  | directory entries =>
      rw [loadFrom_of_directory resolved known, missing]
      simp [Fault.details]
  | file contents =>
      rw [probe_of_file resolved known]
      cases decoded : contents.text? with
      | none =>
          have text : Probe.text ⟨true, place.path, .ok contents⟩ = .error .notUtf8 := by
            simp [Probe.text, decoded]
          rw [loadFrom_of_fault text, missing]
          simp [Fault.details]
      | some document =>
          have text : Probe.text ⟨true, place.path, .ok contents⟩ = .ok document := by
            simp [Probe.text, decoded]
          rw [loadFrom, text]
          exact ofDocument_ne_unreadable _ _ _ _

/-- For a path that leads somewhere the promise is kept. -/
theorem fallsBackIfMissing_of_place
    {place : Place}
    (resolved : files.resolve path = .ok place) :
    FallsBackIfMissing path (files.probe path) where
  absent failed := absurd failed (loadFrom_ne_missing resolved)
  otherwise _ := loadOrDefault_of_found (by rw [probe_of_place resolved])

/-! ## Paths that lead nowhere -/

/-- A path that leads nowhere is not found, for whatever reason. -/
theorem probe_of_leadsNowhere (nowhere : files.LeadsNowhere path fault) :
    files.probe path = ⟨false, path, .error fault⟩ := by
  rw [FileSystem.probe, FileSystem.resolve_eq_error_iff.mpr nowhere]

/-- A path that leads nowhere is an unreadable file, and the default configuration if it may be
absent, whatever the reason. -/
theorem load_of_leadsNowhere (nowhere : files.LeadsNowhere path fault) :
    loadFrom path (files.probe path) = .error (.unreadable path.shown fault.details) ∧
      loadOrDefault path (files.probe path) = .ok default := by
  rw [probe_of_leadsNowhere nowhere]
  exact ⟨loadFrom_of_fault rfl, rfl⟩

/-- For a path that leads nowhere the promise is kept only if that is because nothing is there. -/
theorem fallsBackIfMissing_iff_of_leadsNowhere (nowhere : files.LeadsNowhere path fault) :
    FallsBackIfMissing path (files.probe path) ↔ fault = .notFound := by
  obtain ⟨failed, replaced⟩ := load_of_leadsNowhere nowhere
  have same : loadFrom path (files.probe path) = .error (missing path) ↔ fault = .notFound := by
    rw [failed, Except.error.injEq, missing_eq_iff nowhere.fault_mem]
  constructor
  · intro falls
    by_contra other
    have loaded := falls.otherwise (same.not.mpr other)
    rw [replaced, failed] at loaded
    contradiction
  · intro notFound
    exact ⟨fun _ => replaced, fun present => absurd (same.mpr notFound) present⟩

/-! ## When the default configuration is taken -/

/-- Apart from falling back where there is no such file, a file that may be absent is loaded like
any other one exactly if its path leads somewhere, or if nothing but a missing file is why it leads
nowhere. In all other cases loading it would fail, but the default configuration is taken. What is
there is never replaced, not even a directory. -/
theorem fallsBackIfMissing_iff (files : FileSystem) (path : RawText) :
    (FallsBackIfMissing path (files.probe path) ↔
        ∀ fault, files.LeadsNowhere path fault -> fault = .notFound) ∧
      (∀ fault, files.LeadsNowhere path fault ->
        loadFrom path (files.probe path) = .error (.unreadable path.shown fault.details) ∧
          loadOrDefault path (files.probe path) = .ok default) ∧
      ((∀ fault, ¬files.LeadsNowhere path fault) ->
        loadOrDefault path (files.probe path) = loadFrom path (files.probe path)) ∧
      (∀ place entries, files.resolve path = .ok place -> place.tree = .directory entries ->
        loadOrDefault path (files.probe path) =
          .error (.unreadable path.shown "Is a directory (os error 21)")) := by
  have found {place : Place} (resolved : files.resolve path = .ok place) :
      loadOrDefault path (files.probe path) = loadFrom path (files.probe path) :=
    loadOrDefault_of_found (by rw [probe_of_place resolved])
  refine ⟨?_, fun fault => load_of_leadsNowhere, ?_, ?_⟩
  · cases resolved : files.resolve path with
    | ok place =>
        refine iff_of_true (fallsBackIfMissing_of_place resolved) fun fault nowhere => ?_
        rw [FileSystem.resolve_eq_error_iff.mpr nowhere] at resolved
        contradiction
    | error fault =>
        have nowhere := FileSystem.resolve_eq_error_iff.mp resolved
        rw [fallsBackIfMissing_iff_of_leadsNowhere nowhere]
        constructor
        · rintro rfl other again
          rw [FileSystem.resolve_eq_error_iff.mpr again, Except.error.injEq] at resolved
          exact resolved
        · exact fun only => only fault nowhere
  · intro somewhere
    cases resolved : files.resolve path with
    | ok place => exact found resolved
    | error fault => exact absurd (FileSystem.resolve_eq_error_iff.mp resolved) (somewhere fault)
  · intro place entries resolved directory
    rw [found resolved, loadFrom_of_directory resolved directory]
    rfl

/-- A path with further separators in front of it. -/
def slashed (count : Nat) (path : RawText) : RawText where
  bytes := List.replicate count separator ++ path.bytes

/-- Enough separators in front make any path too long. -/
theorem slashed_leadsNowhere
    {count : Nat}
    (many : 4096 ≤ count)
    (clean : 0 ∉ path.bytes) :
    files.LeadsNowhere (slashed count path) .nameTooLong := by
  have zero : (0 : UInt8) ≠ separator := by decide
  refine .tooLong ?_ ?_
  · simp [slashed, zero, clean]
  · rw [slashed, List.length_append, List.length_replicate]
    omega

/-- More separators in front lead to the same place, as far as names go. -/
theorem follow_slashed
    {entries : List (RawText × Tree)}
    (directory : files.root = .directory entries)
    {count : Nat}
    (positive : 0 < count) :
    FileSystem.follow (.ofRoot files.root) (files.route (slashed count path)) =
      FileSystem.follow (.ofRoot files.root) (partsOf path.bytes) := by
  have starts : (slashed count path).bytes.head? = some separator := by
    obtain ⟨more, rfl⟩ := Nat.exists_eq_add_of_le' positive
    rfl
  rw [FileSystem.route, starts, if_pos (by decide), slashed]
  exact FileSystem.follow_separators directory count path.bytes

/-- Below a file, the default configuration is taken although there is another reason than a missing
file. So it is for a path with so many separators that it is too long, whose names lead to a file
with a configuration of its own. -/
theorem not_fallsBackIfMissing_of_file :
    let file : Tree := .file (.ofString "general.log_level = \"trace\"")
    let files : FileSystem := ⟨.directory [(.ofString "config.toml", file)], .ofString "/"⟩
    let below : RawText := .ofString "/config.toml/config.toml"
    let long : RawText := slashed 4096 (.ofString "/config.toml")
    loadFrom (.ofString "/config.toml") (files.probe (.ofString "/config.toml")) =
        .ok ⟨.trace, none⟩ ∧
      (loadFrom below (files.probe below) =
          .error (.unreadable below.shown "Not a directory (os error 20)") ∧
        loadOrDefault below (files.probe below) = .ok default ∧
        ¬FallsBackIfMissing below (files.probe below)) ∧
      (FileSystem.follow (.ofRoot files.root) (files.route long)).map Place.tree = .ok file ∧
        loadFrom long (files.probe long) =
          .error (.unreadable long.shown "File name too long (os error 36)") ∧
        loadOrDefault long (files.probe long) = .ok default ∧
        ¬FallsBackIfMissing long (files.probe long) := by
  intro file files below long
  have underFile : files.LeadsNowhere below .notDirectory :=
    FileSystem.resolve_eq_error_iff.mp rfl
  have tooLong : files.LeadsNowhere long .nameTooLong :=
    slashed_leadsNowhere le_rfl (by decide)
  obtain ⟨failed, replaced⟩ := load_of_leadsNowhere underFile
  obtain ⟨alsoFailed, alsoReplaced⟩ := load_of_leadsNowhere tooLong
  refine ⟨by cbv, ⟨failed, replaced, ?_⟩, ?_, alsoFailed, alsoReplaced, ?_⟩
  · exact (fallsBackIfMissing_iff_of_leadsNowhere underFile).not.mpr (by decide)
  · rw [follow_slashed rfl (by decide)]
    rfl
  · exact (fallsBackIfMissing_iff_of_leadsNowhere tooLong).not.mpr (by decide)

end Config
end PathVersions
