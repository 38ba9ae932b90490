import Mathlib
import PathVersions.Config.Load
import PathVersions.Proofs.Utf8.RawText

/-!
# Configurations in files

A configuration that stands in a file is what the text of the file describes, with the same
failures: only a malformed document is said to be at another place. A file whose bytes are not UTF-8
has no text and is not read at all.
-/

namespace PathVersions

/-- A failure that names another place, if it is about a document. -/
def Failure.relocated (location : String) : Failure -> Failure
  | .malformed _ details => .malformed location details
  | other => other

namespace Config

variable {files : FileSystem} {path : RawText} {place : Files.Place} {contents : RawText}

/-- A failed check names no place. -/
theorem relocated_of_validate
    {config : Config}
    {failure : Failure}
    (refused : config.validate = .error failure)
    (location : String) :
    failure.relocated location = failure := by
  rw [validate] at refused
  cases described : config.grammar with
  | ok grammar => simp [described] at refused
  | error bad =>
      simp only [described, Except.error.injEq] at refused
      rw [← refused]
      rfl

/-- The place of a document only shows in the failure that it is malformed. -/
theorem ofDocument_eq (location document : String) :
    ofDocument location document = (ofText document).mapError (Failure.relocated location) := by
  rw [ofText, ofDocument, ofDocument]
  cases ofToml document.toList with
  | error fault => rfl
  | ok config =>
      dsimp only
      cases checked : config.validate with
      | error failure =>
          change Except.error failure = .error (failure.relocated location)
          rw [relocated_of_validate checked]
      | ok _ => rfl

theorem probe_of_file
    (resolved : files.resolve path = .ok place)
    (regular : place.tree = .file contents) :
    files.probe path = ⟨true, place.path, .ok contents⟩ := by
  rw [FileSystem.probe, resolved]
  dsimp only
  rw [regular]
  rfl

/-- A path that leads to something has no defaults to fall back to. -/
theorem loadOrDefault_of_found
    {probe : Files.Probe}
    (found : probe.found = true) :
    loadOrDefault path probe = loadFrom path probe := by
  rw [loadOrDefault, if_pos found]

theorem loadFrom_of_text
    {probe : Files.Probe}
    {document : String}
    (text : probe.text = .ok document) :
    loadFrom path probe =
      (ofText document).mapError (Failure.relocated probe.location.shown) := by
  rw [loadFrom, text]
  exact ofDocument_eq probe.location.shown document

theorem loadFrom_of_fault
    {probe : Files.Probe}
    {fault : Files.Fault}
    (text : probe.text = .error fault) :
    loadFrom path probe = .error (.unreadable path.shown fault.details) := by
  rw [loadFrom, text]

/-- Loading a file, whether or not it may be absent, gives what its text describes, with a malformed
document at the place of the file. If its bytes are not UTF-8, it is unreadable, whatever they
say. -/
theorem load_of_file
    (resolved : files.resolve path = .ok place)
    (regular : place.tree = .file contents) :
    (∀ document, String.fromUTF8? contents.bytes.toByteArray = some document ->
      let outcome := (ofText document).mapError (Failure.relocated place.path.shown)
      loadFrom path (files.probe path) = outcome ∧
        loadOrDefault path (files.probe path) = outcome) ∧
      (String.fromUTF8? contents.bytes.toByteArray = none ->
        let failure := Failure.unreadable path.shown "stream did not contain valid UTF-8"
        loadFrom path (files.probe path) = .error failure ∧
          loadOrDefault path (files.probe path) = .error failure) := by
  rw [loadOrDefault_of_found (by rw [probe_of_file resolved regular]),
    probe_of_file resolved regular, ← RawText.text?_eq_fromUTF8?]
  constructor
  · intro document decoded
    have text : Files.Probe.text ⟨true, place.path, .ok contents⟩ = .ok document := by
      rw [Files.Probe.text]
      dsimp only
      rw [decoded]
    exact ⟨loadFrom_of_text text, loadFrom_of_text text⟩
  · intro broken
    have text : Files.Probe.text ⟨true, place.path, .ok contents⟩ = .error .notUtf8 := by
      rw [Files.Probe.text]
      dsimp only
      rw [broken]
    exact ⟨loadFrom_of_fault text, loadFrom_of_fault text⟩

/-- A document that starts with a byte order mark and has a bad pattern, and next to it a file that
is no text. -/
theorem load_of_file_at_byte_order_mark :
    let document := "\ufeff[versioning]\npattern = \"(\""
    let marked : RawText := .ofString document
    let broken : RawText := ⟨[0x61, 0xff]⟩
    let root : Files.Tree :=
      .directory [(.ofString "marked.toml", .file marked), (.ofString "broken.toml", .file broken)]
    let files : FileSystem := ⟨root, .ofString "/"⟩
    let place (name : String) (contents : RawText) : Files.Place :=
      ⟨.file contents, (RawText.ofString name).bytes, [(root, [])]⟩
    (files.resolve (.ofString "/marked.toml") = .ok (place "marked.toml" marked) ∧
      String.fromUTF8? marked.bytes.toByteArray = some document ∧
      loadOrDefault (.ofString "/marked.toml") (files.probe (.ofString "/marked.toml")) =
        (ofText document).mapError (Failure.relocated "/marked.toml")) ∧
    (files.resolve (.ofString "broken.toml") = .ok (place "broken.toml" broken) ∧
      String.fromUTF8? broken.bytes.toByteArray = none ∧
      loadOrDefault (.ofString "broken.toml") (files.probe (.ofString "broken.toml")) =
        .error (.unreadable "broken.toml" "stream did not contain valid UTF-8")) := by
  intro document marked broken root files place
  have resolved : files.resolve (.ofString "/marked.toml") = .ok (place "marked.toml" marked) := by
    cbv
  have decoded : String.fromUTF8? marked.bytes.toByteArray = some document := by
    rw [← RawText.text?_eq_fromUTF8?, RawText.text?_eq_some_iff]
  have other : files.resolve (.ofString "broken.toml") = .ok (place "broken.toml" broken) := by
    cbv
  have undecoded : String.fromUTF8? broken.bytes.toByteArray = none := by
    rw [← RawText.text?_eq_fromUTF8?]
    cbv
  exact ⟨⟨resolved, decoded, ((load_of_file resolved rfl).1 document decoded).2⟩,
    other, undecoded, ((load_of_file other rfl).2 undecoded).2⟩

end Config
end PathVersions
