import ReproItSdk.Library.Windows
import ReproItSdk.Subject.RustSpool

/-! # Debug markers of a captured file

The copy loop looks for the markers of debug information in each chunk together with the last 32
bytes before it.  No marker is longer than 12 bytes, so none is lost between two reads.

Main results:

- Theorem {lit}`copyFile_windows`: which windows the copy loop searches.
- Theorem {lit}`copyFile_hasDwarf`: a copy knows exactly the markers of the whole file.
-/

namespace ReproItSdk
namespace RustSubject

open Fallible Windows

/-- The markers of debug information. -/
def dwarfMarkers : List Bytes :=
  [asciiBytes "__DWARF", asciiBytes ".debug_info", asciiBytes ".zdebug_info"]

/-- A search finds one of the markers. -/
theorem containsDwarfMarker_iff {bytes : Bytes} :
    containsDwarfMarker bytes = true ↔ ∃ marker ∈ dwarfMarkers, marker <:+: bytes := by
  simp [containsDwarfMarker, dwarfMarkers]

/-- A marker has bytes, and no more than 12. -/
theorem length_dwarfMarker {marker : Bytes} (known : marker ∈ dwarfMarkers) :
    marker ≠ [] ∧ marker.length ≤ 12 := by
  simp only [dwarfMarkers, List.mem_cons, List.not_mem_nil, or_false] at known
  rcases known with rfl | rfl | rfl
  · exact ⟨by decide, by decide⟩
  · exact ⟨by decide, by decide⟩
  · exact ⟨by decide, by decide⟩

/-- The chunks that the copy loop reads, up to the first empty one. -/
def fileChunks : List ReadAnswer → List Bytes
  | [] => []
  | read :: reads =>
      match read.bytes with
      | none => []
      | some [] => []
      | some (byte :: chunk) => (byte :: chunk) :: fileChunks reads

/-- The chunks make up what is read. -/
theorem flatten_fileChunks (reads : List ReadAnswer) :
    (fileChunks reads).flatten = fileContent reads := by
  induction reads with
  | nil => rfl
  | cons read reads ih =>
      rcases read with ⟨bytes, written⟩
      rcases bytes with _ | _ | ⟨byte, chunk⟩
      · rfl
      · rfl
      · simp [fileChunks, fileContent, ih]

/-- The copy loop searches each chunk together with the last 32 bytes before it. -/
theorem copyFile_windows {len : Nat} {reads : List ReadAnswer} {start copied : Copied}
    (copies : copyFile len reads start = .ok copied) :
    copied.hasDwarf = (start.hasDwarf ||
      (windows 32 start.markerTail (fileChunks reads)).any containsDwarfMarker) := by
  induction reads generalizing start with
  | nil =>
      cases copies
      simp [fileChunks, windows]
  | cons read reads ih =>
      rcases read with ⟨bytes, written⟩
      rcases bytes with _ | _ | ⟨byte, chunk⟩
      · simp [copyFile] at copies
      · cases copies
        simp [fileChunks, windows]
      · simp only [copyFile] at copies
        split at copies
        · cases copies
        · split at copies
          · cases copies
          · rw [ih copies]
            simp only [Copied.extend, fileChunks, windows, lastOf, List.any_cons, Bool.or_assoc]

/-- A copy before its first read. -/
def Copied.empty : Copied where
  content := []
  markerTail := []
  hasDwarf := false

/-- A window of the copy loop holds a marker exactly when the whole file does. -/
theorem marker_window_iff {marker : Bytes} (known : marker ∈ dwarfMarkers)
    (reads : List ReadAnswer) :
    (∃ window ∈ windows 32 [] (fileChunks reads), marker <:+: window) ↔
      marker <:+: fileContent reads := by
  have ⟨inhabited, short⟩ := length_dwarfMarker known
  rw [← flatten_fileChunks]
  exact infix_window_iff inhabited (by omega)

/-- The copy loop marks a file when a search of all its bytes does. -/
theorem copyFile_markers {len : Nat} {reads : List ReadAnswer} {copied : Copied}
    (copies : copyFile len reads Copied.empty = .ok copied) :
    copied.hasDwarf = containsDwarfMarker (fileContent reads) := by
  rw [copyFile_windows copies, Bool.eq_iff_iff]
  simp only [Copied.empty, Bool.false_or, List.any_eq_true, containsDwarfMarker_iff]
  constructor
  · rintro ⟨window, searched, marker, known, found⟩
    exact ⟨marker, known, (marker_window_iff known reads).mp ⟨window, searched, found⟩⟩
  · rintro ⟨marker, known, found⟩
    obtain ⟨window, searched, inside⟩ := (marker_window_iff known reads).mpr found
    exact ⟨window, searched, marker, known, inside⟩

/-- However the reads cut a file, the copy loop finds exactly the markers that a search of the whole
file finds. -/
theorem copyFile_hasDwarf {len : Nat} {reads : List ReadAnswer} {copied : Copied}
    (copies : copyFile len reads Copied.empty = .ok copied) :
    (∀ marker ∈ dwarfMarkers, (∃ window ∈ windows 32 [] (fileChunks reads), marker <:+: window) ↔
      marker <:+: fileContent reads) ∧
      copied.content = fileContent reads ∧
      copied.hasDwarf = containsDwarfMarker (fileContent reads) := by
  refine ⟨fun marker known => marker_window_iff known reads, ?_, copyFile_markers copies⟩
  simpa [Copied.empty] using copyFile_content copies

/-- A marker that three reads share is found. -/
theorem copyFile_hasDwarf_shared :
    ∃ copied, copyFile 9 [⟨some (asciiBytes "a__D"), true⟩, ⟨some (asciiBytes "W"), true⟩,
        ⟨some (asciiBytes "ARFb"), true⟩, ⟨some [], true⟩] Copied.empty = .ok copied ∧
      copied.content = asciiBytes "a__DWARFb" ∧ copied.hasDwarf = true := by
  have copies : copyFile 9 [⟨some (asciiBytes "a__D"), true⟩, ⟨some (asciiBytes "W"), true⟩,
      ⟨some (asciiBytes "ARFb"), true⟩, ⟨some [], true⟩] Copied.empty =
        .ok ⟨asciiBytes "a__DWARFb", asciiBytes "a__DWARFb", true⟩ := by
    decide
  obtain ⟨-, content, found⟩ := copyFile_hasDwarf copies
  exact ⟨_, copies, content, found.trans (by decide)⟩

end RustSubject
end ReproItSdk
