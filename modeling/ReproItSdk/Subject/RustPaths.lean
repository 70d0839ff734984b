import ReproItSdk.Library.Ascending
import ReproItSdk.Subject.RustSpool

/-! # Paths of a Rust subject

The path of a captured file inside the subject spells its category, its digest and its base name.
The manifest lists the files by their paths, which must go up strictly.

Main results:

- Theorem {lit}`subjectFilePath_eq_iff`: which captured files share a path.
- Theorem {lit}`manifestFiles_sound_iff`: when the files of a manifest have distinct paths that pass
  the check of their order.
-/

namespace ReproItSdk
namespace RustSubject

open Separated Ascending

variable {Digest : Type} [DecidableEq Digest] {names : DigestNames Digest}

/-! ## Paths -/

/-- Two captured files with equal bytes and equal base names, both debug artifacts or both not. -/
def CapturedFile.Clashes (left right : CapturedFile Digest) : Prop :=
  left.digest = right.digest ∧ left.targetName = right.targetName ∧
    (left.kind = .debugArtifact ↔ right.kind = .debugArtifact)

omit [DecidableEq Digest] in
/-- A base name holds no slash. -/
theorem targetName_unbroken (file : CapturedFile Digest) : Unbroken '/' file.targetName := by
  unfold CapturedFile.targetName
  cases fileName file.sourcePath with
  | none => decide
  | some name =>
      cases name with
      | text name unbroken => exact unbroken
      | bytes name =>
          have module_unbroken : Unbroken '/' "module" := by decide
          exact module_unbroken

/-- A category holds no slash. -/
theorem category_unbroken (file : CapturedFile Digest) (executableDigest : Digest) :
    Unbroken '/' (file.category executableDigest) := by
  unfold CapturedFile.category
  split
  · decide
  · split <;> decide

/-- The parts that the path of a captured file spells. -/
def pathParts (names : DigestNames Digest) (file : CapturedFile Digest)
    (executableDigest : Digest) : List (List Char) :=
  ["reproit".toList, "subject".toList, (file.category executableDigest).toList,
    (names.name file.digest).toList, file.targetName.toList]

/-- The path of a captured file spells its parts. -/
theorem subjectFilePath_toList (names : DigestNames Digest) (file : CapturedFile Digest)
    (executableDigest : Digest) :
    (subjectFilePath names file executableDigest).toList =
      separated '/' (pathParts names file executableDigest) := by
  have head : "/reproit/subject/".toList =
      '/' :: "reproit".toList ++ '/' :: "subject".toList ++ ['/'] := by simp
  have slash : "/".toList = ['/'] := by simp
  unfold subjectFilePath pathParts separated
  simp only [String.toList_append, head, slash]
  generalize (file.category executableDigest).toList = category
  generalize (names.name file.digest).toList = digest
  generalize file.targetName.toList = name
  generalize "reproit".toList = reproit
  generalize "subject".toList = subject
  simp

/-- The parts of a path hold no slash. -/
theorem pathParts_unbroken (names : DigestNames Digest) (file : CapturedFile Digest)
    (executableDigest : Digest) :
    ∀ part ∈ pathParts names file executableDigest, '/' ∉ part := by
  have reproit : '/' ∉ "reproit".toList := by decide
  have subject : '/' ∉ "subject".toList := by decide
  simp only [pathParts, List.forall_mem_cons, List.not_mem_nil, false_imp_iff, implies_true,
    and_true]
  exact ⟨reproit, subject, category_unbroken file executableDigest, names.unbroken file.digest,
    targetName_unbroken file⟩

/-- Files of one digest have one category exactly when both are debug artifacts or both are not. -/
theorem category_eq_iff {left right : CapturedFile Digest} (executableDigest : Digest)
    (same : left.digest = right.digest) :
    left.category executableDigest = right.category executableDigest ↔
      (left.kind = .debugArtifact ↔ right.kind = .debugArtifact) := by
  have debug : ∀ file : CapturedFile Digest,
      file.category executableDigest = "debug" ↔ file.kind = .debugArtifact := by
    intro file
    unfold CapturedFile.category
    split
    · simp [*]
    · split <;> simp [*]
  constructor
  · intro equal
    rw [← debug left, ← debug right, equal]
  · intro both
    by_cases artifact : left.kind = .debugArtifact
    · rw [(debug left).mpr artifact, (debug right).mpr (both.mp artifact)]
    · have other : right.kind ≠ .debugArtifact := fun kind => artifact (both.mpr kind)
      rw [CapturedFile.category, CapturedFile.category, if_neg artifact, if_neg other, same]

/-- Captured files share a path exactly when they clash. -/
theorem subjectFilePath_eq_iff (names : DigestNames Digest) (left right : CapturedFile Digest)
    (executableDigest : Digest) :
    subjectFilePath names left executableDigest = subjectFilePath names right executableDigest ↔
      left.Clashes right := by
  rw [← String.toList_inj, subjectFilePath_toList, subjectFilePath_toList]
  constructor
  · intro same
    have parts := separated_inj (pathParts_unbroken names left executableDigest)
      (pathParts_unbroken names right executableDigest) same
    simp only [pathParts, List.cons.injEq, String.toList_inj, true_and, and_true] at parts
    obtain ⟨category, digest, name⟩ := parts
    have digests := names.injective digest
    exact ⟨digests, name, (category_eq_iff executableDigest digests).mp category⟩
  · rintro ⟨digest, name, kind⟩
    rw [pathParts, pathParts, digest, name, (category_eq_iff executableDigest digest).mpr kind]

/-- The path of the launch data is not that of a captured file. -/
theorem subjectFilePath_ne_launch (names : DigestNames Digest) (file : CapturedFile Digest)
    (executableDigest : Digest) :
    subjectFilePath names file executableDigest ≠ "/reproit/subject/launch.json" := by
  intro same
  have launch : "/reproit/subject/launch.json".toList =
      separated '/' ["reproit".toList, "subject".toList, "launch.json".toList] := by
    simp [separated]
  rw [← String.toList_inj, subjectFilePath_toList, launch] at same
  have plain : ∀ part ∈ ["reproit".toList, "subject".toList, "launch.json".toList],
      '/' ∉ part := by simp
  have parts := separated_inj (pathParts_unbroken names file executableDigest) plain same
  simpa [pathParts] using congrArg List.length parts

/-! ## Files of the manifest -/

/-- Assembled files are the captured files under their paths. -/
theorem assembleFiles_paths {executable : SourcePath} {executableDigest : Digest}
    (captured : List (CapturedFile Digest)) {start assembly : SubjectAssembly Digest}
    (assembles : captured.foldlM (assembleFile names executable executableDigest) start =
      .ok assembly) :
    assembly.files.map SubjectFile.path = start.files.map SubjectFile.path ++
      captured.map fun file => subjectFilePath names file executableDigest := by
  induction captured generalizing start with
  | nil =>
      cases assembles
      simp
  | cons file files ih =>
      rw [List.foldlM_cons] at assembles
      cases first : assembleFile names executable executableDigest start file with
      | error error =>
          rw [first] at assembles
          cases assembles
      | ok middle =>
          rw [first] at assembles
          have added : middle.files.map SubjectFile.path = start.files.map SubjectFile.path ++
              [subjectFilePath names file executableDigest] := by
            unfold assembleFile at first
            dsimp only at first
            split at first
            · cases first
            · cases first
              simp
          rw [ih assembles, added, List.append_assoc]
          rfl

/-- Captured files get distinct paths, and the files of their manifest pass the check that their
paths go up strictly. -/
structure PathsSound (names : DigestNames Digest) (captured : List (CapturedFile Digest))
    (executableDigest : Digest) (files : List (SubjectFile Digest)) : Prop where
  distinct : (captured.map fun file => subjectFilePath names file executableDigest).Nodup
  ascends : ascends none (files.map SubjectFile.path) = true

/-- The paths of a manifest are sound exactly when no two captured files clash. -/
theorem manifestFiles_sound_iff {executable : SourcePath} {executableDigest : Digest}
    {captured : List (CapturedFile Digest)} {assembly : SubjectAssembly Digest}
    (assembles : assembleFiles names captured executable executableDigest = .ok assembly)
    (launchObject : Digest) :
    PathsSound names captured executableDigest (manifestFiles assembly launchObject) ↔
      captured.Pairwise fun left right => ¬ left.Clashes right := by
  have listed := assembleFiles_paths captured assembles
  have clashes : (captured.map fun file => subjectFilePath names file executableDigest).Nodup ↔
      captured.Pairwise fun left right => ¬ left.Clashes right := by
    rw [List.Nodup, List.pairwise_map]
    constructor
    · exact fun apart => apart.imp fun different clash =>
        different ((subjectFilePath_eq_iff names _ _ executableDigest).mpr clash)
    · exact fun apart => apart.imp fun different same =>
        different ((subjectFilePath_eq_iff names _ _ executableDigest).mp same)
  rw [← clashes]
  constructor
  · exact PathsSound.distinct
  · intro distinct
    refine ⟨distinct, ?_⟩
    unfold manifestFiles
    rw [ascends_sortBy_iff, List.map_append, listed, List.map_nil, List.nil_append]
    refine List.Nodup.append distinct (by simp) ?_
    intro path among launch
    obtain ⟨file, -, rfl⟩ := List.mem_map.mp among
    exact subjectFilePath_ne_launch names file executableDigest (by simpa using launch)

end RustSubject
end ReproItSdk
