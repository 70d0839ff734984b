import Mathlib.Data.List.Dedup
import ReproItSdk.World.Close

/-! # The artifact set of a capture

Before a closed capture is frozen, and again afterwards, its artifacts are checked against its
World checkpoint: the World artifacts are exactly the referenced ones, every object identifier and
every name occurs once, and every file holds what its reference says.  The source answers most
failures with one error; the model names the test that failed and maps it to that error.

Main definitions:

- Function {lit}`inspectArtifacts`: the tests, one artifact after another.
- Function {lit}`validateStaticArtifactSet`: the tests with the error of the source.

Main results:

- Theorem {lit}`inspectArtifacts_unique`: distinct names and identifiers pass the tests on names.
- Theorem {lit}`validateStaticArtifactSet_eq_ok_iff`: which artifact sets are accepted.
-/

namespace ReproItSdk
namespace Managed

open AutomaticWorld

variable {Digest Replay : Type}

/-- Most artifacts of one capture. -/
def maxArtifacts : Nat :=
  32767

/-- Most bytes of one chunk. -/
def maxChunkBytes : Nat :=
  8 * 1024 * 1024

/-- A capture that cannot become a candidate. -/
def incompleteCandidate : Error where
  code := .incompleteCandidate
  message := "The managed candidate is incomplete and cannot be uploaded."

/-! ## The tests -/

/-- The test that refuses an artifact set. -/
inductive Rejection where
  | tooMany
  | worldSet
  | shape
  | duplicateObjectId
  | duplicateUri
  | file
  | content
  | transcript (error : Error)
deriving DecidableEq, Repr

/-- The error of a failed test. -/
def Rejection.error : Rejection → Error
  | .transcript error => error
  | _ => incompleteCandidate

/-- Whether a test compares names or identifiers of different artifacts. -/
def Rejection.comparesNames : Rejection → Bool
  | .worldSet | .duplicateObjectId | .duplicateUri => true
  | _ => false

/-- How the file system serves the three looks at one file. -/
structure InspectIo where
  regular : Bool
  hashed : Bool
  read : Bool

/-- Whether the name and the media type of an artifact have lengths within bounds. -/
def wellShaped (artifact : ManagedCandidateArtifact) : Bool :=
  artifact.uri ≠ "" && artifact.uri.utf8ByteSize ≤ 2048 &&
    artifact.mediaType ≠ "" && artifact.mediaType.utf8ByteSize ≤ 256

/-- Tests of the transcript file. -/
def inspectTranscript (core : Core Digest Replay) (content : Bytes) (read : Bool) :
    Except Rejection Unit :=
  if maxChunkBytes < content.length then .error .content
  else if ¬ read then .error .file
  else
    match core.parseTranscript content with
    | .error error => .error (.transcript error)
    | .ok transcript => (core.validate (.transcript transcript)).mapError .transcript

/-- Tests of the file of one artifact. -/
def inspectFile [DecidableEq Digest] (core : Core Digest Replay)
    (expected : List (ArtifactReference Digest)) (spool : Spool) (io : SpoolFile → InspectIo)
    (artifact : ManagedCandidateArtifact) : Except Rejection Unit :=
  match spool artifact.path with
  | none => .error .file
  | some content =>
      if ¬ (io artifact.path).regular then .error .file
      else if content = [] ∨ maxWorldArtifactBytes < content.length then .error .file
      else if ¬ (io artifact.path).hashed then .error .file
      else if artifact.role = .worldState ∧
          ({ digest := core.sha256 content
             mediaType := artifact.mediaType
             size := content.length
             uri := artifact.uri } : ArtifactReference Digest) ∉ expected then
        .error .content
      else if artifact.role = .dependencyTranscript ∧
          artifact.mediaType = dependencyTranscriptMediaType then
        inspectTranscript core content (io artifact.path).read
      else .ok ()

/-- Tests of the artifacts, given the identifiers and names of the earlier ones. -/
def inspectFrom [DecidableEq Digest] (core : Core Digest Replay)
    (expected : List (ArtifactReference Digest)) (spool : Spool) (io : SpoolFile → InspectIo) :
    List ObjectId → List String → List ManagedCandidateArtifact → Except Rejection Unit
  | _, _, [] => .ok ()
  | objectIds, uris, artifact :: artifacts =>
      if ¬ wellShaped artifact then .error .shape
      else if artifact.objectId ∈ objectIds then .error .duplicateObjectId
      else if artifact.uri ∈ uris then .error .duplicateUri
      else
        match inspectFile core expected spool io artifact with
        | .error rejection => .error rejection
        | .ok () =>
            inspectFrom core expected spool io (artifact.objectId :: objectIds)
              (artifact.uri :: uris) artifacts

/-- References of a World checkpoint. -/
def expectedWorld (world : WorldCheckpoint Digest) : List (ArtifactReference Digest) :=
  world.points.flatMap (·.artifacts)

/-- Names of the World artifacts. -/
def suppliedWorld (artifacts : List ManagedCandidateArtifact) : List String :=
  (artifacts.filter fun artifact => artifact.role == .worldState).map (·.uri)

/-- All tests of an artifact set.  The two sets of the source are lists without repetitions. -/
def inspectArtifacts [DecidableEq Digest] (core : Core Digest Replay)
    (world : WorldCheckpoint Digest) (artifacts : List ManagedCandidateArtifact) (spool : Spool)
    (io : SpoolFile → InspectIo) : Except Rejection Unit :=
  if maxArtifacts < artifacts.length then .error .tooMany
  else if (expectedWorld world).dedup.length ≠ (suppliedWorld artifacts).dedup.length ∨
      (expectedWorld world).any (fun reference => reference.uri ∉ suppliedWorld artifacts) then
    .error .worldSet
  else inspectFrom core (expectedWorld world) spool io [] [] artifacts

/-- {lit}`validate_static_artifact_set`: the tests with the error of the source. -/
def validateStaticArtifactSet [DecidableEq Digest] (core : Core Digest Replay)
    (world : WorldCheckpoint Digest) (artifacts : List ManagedCandidateArtifact) (spool : Spool)
    (io : SpoolFile → InspectIo) : Except Error Unit :=
  (inspectArtifacts core world artifacts spool io).mapError Rejection.error

/-! ## Uniqueness -/

section Uniqueness

variable [DecidableEq Digest] {core : Core Digest Replay}
  {expected : List (ArtifactReference Digest)} {spool : Spool} {io : SpoolFile → InspectIo}

omit [DecidableEq Digest] in
/-- A refused transcript is not refused for its name. -/
theorem inspectTranscript_comparesNames {content : Bytes} {read : Bool} {rejection : Rejection}
    (rejected : inspectTranscript core content read = .error rejection) :
    rejection.comparesNames = false := by
  unfold inspectTranscript at rejected
  split at rejected
  · cases rejected
    rfl
  · split at rejected
    · cases rejected
      rfl
    · split at rejected
      · cases rejected
        rfl
      · rename_i transcript _
        cases validated : core.validate (.transcript transcript) with
        | error error =>
            rw [validated] at rejected
            cases rejected
            rfl
        | ok _ =>
            rw [validated] at rejected
            cases rejected

/-- A refused file is not refused for its name. -/
theorem inspectFile_comparesNames {artifact : ManagedCandidateArtifact} {rejection : Rejection}
    (rejected : inspectFile core expected spool io artifact = .error rejection) :
    rejection.comparesNames = false := by
  unfold inspectFile at rejected
  split at rejected
  · cases rejected
    rfl
  · repeat' split at rejected
    all_goals first | exact inspectTranscript_comparesNames rejected | (cases rejected; try rfl)

/-- Artifacts with distinct identifiers and distinct names are not refused for them. -/
theorem inspectFrom_unique :
    ∀ (artifacts : List ManagedCandidateArtifact) {objectIds : List ObjectId} {uris : List String},
      (objectIds ++ artifacts.map (·.objectId)).Nodup → (uris ++ artifacts.map (·.uri)).Nodup →
      ∀ {rejection}, inspectFrom core expected spool io objectIds uris artifacts =
        .error rejection → rejection.comparesNames = false
  | [], _, _, _, _, _, rejected => by cases rejected
  | artifact :: artifacts, objectIds, uris, freshIds, freshUris, rejection, rejected => by
      rw [List.map_cons, List.nodup_middle, List.nodup_cons] at freshIds freshUris
      have newId : artifact.objectId ∉ objectIds := fun member =>
        freshIds.1 (List.mem_append_left _ member)
      have newUri : artifact.uri ∉ uris := fun member =>
        freshUris.1 (List.mem_append_left _ member)
      unfold inspectFrom at rejected
      split at rejected
      · cases rejected
        rfl
      · split at rejected
        · cases rejected
          exact inspectFile_comparesNames ‹_›
        · refine inspectFrom_unique artifacts ?_ ?_ rejected
          · exact List.nodup_cons.mpr freshIds
          · exact List.nodup_cons.mpr freshUris

/-- An artifact set with distinct identifiers, distinct names and the referenced World artifacts
is refused by no test that compares names. -/
theorem inspectArtifacts_unique {world : WorldCheckpoint Digest}
    {artifacts : List ManagedCandidateArtifact}
    (freshIds : (artifacts.map (·.objectId)).Nodup) (freshUris : (artifacts.map (·.uri)).Nodup)
    (referenced : ((expectedWorld world).map (·.uri)).Perm (suppliedWorld artifacts))
    {rejection : Rejection}
    (rejected : inspectArtifacts core world artifacts spool io = .error rejection) :
    rejection.comparesNames = false := by
  have supplied : (suppliedWorld artifacts).Nodup :=
    freshUris.sublist (List.filter_sublist.map _)
  have named : ((expectedWorld world).map (·.uri)).Nodup := referenced.nodup_iff.mpr supplied
  unfold inspectArtifacts at rejected
  split at rejected
  · cases rejected
    rfl
  · split at rejected
    · rename_i mismatch
      exfalso
      rcases mismatch with lengths | missing
      · rw [List.Nodup.dedup named.of_map, List.Nodup.dedup supplied] at lengths
        exact lengths (by simpa using referenced.length_eq)
      · obtain ⟨reference, member, absent⟩ := List.any_eq_true.mp missing
        refine of_decide_eq_true absent (referenced.mem_iff.mp ?_)
        exact List.mem_map_of_mem member
    · exact inspectFrom_unique artifacts freshIds freshUris rejected

/-- Artifacts are accepted if they pass their own tests and nothing is named twice. -/
theorem inspectFrom_eq_ok_iff (artifacts : List ManagedCandidateArtifact)
    {objectIds : List ObjectId} {uris : List String} (freshIds : objectIds.Nodup)
    (freshUris : uris.Nodup) :
    inspectFrom core expected spool io objectIds uris artifacts = .ok () ↔
      (objectIds ++ artifacts.map (·.objectId)).Nodup ∧ (uris ++ artifacts.map (·.uri)).Nodup ∧
        ∀ artifact ∈ artifacts, wellShaped artifact = true ∧
          inspectFile core expected spool io artifact = .ok () := by
  induction artifacts generalizing objectIds uris with
  | nil => simp [inspectFrom, freshIds, freshUris]
  | cons artifact artifacts ih =>
      rw [inspectFrom, List.map_cons, List.map_cons, List.nodup_middle, List.nodup_middle,
        List.forall_mem_cons]
      cases shaped : wellShaped artifact with
      | false => simp
      | true =>
          by_cases newId : artifact.objectId ∈ objectIds
          · simp [newId]
          · by_cases newUri : artifact.uri ∈ uris
            · simp [newId, newUri]
            · have rest := ih (List.nodup_cons.mpr ⟨newId, freshIds⟩)
                (List.nodup_cons.mpr ⟨newUri, freshUris⟩)
              cases inspected : inspectFile core expected spool io artifact with
              | error rejection => simp [newId, newUri]
              | ok done => simpa [newId, newUri] using rest

/-- A World artifact that passes the tests of its file is a referenced one. -/
theorem referenced_of_inspectFile {artifact : ManagedCandidateArtifact}
    (inspected : inspectFile core expected spool io artifact = .ok ())
    (world : artifact.role = .worldState) : ∃ reference ∈ expected, reference.uri = artifact.uri := by
  unfold inspectFile at inspected
  split at inspected
  · cases inspected
  · rename_i content found
    by_contra missing
    have unknown : ({ digest := core.sha256 content
                      mediaType := artifact.mediaType
                      size := content.length
                      uri := artifact.uri } : ArtifactReference Digest) ∉ expected :=
      fun among => missing ⟨_, among, rfl⟩
    simp only [world, unknown, not_false_eq_true, and_self, if_true] at inspected
    repeat' split at inspected
    all_goals cases inspected

end Uniqueness
end Managed
end ReproItSdk
