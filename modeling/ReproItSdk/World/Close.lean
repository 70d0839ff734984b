import ReproItSdk.World.Calls

/-! # Closing an automatic World

A capture ends with a close, which publishes the artifacts, the World checkpoint and the fence of
the observations, and a replay ends with {lit}`finishReplay`.  Both refuse when the World is not
completely owned.

Main definitions:

- Function {lit}`close`: publish the capture of a complete World.
- Function {lit}`finishReplay`: accept a replay that consumed the recorded World.
- Theorem {lit}`close_effect`: what a successful close publishes.
-/

namespace ReproItSdk
namespace AutomaticWorld

variable {Digest Replay : Type}

/-- Capability of the recoverable point. -/
def capability : String :=
  "capture.automatic-world.v1"

/-- Identifier of the observation fence. -/
def fenceIdentifier : String :=
  "reproit-native-observation-fence"

/-- What a capture run hands over to the candidate. -/
structure ManagedRustCaptureClosure (Digest : Type) where
  artifacts : List ManagedCandidateArtifact
  completion : TriggerCompletion
  world : WorldCheckpoint Digest

/-- A closed capture with the spool that keeps its files. -/
structure AutomaticWorldCapture (Digest : Type) where
  closure : ManagedRustCaptureClosure Digest
  fence : NativeObservationFenceReceipt Digest
  reservation : Nat
  spool : Spool

/-- Outcomes of the steps of a close. -/
structure CloseIo where
  transcriptReserved : Bool
  transcriptWrite : WriteOutcome
  transcriptRecorded : Except Error Unit
  transcriptObjectId : Except Error ObjectId
  publishedAt : Except Error String
  recoverableUntil : Except Error String

/-- {lit}`closure_policy`: one rule for each class. -/
def closurePolicy (core : Core Digest Replay) : List ClosureRule :=
  AutomaticObservationClass.all.map fun observationClass =>
    { boundaryId := core.boundaryId observationClass, observationClass := observationClass }

/-- Sum of sizes, as a {lit}`u64` that must not overflow. -/
def totalBytes : List (ArtifactReference Digest) → Nat → Except Error Nat
  | [], total => .ok total
  | reference :: references, total =>
      if u64Max < total + reference.size then .error captureLimit
      else totalBytes references (total + reference.size)

namespace AutomaticWorldCoordinator

/-! ## Transcript -/

/-- The transcript of all interactions. -/
def dependencyTranscript (world : AutomaticWorldCoordinator Digest Replay) :
    DependencyTranscript Digest where
  adapterId := nativeAdapterId
  adapterVersion := nativeAdapterVersion
  interactions := world.dependencyInteractions

/-- Cursor that names the transcript of a digest. -/
def dependencyCursor (core : Core Digest Replay) (digest : Digest) :
    DependencyCursorPayload Digest where
  adapterId := nativeAdapterId
  adapterVersion := nativeAdapterVersion
  causalParentId := none
  cursor := core.encodeBase64url (core.digestBytes digest)
  cursorDigest := core.digestOf (core.digestBytes digest)

/-- The artifact of the transcript. -/
def transcriptArtifact (core : Core Digest Replay) (digest : Digest) (objectId : ObjectId) :
    ObservationArtifact Digest where
  artifact :=
    { mediaType := dependencyTranscriptMediaType
      objectId := objectId
      path := .dependencyTranscript
      role := .dependencyTranscript
      uri := transcriptUri core digest }
  reference := none

/-- The part of {lit}`commit_dependency_transcript` that names the written transcript. -/
def nameDependencyTranscript (core : Core Digest Replay)
    (world : AutomaticWorldCoordinator Digest Replay) (digest : Digest) (io : CloseIo) :
    Except Error (AutomaticWorldCoordinator Digest Replay) :=
  match core.validate (.cursor (dependencyCursor core digest)) with
  | .error error => .error error
  | .ok () =>
      match world.recordWithSdk io.transcriptRecorded with
      | .error error => .error error
      | .ok () =>
          match io.transcriptObjectId with
          | .error error => .error error
          | .ok objectId =>
              .ok { world with
                artifacts := world.artifacts ++ [transcriptArtifact core digest objectId] }

/-- {lit}`commit_dependency_transcript`: publish the interactions as one artifact. -/
def commitDependencyTranscript (core : Core Digest Replay)
    (world : AutomaticWorldCoordinator Digest Replay) (io : CloseIo) :
    Except Error (AutomaticWorldCoordinator Digest Replay) :=
  if world.dependencyInteractions = [] then .ok world
  else
    match core.validate (.transcript world.dependencyTranscript) with
    | .error error => .error error
    | .ok () =>
        match core.canonicalBytes (.transcript world.dependencyTranscript) with
        | .error error => .error error
        | .ok bytes =>
            if ¬ io.transcriptReserved then .error captureLimit
            else
              match writeFile world.spool .dependencyTranscript bytes io.transcriptWrite with
              | (.error error, _) => .error error
              | (.ok (), spool) =>
                  nameDependencyTranscript core
                    { world with
                      reservation := world.reservation + bytes.length
                      spool := spool }
                    (core.digestOf bytes) io

/-! ## Checkpoint, closure and fence -/

/-- References of the World checkpoint, in artifact order. -/
def worldReferences (world : AutomaticWorldCoordinator Digest Replay) :
    List (ArtifactReference Digest) :=
  world.artifacts.filterMap (·.reference)

/-- {lit}`world_checkpoint`: one recoverable point that references every World artifact. -/
def worldCheckpoint (core : Core Digest Replay) (world : AutomaticWorldCoordinator Digest Replay)
    (io : CloseIo) : Except Error (WorldCheckpoint Digest) :=
  match io.publishedAt with
  | .error error => .error error
  | .ok publishedAt =>
      match io.recoverableUntil with
      | .error error => .error error
      | .ok recoverableUntil =>
          match totalBytes world.worldReferences 0 with
          | .error error => .error error
          | .ok bytes =>
              if maxWorldBytes < bytes then .error captureLimit
              else
                match core.canonicalDigest (.policy (closurePolicy core)) with
                | .error error => .error error
                | .ok configurationDigest =>
                    let point : RecoverablePoint Digest :=
                      { artifacts := world.worldReferences
                        capabilities := [capability]
                        configurationDigest := configurationDigest
                        engineIdentity := nativeAdapterId
                        engineVersion := nativeAdapterVersion
                        generation := 1
                        point := core.encodeBase64url (core.digestBytes configurationDigest)
                        providerId := "automatic-world"
                        publishedAt := publishedAt
                        recoverableUntil := recoverableUntil
                        resourceClaim :=
                          { materializedBytes := bytes
                            objects :=
                              (world.artifacts.filter fun artifact =>
                                artifact.reference.isSome).length
                            pinnedBytes := bytes
                            temporaryBytes := bytes } }
                    let checkpoint : WorldCheckpoint Digest :=
                      { createdAt := publishedAt
                        points := [point] }
                    match core.validate (.checkpoint checkpoint) with
                    | .error error => .error error
                    | .ok () => .ok checkpoint

/-- Evidence digests of one class: its sentinel coverage, then its observations. -/
def classEvidence (world : AutomaticWorldCoordinator Digest Replay)
    (observationClass : AutomaticObservationClass) : List Digest :=
  ((world.registrations observationClass).bind (·.sentinelCoverageDigest)).toList ++
    (world.observations.filter fun observation =>
      observation.observationClass == observationClass).map (·.evidenceDigest)

/-- {lit}`world_closure`: one receipt for each class. -/
def worldClosure (core : Core Digest Replay) (world : AutomaticWorldCoordinator Digest Replay) :
    Except Error (WorldClosure Digest) :=
  if ¬ world.everyRegistration (fun registration =>
      registration.sentinelCoverageDigest.isSome) then
    .error worldNotClosed
  else
    let receipts := AutomaticObservationClass.all.mapM fun observationClass =>
      (core.canonicalDigest (.digests (world.classEvidence observationClass))).map
        fun evidenceDigest =>
          ({ boundaryId := core.boundaryId observationClass
             evidenceDigest := evidenceDigest
             observationClass := observationClass
             version := 1 } : ClosureReceipt Digest)
    match receipts with
    | .error error => .error error
    | .ok receipts =>
        match core.canonicalDigest (.policy (closurePolicy core)) with
        | .error error => .error error
        | .ok policyDigest =>
            let closure : WorldClosure Digest :=
              { policyDigest := policyDigest, receipts := receipts }
            match core.validate (.closure closure) with
            | .error error => .error error
            | .ok () => .ok closure

/-- {lit}`adapter_ownership`: the ownership of every registered class. -/
def adapterOwnership (core : Core Digest Replay)
    (world : AutomaticWorldCoordinator Digest Replay) : List (SemanticAdapterOwnership Digest) :=
  AutomaticObservationClass.all.filterMap fun observationClass =>
    (world.registrations observationClass).map fun registration => registration.ownership core

/-- {lit}`fence`: the receipt of the observation fence. -/
def fence (core : Core Digest Replay) (world : AutomaticWorldCoordinator Digest Replay)
    (worldClosure : WorldClosure Digest) :
    Except Error (NativeObservationFenceReceipt Digest) :=
  match tryU16 world.observations.length with
  | .error error => .error error
  | .ok observationCount =>
      match core.canonicalDigest (.observations world.observations) with
      | .error error => .error error
      | .ok observationsDigest =>
          .ok
            { adapterOwnership := world.adapterOwnership core
              deploymentDigest := core.digestOf (asciiBytes "pending automatic deployment")
              droppedObservationCount := world.droppedObservationCount
              fenceId := fenceIdentifier
              fenceVersion := nativeAdapterVersion
              observationCount := observationCount
              observationsDigest := observationsDigest
              operationId := world.operationId
              overflowed := world.overflowed
              signature := core.encodeBase64url (List.replicate 64 0)
              signerKeyId := "pending-managed-registration"
              subjectDigest := core.digestOf (asciiBytes "pending automatic subject")
              unownedObservationCount := 0
              worldClosure := worldClosure }

/-! ## Closing -/

/-- What a close asks of the coordinator before it publishes anything. -/
def closable (world : AutomaticWorldCoordinator Digest Replay) : Bool :=
  !world.overflowed && !world.incompleteSession && KeyedTable.size world.sessions == 0 &&
    world.droppedObservationCount == 0 &&
    (world.observations.all fun observation => observation.ownerAdapterId.isSome) &&
    world.allRegistered &&
    world.everyRegistration fun registration => registration.sentinelCoverageDigest.isSome

/-- {lit}`close`: publish the capture of a complete World. -/
def close (core : Core Digest Replay) (world : AutomaticWorldCoordinator Digest Replay)
    (completion : TriggerCompletion) (io : CloseIo) :
    Except Error (AutomaticWorldCapture Digest) :=
  if ¬ world.closable then .error worldNotClosed
  else
    match world.commitDependencyTranscript core io with
    | .error error => .error error
    | .ok world =>
        match world.worldClosure core with
        | .error error => .error error
        | .ok worldClosure =>
            match world.worldCheckpoint core io with
            | .error error => .error error
            | .ok checkpoint =>
                match world.fence core worldClosure with
                | .error error => .error error
                | .ok fence =>
                    .ok
                      { closure :=
                          { artifacts := world.artifacts.map (·.artifact)
                            completion := completion
                            world := checkpoint }
                        fence := fence
                        reservation := world.reservation
                        spool := world.spool }

/-- {lit}`finish_replay`: accept a replay that consumed the recorded World. -/
def finishReplay (core : Core Digest Replay) (world : AutomaticWorldCoordinator Digest Replay) :
    Except Error Unit :=
  if world.incompleteSession ∨ world.overflowed ∨ KeyedTable.size world.sessions ≠ 0 then
    .error worldNotClosed
  else
    match world.mode with
    | .replay replay => core.requireComplete replay
    | .capture => .error invalidTransition

/-! ## What a successful close did -/

/-- What a successful commit of the transcript leaves. -/
inductive TranscriptEffect (core : Core Digest Replay)
    (world : AutomaticWorldCoordinator Digest Replay) (io : CloseIo) :
    AutomaticWorldCoordinator Digest Replay → Prop
  | quiet (none : world.dependencyInteractions = []) : TranscriptEffect core world io world
  | written (bytes : Bytes) (objectId : ObjectId) (some : world.dependencyInteractions ≠ [])
      (encoded : core.canonicalBytes (.transcript world.dependencyTranscript) = .ok bytes)
      (drawn : io.transcriptObjectId = .ok objectId) :
      TranscriptEffect core world io
        { world with
          artifacts := world.artifacts ++ [transcriptArtifact core (core.digestOf bytes) objectId]
          reservation := world.reservation + bytes.length
          spool := Function.update world.spool .dependencyTranscript (Option.some bytes) }

/-- A successful commit of the transcript writes it, unless there is nothing to write. -/
theorem commitDependencyTranscript_effect {core : Core Digest Replay}
    {world next : AutomaticWorldCoordinator Digest Replay} {io : CloseIo}
    (committed : world.commitDependencyTranscript core io = .ok next) :
    TranscriptEffect core world io next := by
  unfold commitDependencyTranscript at committed
  split at committed
  · cases committed
    exact .quiet ‹_›
  · rename_i some
    split at committed
    · cases committed
    · split at committed
      · cases committed
      · rename_i bytes encoded
        split at committed
        · cases committed
        · split at committed
          · cases committed
          · rename_i spool stored
            have spool_eq : spool =
                Function.update world.spool .dependencyTranscript (Option.some bytes) := by
              unfold writeFile at stored
              split at stored <;> cases stored
              rfl
            unfold nameDependencyTranscript at committed
            split at committed
            · cases committed
            · split at committed
              · cases committed
              · split at committed
                · cases committed
                · rename_i objectId drawn
                  cases committed
                  rw [spool_eq]
                  exact .written bytes objectId some encoded drawn

/-- A checkpoint references the World artifacts at its one point. -/
theorem worldCheckpoint_points {core : Core Digest Replay}
    {world : AutomaticWorldCoordinator Digest Replay} {io : CloseIo}
    {checkpoint : WorldCheckpoint Digest} (made : world.worldCheckpoint core io = .ok checkpoint) :
    checkpoint.points.flatMap (·.artifacts) = world.worldReferences := by
  unfold worldCheckpoint at made
  split at made
  · cases made
  · split at made
    · cases made
    · split at made
      · cases made
      · split at made
        · cases made
        · split at made
          · cases made
          · dsimp only at made
            split at made
            · cases made
            · cases made
              exact List.append_nil _

/-- What a fence counts and digests. -/
structure Fences (core : Core Digest Replay) (world : AutomaticWorldCoordinator Digest Replay)
    (fence : NativeObservationFenceReceipt Digest) : Prop where
  count : fence.observationCount = world.observations.length
  digest : core.canonicalDigest (.observations world.observations) = .ok fence.observationsDigest
  operation : fence.operationId = world.operationId
  noneDropped : fence.droppedObservationCount = world.droppedObservationCount
  complete : fence.overflowed = world.overflowed

/-- A fence counts and digests the observations. -/
theorem fence_fences {core : Core Digest Replay} {world : AutomaticWorldCoordinator Digest Replay}
    {worldClosure : WorldClosure Digest} {fence : NativeObservationFenceReceipt Digest}
    (made : world.fence core worldClosure = .ok fence) : world.Fences core fence := by
  unfold AutomaticWorldCoordinator.fence tryU16 at made
  split at made
  · cases made
  · rename_i observationCount counted
    split at made
    · cases made
    · rename_i observationsDigest digested
      cases made
      split at counted <;> cases counted
      exact ⟨rfl, digested, rfl, rfl, rfl⟩

/-- What a successful close made: the state with the transcript, and a capture of it. -/
structure CloseEffect (core : Core Digest Replay) (world : AutomaticWorldCoordinator Digest Replay)
    (io : CloseIo) (capture : AutomaticWorldCapture Digest)
    (named : AutomaticWorldCoordinator Digest Replay) : Prop where
  ready : world.closable = true
  transcript : TranscriptEffect core world io named
  artifacts : capture.closure.artifacts = named.artifacts.map (·.artifact)
  references : capture.closure.world.points.flatMap (·.artifacts) = named.worldReferences
  fenced : named.Fences core capture.fence
  reservation : capture.reservation = named.reservation
  spool : capture.spool = named.spool

/-- What a successful close publishes. -/
theorem close_effect {core : Core Digest Replay} {world : AutomaticWorldCoordinator Digest Replay}
    {completion : TriggerCompletion} {io : CloseIo} {capture : AutomaticWorldCapture Digest}
    (closed : world.close core completion io = .ok capture) :
    ∃ named, world.CloseEffect core io capture named := by
  unfold close at closed
  split at closed
  · cases closed
  · rename_i ready
    split at closed
    · cases closed
    · rename_i named committed
      split at closed
      · cases closed
      · split at closed
        · cases closed
        · rename_i checkpoint made
          split at closed
          · cases closed
          · rename_i fence fenced
            cases closed
            exact ⟨named,
              { ready := not_not.mp ready
                transcript := commitDependencyTranscript_effect committed
                artifacts := rfl
                references := worldCheckpoint_points made
                fenced := fence_fences fenced
                reservation := rfl
                spool := rfl }⟩

end AutomaticWorldCoordinator
end AutomaticWorld
end ReproItSdk
