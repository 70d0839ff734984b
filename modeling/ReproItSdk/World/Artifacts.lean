import ReproItSdk.World.Coordinator

/-! # Artifacts of an automatic World

Commit of a finished session.  A dependency session becomes one interaction of the transcript with
two raw artifacts, a state session becomes one artifact that the World checkpoint references.

Main definitions:

- Function {lit}`commitSession`: digest both streams, add the artifacts, record the observation.
- Function {lit}`commitDependencyTranscript`: publish the interactions as one artifact.
-/

namespace ReproItSdk
namespace AutomaticWorld

variable {Digest Replay : Type}

/-- Identifier of the adapter behind the transcript and the checkpoint. -/
def nativeAdapterId : String :=
  "reproit-native"

/-- Version of that adapter. -/
def nativeAdapterVersion : String :=
  "1.0.0"

/-- Media type of the transcript artifact. -/
def dependencyTranscriptMediaType : String :=
  "application/vnd.reproit.dependency-transcript.v1+json"

/-- Media type of a raw observation artifact. -/
def observationObjectMediaType : String :=
  "application/octet-stream"

/-- Classes whose sessions go to the dependency transcript. -/
def isDependencyClass : AutomaticObservationClass → Bool
  | .clock | .database | .outboundHttp | .queue | .randomness => true
  | .environment | .filesystem => false

/-- {lit}`u16::try_from`. -/
def tryU16 (value : Nat) : Except Error Nat :=
  if value ≤ u16Max then .ok value else .error captureLimit

/-- A raw artifact of a dependency session. -/
def rawDependencyArtifact (objectId : ObjectId) (path : SpoolFile) (uri : String) :
    ObservationArtifact Digest where
  artifact :=
    { mediaType := observationObjectMediaType
      objectId := objectId
      path := path
      role := .dependencyTranscript
      uri := uri }
  reference := none

/-! ## Names -/

/-- Common part of the names of the two artifacts of a dependency session. -/
def dependencyUri (core : Core Digest Replay) (observationClass : AutomaticObservationClass)
    (requestDigest : Digest) : String :=
  "reproit-managed://automatic-dependency/" ++ core.boundaryId observationClass ++ "/" ++
    core.digestText requestDigest

/-- Last part of the name of a state artifact. -/
def outcomeName : DependencyOutcome → String
  | .error => "error"
  | .response => "response"

/-- Name of a state artifact. -/
def stateUri (core : Core Digest Replay) (observationClass : AutomaticObservationClass)
    (requestDigest : Digest) (sessionPosition : Nat) (outcome : DependencyOutcome) : String :=
  "reproit-managed://automatic-world/" ++ core.boundaryId observationClass ++ "/" ++
    core.digestText requestDigest ++ "/" ++ toString sessionPosition ++ "/" ++ outcomeName outcome

/-- Name of the artifact of an unowned observation. -/
def unownedUri (core : Core Digest Replay) (sequence : Nat) (digest : Digest) : String :=
  "reproit-managed://automatic-unowned/" ++ toString sequence ++ "/" ++ core.digestText digest

/-- Name of the transcript artifact. -/
def transcriptUri (core : Core Digest Replay) (digest : Digest) : String :=
  "reproit-managed://automatic-dependency/transcript/" ++ core.digestText digest

/-! ## Committing a session -/

/-- Outcomes of the steps of a finish: the record reads, the digest reads, the fresh object
identifiers and the answer of the SDK. -/
structure FinishIo where
  validateRequest : Bool
  validateResponse : Bool
  digestRequest : Bool
  digestResponse : Bool
  requestObjectId : Except Error ObjectId
  responseObjectId : Except Error ObjectId
  recorded : Except Error Unit

namespace AutomaticWorldCoordinator

/-- {lit}`commit_dependency_interaction`: two raw artifacts and one interaction. -/
def commitDependencyInteraction (core : Core Digest Replay)
    (world : AutomaticWorldCoordinator Digest Replay) (session : ObservationSession)
    (outcome : DependencyOutcome) (sessionPosition : Nat) (requestDigest responseDigest : Digest)
    (io : FinishIo) : Except Error Digest × AutomaticWorldCoordinator Digest Replay :=
  match io.requestObjectId with
  | .error error => (.error error, world)
  | .ok requestObjectId =>
      match io.responseObjectId with
      | .error error => (.error error, world)
      | .ok responseObjectId =>
          match tryU16 world.dependencyInteractions.length with
          | .error error => (.error error, world)
          | .ok sequence =>
              let interaction : DependencyTranscriptInteraction Digest :=
                { causalParentId := session.causalParentId
                  operationId := world.operationId
                  outcome := outcome
                  requestDigest := requestDigest
                  requestObjectId := requestObjectId
                  responseDigest := responseDigest
                  responseObjectId := responseObjectId
                  sequence := sequence
                  sessionPosition := sessionPosition }
              let uri := dependencyUri core session.observationClass requestDigest
              let world :=
                { world with
                  artifacts := world.artifacts ++
                    [rawDependencyArtifact requestObjectId session.requestPath (uri ++ "/request"),
                     rawDependencyArtifact responseObjectId session.responsePath
                      (uri ++ "/response")] }
              match core.canonicalDigest (.interaction interaction) with
              | .error error => (.error error, world)
              | .ok evidenceDigest =>
                  (.ok evidenceDigest,
                    { world with
                      dependencyInteractions := world.dependencyInteractions ++ [interaction] })

/-- {lit}`commit_state_artifact`: one artifact with its reference. -/
def commitStateArtifact (core : Core Digest Replay)
    (world : AutomaticWorldCoordinator Digest Replay)
    (observationClass : AutomaticObservationClass) (outcome : DependencyOutcome)
    (sessionPosition : Nat) (requestDigest responseDigest : Digest) (responseSize : Nat)
    (responsePath : SpoolFile) (io : FinishIo) :
    Except Error Digest × AutomaticWorldCoordinator Digest Replay :=
  let uri := stateUri core observationClass requestDigest sessionPosition outcome
  let reference : ArtifactReference Digest :=
    { digest := responseDigest
      mediaType := observationObjectMediaType
      size := responseSize
      uri := uri }
  match core.canonicalDigest (.reference reference) with
  | .error error => (.error error, world)
  | .ok evidenceDigest =>
      match io.responseObjectId with
      | .error error => (.error error, world)
      | .ok objectId =>
          (.ok evidenceDigest,
            { world with
              artifacts := world.artifacts ++
                [{ artifact :=
                    { mediaType := observationObjectMediaType
                      objectId := objectId
                      path := responsePath
                      role := .worldState
                      uri := uri }
                   reference := some reference }] })

/-- The part of {lit}`commit_session` that adds the artifacts of a session. -/
def commitArtifacts (core : Core Digest Replay) (world : AutomaticWorldCoordinator Digest Replay)
    (session : ObservationSession) (outcome : DependencyOutcome) (sessionPosition : Nat)
    (requestDigest responseDigest : Digest) (io : FinishIo) :
    Except Error Digest × AutomaticWorldCoordinator Digest Replay :=
  if isDependencyClass session.observationClass then
    world.commitDependencyInteraction core session outcome sessionPosition requestDigest
      responseDigest io
  else
    world.commitStateArtifact core session.observationClass outcome sessionPosition requestDigest
      responseDigest session.responseBytes session.responsePath io

/-- The part of {lit}`commit_session` that records the observation. -/
def commitObservation (core : Core Digest Replay)
    (world : AutomaticWorldCoordinator Digest Replay) (session : ObservationSession)
    (evidenceDigest : Digest) (recorded : Except Error Unit) :
    Except Error Unit × AutomaticWorldCoordinator Digest Replay :=
  match tryU16 world.observations.length with
  | .error error => (.error error, world)
  | .ok observationSequence =>
      match world.registrations session.observationClass with
      | none => (.error worldNotClosed, world)
      | some registration =>
          let observation : AutomaticObservationPayload Digest :=
            { boundaryId := core.boundaryId session.observationClass
              causalParentId := session.causalParentId
              evidenceDigest := evidenceDigest
              observationClass := session.observationClass
              observationSequence := observationSequence
              operationId := world.operationId
              ownerAdapterId := some registration.adapterId }
          match world.recordWithSdk recorded with
          | .error error => (.error error, world)
          | .ok () => (.ok (), { world with observations := world.observations ++ [observation] })

/-- {lit}`commit_session`: publish a finished session. -/
def commitSession (core : Core Digest Replay) (world : AutomaticWorldCoordinator Digest Replay)
    (session : ObservationSession) (outcome : DependencyOutcome) (sessionPosition : Nat)
    (io : FinishIo) : Except Error Unit × AutomaticWorldCoordinator Digest Replay :=
  if maxEvents ≤ world.observations.length then (.error captureLimit, world)
  else
    match digestFile core world.spool session.requestPath session.requestBytes
        io.digestRequest with
    | .error error => (.error error, world)
    | .ok requestDigest =>
        match digestFile core world.spool session.responsePath session.responseBytes
            io.digestResponse with
        | .error error => (.error error, world)
        | .ok responseDigest =>
            let committed := world.commitArtifacts core session outcome sessionPosition
              requestDigest responseDigest io
            match committed.1 with
            | .error error => (.error error, committed.2)
            | .ok evidenceDigest =>
                committed.2.commitObservation core session evidenceDigest io.recorded

/-- {lit}`finish_observation`: end a session and publish it. -/
def finishObservation (core : Core Digest Replay)
    (world : AutomaticWorldCoordinator Digest Replay) (sessionId : Nat)
    (outcome : DependencyOutcome) (sessionPosition : Nat) (io : FinishIo) :
    Except Error Unit × AutomaticWorldCoordinator Digest Replay :=
  match world.sessions.lookup sessionId with
  | none => (.error notFound, world)
  | some session =>
      let world := { world with sessions := world.sessions.erase sessionId }
      if ¬ session.responseComplete ∨ session.requestBytes = 0 ∨ session.responseBytes = 0 ∨
          maxSessionPosition < sessionPosition then
        (.error invalidTransition, world.loseSession)
      else if sessionPosition ≠ session.sessionPosition then
        (.error invalidTransition, world.loseSession)
      else
        match validateSemanticPair core session world.spool outcome io.validateRequest
            io.validateResponse with
        | .error error => (.error error, world.loseSession)
        | .ok () =>
            match world.mode with
            | .replay _ => (.ok (), world)
            | .capture =>
                let committed := world.commitSession core session outcome sessionPosition io
                match committed.1 with
                | .error error => (.error error, committed.2.loseSession)
                | .ok () => (.ok (), committed.2)

/-- {lit}`abandon_observation`: drop a session. -/
def abandonObservation (world : AutomaticWorldCoordinator Digest Replay) (sessionId : Nat) :
    Except Error Unit × AutomaticWorldCoordinator Digest Replay :=
  match world.sessions.lookup sessionId with
  | none => (.error notFound, world)
  | some _ => (.ok (), { world with sessions := world.sessions.erase sessionId }.loseSession)

end AutomaticWorldCoordinator
end AutomaticWorld
end ReproItSdk
