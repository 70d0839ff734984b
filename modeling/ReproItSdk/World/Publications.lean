import ReproItSdk.World.Effects

/-! # Publications

A finished session is published as one observation together with its artifacts and, for a
dependency class, one interaction.  A publication collects what the three are made of.  This file
gives the effects of the calls that publish, abandon or record observations.

Main results:

- Theorem {lit}`finishObservation_effect`: a finish of an open session poisons or publishes it.
- Theorem {lit}`markUnowned_effect`: an unowned observation is dropped, recorded or lost silently.
- Theorem {lit}`bindNativeSentinelCoverage_effect`: binding keeps the registered classes.
-/

namespace ReproItSdk
namespace AutomaticWorld

variable {Digest Replay : Type}

/-! ## What a session is published as -/

/-- The data behind the observation, the interaction and the artifacts of one finished session. -/
structure Publication (Digest : Type) where
  observationClass : AutomaticObservationClass
  causalParentId : Option OperationId
  sessionPosition : Nat
  outcome : DependencyOutcome
  request : Bytes
  response : Bytes
  requestPath : SpoolFile
  responsePath : SpoolFile
  requestObjectId : ObjectId
  responseObjectId : ObjectId
  interactionSequence : Nat
  observationSequence : Nat
  evidenceDigest : Digest
  ownerAdapterId : String

namespace Publication

/-- The interaction of a dependency session. -/
def interaction (core : Core Digest Replay) (operationId : OperationId)
    (publication : Publication Digest) : DependencyTranscriptInteraction Digest where
  causalParentId := publication.causalParentId
  operationId := operationId
  outcome := publication.outcome
  requestDigest := core.sha256 publication.request
  requestObjectId := publication.requestObjectId
  responseDigest := core.sha256 publication.response
  responseObjectId := publication.responseObjectId
  sequence := publication.interactionSequence
  sessionPosition := publication.sessionPosition

/-- The reference to the artifact of a state session. -/
def reference (core : Core Digest Replay) (publication : Publication Digest) :
    ArtifactReference Digest where
  digest := core.sha256 publication.response
  mediaType := observationObjectMediaType
  size := publication.response.length
  uri := stateUri core publication.observationClass (core.sha256 publication.request)
    publication.sessionPosition publication.outcome

/-- The artifacts of a dependency session. -/
def dependencyArtifacts (core : Core Digest Replay) (publication : Publication Digest) :
    List (ObservationArtifact Digest) :=
  let uri := dependencyUri core publication.observationClass (core.sha256 publication.request)
  [rawDependencyArtifact publication.requestObjectId publication.requestPath (uri ++ "/request"),
   rawDependencyArtifact publication.responseObjectId publication.responsePath (uri ++ "/response")]

/-- The artifact of a state session. -/
def stateArtifact (core : Core Digest Replay) (publication : Publication Digest) :
    ObservationArtifact Digest where
  artifact :=
    { mediaType := observationObjectMediaType
      objectId := publication.responseObjectId
      path := publication.responsePath
      role := .worldState
      uri := (publication.reference core).uri }
  reference := some (publication.reference core)

/-- All artifacts of a session. -/
def artifacts (core : Core Digest Replay) (publication : Publication Digest) :
    List (ObservationArtifact Digest) :=
  if isDependencyClass publication.observationClass then publication.dependencyArtifacts core
  else [publication.stateArtifact core]

/-- The interactions of a session: one for a dependency class, none for a state class. -/
def interactions (core : Core Digest Replay) (operationId : OperationId)
    (publication : Publication Digest) : List (DependencyTranscriptInteraction Digest) :=
  if isDependencyClass publication.observationClass then
    [publication.interaction core operationId]
  else []

/-- The observation of a session. -/
def observation (core : Core Digest Replay) (operationId : OperationId)
    (publication : Publication Digest) : AutomaticObservationPayload Digest where
  boundaryId := core.boundaryId publication.observationClass
  causalParentId := publication.causalParentId
  evidenceDigest := publication.evidenceDigest
  observationClass := publication.observationClass
  observationSequence := publication.observationSequence
  operationId := operationId
  ownerAdapterId := some publication.ownerAdapterId

/-- The value whose digest is the evidence of the observation. -/
def evidence (core : Core Digest Replay) (operationId : OperationId)
    (publication : Publication Digest) : Canonical Digest :=
  if isDependencyClass publication.observationClass then
    .interaction (publication.interaction core operationId)
  else .reference (publication.reference core)

end Publication

namespace AutomaticWorldCoordinator

/-- What makes a publication the one of a session that a state publishes. -/
structure Publishes (core : Core Digest Replay) (world : AutomaticWorldCoordinator Digest Replay)
    (session : ObservationSession) (outcome : DependencyOutcome) (io : FinishIo)
    (publication : Publication Digest) : Prop where
  sameClass : publication.observationClass = session.observationClass
  sameParent : publication.causalParentId = session.causalParentId
  samePosition : publication.sessionPosition = session.sessionPosition
  sameOutcome : publication.outcome = outcome
  sameRequestPath : publication.requestPath = session.requestPath
  sameResponsePath : publication.responsePath = session.responsePath
  requestStored : world.spool session.requestPath = some publication.request
  requestCounted : publication.request.length = session.requestBytes
  responseStored : world.spool session.responsePath = some publication.response
  responseCounted : publication.response.length = session.responseBytes
  responseDrawn : io.responseObjectId = .ok publication.responseObjectId
  requestDrawn : isDependencyClass session.observationClass = true →
    io.requestObjectId = .ok publication.requestObjectId
  interactionNext : publication.interactionSequence = world.dependencyInteractions.length
  observationNext : publication.observationSequence = world.observations.length
  evidenced : core.canonicalDigest (publication.evidence core world.operationId) =
    .ok publication.evidenceDigest

/-- The state after a publication. -/
def publish (core : Core Digest Replay) (world : AutomaticWorldCoordinator Digest Replay)
    (publication : Publication Digest) : AutomaticWorldCoordinator Digest Replay :=
  { world with
    artifacts := world.artifacts ++ publication.artifacts core
    dependencyInteractions :=
      world.dependencyInteractions ++ publication.interactions core world.operationId
    observations := world.observations ++ [publication.observation core world.operationId] }

/-! ## Finish -/

private theorem tryU16_ok {value result : Nat} (converted : tryU16 value = .ok result) :
    result = value := by
  unfold tryU16 at converted
  split at converted <;> cases converted
  rfl

/-- A failed commit of artifacts changes the artifacts at most. -/
private theorem commitArtifacts_error {core : Core Digest Replay}
    {world : AutomaticWorldCoordinator Digest Replay} {session : ObservationSession}
    {outcome : DependencyOutcome} {sessionPosition : Nat} {requestDigest responseDigest : Digest}
    {io : FinishIo} {error : Error}
    (failed : (world.commitArtifacts core session outcome sessionPosition requestDigest
      responseDigest io).1 = .error error) :
    ∃ artifacts, (world.commitArtifacts core session outcome sessionPosition requestDigest
      responseDigest io).2 = { world with artifacts := artifacts } := by
  unfold commitArtifacts at failed ⊢
  split at failed
  · rename_i dependency
    simp only [dependency, if_true]
    unfold commitDependencyInteraction at failed ⊢
    cases requestDrawn : io.requestObjectId with
    | error cause => exact ⟨world.artifacts, rfl⟩
    | ok requestObjectId =>
        cases responseDrawn : io.responseObjectId with
        | error cause => exact ⟨world.artifacts, rfl⟩
        | ok responseObjectId =>
            cases converted : tryU16 world.dependencyInteractions.length with
            | error cause => exact ⟨world.artifacts, rfl⟩
            | ok sequence =>
                simp only [requestDrawn, responseDrawn, converted] at failed ⊢
                split at failed
                · exact ⟨_, rfl⟩
                · cases failed
  · rename_i state
    simp only [state]
    unfold commitStateArtifact at failed ⊢
    dsimp only at failed ⊢
    split at failed
    · exact ⟨world.artifacts, rfl⟩
    · split at failed
      · exact ⟨world.artifacts, rfl⟩
      · cases failed

/-- A successful commit of artifacts adds those of a publication. -/
private theorem commitArtifacts_ok {core : Core Digest Replay}
    {world : AutomaticWorldCoordinator Digest Replay} {session : ObservationSession}
    {outcome : DependencyOutcome} {sessionPosition : Nat} {request response : Bytes}
    {io : FinishIo} {evidenceDigest : Digest} (ownerAdapterId : String)
    (samePosition : sessionPosition = session.sessionPosition)
    (requestStored : world.spool session.requestPath = some request)
    (requestCounted : request.length = session.requestBytes)
    (responseStored : world.spool session.responsePath = some response)
    (responseCounted : response.length = session.responseBytes)
    (committed : (world.commitArtifacts core session outcome sessionPosition (core.sha256 request)
      (core.sha256 response) io).1 = .ok evidenceDigest) :
    ∃ publication : Publication Digest, world.Publishes core session outcome io publication ∧
      publication.evidenceDigest = evidenceDigest ∧
      publication.ownerAdapterId = ownerAdapterId ∧
      (world.commitArtifacts core session outcome sessionPosition (core.sha256 request)
        (core.sha256 response) io).2 =
        { world with
          artifacts := world.artifacts ++ publication.artifacts core
          dependencyInteractions :=
            world.dependencyInteractions ++ publication.interactions core world.operationId } := by
  unfold commitArtifacts at committed ⊢
  split at committed
  · rename_i dependency
    simp only [dependency, if_true]
    unfold commitDependencyInteraction at committed ⊢
    cases requestDrawn : io.requestObjectId with
    | error cause => simp [requestDrawn] at committed
    | ok requestObjectId =>
        cases responseDrawn : io.responseObjectId with
        | error cause => simp [requestDrawn, responseDrawn] at committed
        | ok responseObjectId =>
            cases converted : tryU16 world.dependencyInteractions.length with
            | error cause => simp [requestDrawn, responseDrawn, converted] at committed
            | ok sequence =>
                simp only [requestDrawn, responseDrawn, converted] at committed ⊢
                split at committed
                · cases committed
                · rename_i digest evidenced
                  cases committed
                  refine ⟨
                    { observationClass := session.observationClass
                      causalParentId := session.causalParentId
                      sessionPosition := session.sessionPosition
                      outcome := outcome
                      request := request
                      response := response
                      requestPath := session.requestPath
                      responsePath := session.responsePath
                      requestObjectId := requestObjectId
                      responseObjectId := responseObjectId
                      interactionSequence := sequence
                      observationSequence := world.observations.length
                      evidenceDigest := evidenceDigest
                      ownerAdapterId := ownerAdapterId },
                    ⟨rfl, rfl, rfl, rfl, rfl, rfl, requestStored, requestCounted, responseStored,
                      responseCounted, responseDrawn, fun _ => requestDrawn,
                      tryU16_ok converted, rfl, ?_⟩, rfl, rfl, ?_⟩
                  · subst samePosition
                    simpa [Publication.evidence, Publication.interaction, dependency]
                      using evidenced
                  · subst samePosition
                    simp [Publication.artifacts, Publication.interactions,
                      Publication.dependencyArtifacts, Publication.interaction, dependency]
  · rename_i state
    simp only [state]
    unfold commitStateArtifact at committed ⊢
    dsimp only at committed ⊢
    split at committed
    · cases committed
    · rename_i digest evidenced
      split at committed
      · cases committed
      · rename_i objectId responseDrawn
        cases committed
        refine ⟨
          { observationClass := session.observationClass
            causalParentId := session.causalParentId
            sessionPosition := session.sessionPosition
            outcome := outcome
            request := request
            response := response
            requestPath := session.requestPath
            responsePath := session.responsePath
            requestObjectId := objectId
            responseObjectId := objectId
            interactionSequence := world.dependencyInteractions.length
            observationSequence := world.observations.length
            evidenceDigest := evidenceDigest
            ownerAdapterId := ownerAdapterId },
          ⟨rfl, rfl, rfl, rfl, rfl, rfl, requestStored, requestCounted, responseStored,
            responseCounted, responseDrawn, fun dependency => absurd dependency state,
            rfl, rfl, ?_⟩, rfl, rfl, ?_⟩
        · subst samePosition
          simpa [Publication.evidence, Publication.reference, state, responseCounted]
            using evidenced
        · subst samePosition
          simp [Publication.artifacts, Publication.interactions, Publication.stateArtifact,
            Publication.reference, state, responseCounted]

/-- A failed record of an observation changes nothing. -/
private theorem commitObservation_error {core : Core Digest Replay}
    {world : AutomaticWorldCoordinator Digest Replay} {session : ObservationSession}
    {evidenceDigest : Digest} {recorded : Except Error Unit} {error : Error}
    (failed : (world.commitObservation core session evidenceDigest recorded).1 = .error error) :
    (world.commitObservation core session evidenceDigest recorded).2 = world := by
  unfold commitObservation at failed ⊢
  split at failed
  · rfl
  · split at failed
    · rfl
    · dsimp only at failed ⊢
      split at failed
      · rfl
      · cases failed

/-- A recorded observation is numbered by the observations before it. -/
private theorem commitObservation_ok {core : Core Digest Replay}
    {world : AutomaticWorldCoordinator Digest Replay} {session : ObservationSession}
    {evidenceDigest : Digest} {recorded : Except Error Unit}
    (committed : (world.commitObservation core session evidenceDigest recorded).1 = .ok ()) :
    ∃ ownerAdapterId, (world.commitObservation core session evidenceDigest recorded).2 =
      { world with
        observations := world.observations ++
          [{ boundaryId := core.boundaryId session.observationClass
             causalParentId := session.causalParentId
             evidenceDigest := evidenceDigest
             observationClass := session.observationClass
             observationSequence := world.observations.length
             operationId := world.operationId
             ownerAdapterId := some ownerAdapterId }] } := by
  unfold commitObservation at committed ⊢
  split at committed
  · cases committed
  · rename_i sequence converted
    cases tryU16_ok converted
    split at committed
    · cases committed
    · rename_i registration registered
      dsimp only at committed ⊢
      split at committed
      · cases committed
      · exact ⟨registration.adapterId, rfl⟩

/-- A failed commit changes the artifacts and the interactions at most. -/
private theorem commitSession_error {core : Core Digest Replay}
    {world : AutomaticWorldCoordinator Digest Replay} {session : ObservationSession}
    {outcome : DependencyOutcome} {io : FinishIo} {error : Error}
    (failed : (world.commitSession core session outcome session.sessionPosition io).1 =
      .error error) :
    ∃ artifacts interactions,
      (world.commitSession core session outcome session.sessionPosition io).2 =
        { world with artifacts := artifacts, dependencyInteractions := interactions } := by
  by_cases full : maxEvents ≤ world.observations.length
  · rw [commitSession, if_pos full]
    exact ⟨world.artifacts, world.dependencyInteractions, rfl⟩
  · rw [commitSession, if_neg full] at failed ⊢
    cases requestDigested : digestFile core world.spool session.requestPath session.requestBytes
        io.digestRequest with
    | error cause => exact ⟨world.artifacts, world.dependencyInteractions, rfl⟩
    | ok requestDigest =>
        cases responseDigested : digestFile core world.spool session.responsePath
            session.responseBytes io.digestResponse with
        | error cause => exact ⟨world.artifacts, world.dependencyInteractions, rfl⟩
        | ok responseDigest =>
            obtain ⟨request, requestStored, requestCounted, rfl⟩ := digestFile_ok requestDigested
            obtain ⟨response, responseStored, responseCounted, rfl⟩ :=
              digestFile_ok responseDigested
            simp only [requestDigested, responseDigested] at failed ⊢
            cases artifactsCommitted : (world.commitArtifacts core session outcome
                session.sessionPosition (core.sha256 request) (core.sha256 response) io).1 with
            | error cause =>
                obtain ⟨artifacts, left⟩ := commitArtifacts_error artifactsCommitted
                exact ⟨artifacts, world.dependencyInteractions, left⟩
            | ok evidenceDigest =>
                simp only [artifactsCommitted] at failed ⊢
                obtain ⟨publication, _, _, _, left⟩ := commitArtifacts_ok "" rfl requestStored
                  requestCounted responseStored responseCounted artifactsCommitted
                exact ⟨_, _, (commitObservation_error failed).trans left⟩

/-- A successful commit adds a publication. -/
private theorem commitSession_ok {core : Core Digest Replay}
    {world : AutomaticWorldCoordinator Digest Replay} {session : ObservationSession}
    {outcome : DependencyOutcome} {io : FinishIo}
    (committed : (world.commitSession core session outcome session.sessionPosition io).1 =
      .ok ()) :
    ∃ publication : Publication Digest, world.Publishes core session outcome io publication ∧
      (world.commitSession core session outcome session.sessionPosition io).2 =
        world.publish core publication := by
  by_cases full : maxEvents ≤ world.observations.length
  · rw [commitSession, if_pos full] at committed
    cases committed
  · rw [commitSession, if_neg full] at committed ⊢
    cases requestDigested : digestFile core world.spool session.requestPath session.requestBytes
        io.digestRequest with
    | error cause => simp [requestDigested] at committed
    | ok requestDigest =>
        cases responseDigested : digestFile core world.spool session.responsePath
            session.responseBytes io.digestResponse with
        | error cause => simp [requestDigested, responseDigested] at committed
        | ok responseDigest =>
            obtain ⟨request, requestStored, requestCounted, rfl⟩ := digestFile_ok requestDigested
            obtain ⟨response, responseStored, responseCounted, rfl⟩ :=
              digestFile_ok responseDigested
            simp only [requestDigested, responseDigested] at committed ⊢
            cases artifactsCommitted : (world.commitArtifacts core session outcome
                session.sessionPosition (core.sha256 request) (core.sha256 response) io).1 with
            | error cause => simp [artifactsCommitted] at committed
            | ok evidenceDigest =>
                simp only [artifactsCommitted] at committed ⊢
                obtain ⟨ownerAdapterId, recorded⟩ := commitObservation_ok committed
                obtain ⟨publication, published, evidenced, owned, left⟩ :=
                  commitArtifacts_ok ownerAdapterId rfl requestStored requestCounted
                    responseStored responseCounted artifactsCommitted
                refine ⟨publication, published, recorded.trans ?_⟩
                simp [left, publish, Publication.observation, published.sameClass,
                  published.sameParent, published.observationNext, evidenced, owned]

/-- Replies and next states of a finish. -/
inductive FinishEffect (core : Core Digest Replay)
    (world : AutomaticWorldCoordinator Digest Replay) (sessionId : Nat)
    (outcome : DependencyOutcome) (io : FinishIo) :
    Except Error Unit → AutomaticWorldCoordinator Digest Replay → Prop
  | unknown (absent : world.sessions.lookup sessionId = none) :
      FinishEffect core world sessionId outcome io (.error notFound) world
  | lost (error : Error) (session : ObservationSession)
      (present : world.sessions.lookup sessionId = some session)
      (artifacts : List (ObservationArtifact Digest))
      (interactions : List (DependencyTranscriptInteraction Digest)) :
      FinishEffect core world sessionId outcome io (.error error)
        { world with
          sessions := world.sessions.erase sessionId
          artifacts := artifacts
          dependencyInteractions := interactions
          incompleteSession := true }
  | replayed (session : ObservationSession) (replay : Replay)
      (present : world.sessions.lookup sessionId = some session)
      (complete : session.responseComplete = true) (replays : world.mode = .replay replay) :
      FinishEffect core world sessionId outcome io (.ok ())
        { world with sessions := world.sessions.erase sessionId }
  | published (session : ObservationSession) (publication : Publication Digest)
      (present : world.sessions.lookup sessionId = some session)
      (complete : session.responseComplete = true)
      (captures : world.mode = .capture)
      (published : world.Publishes core session outcome io publication) :
      FinishEffect core world sessionId outcome io (.ok ())
        ({ world with sessions := world.sessions.erase sessionId }.publish core publication)

/-- A finish of an open session poisons or publishes it. -/
theorem finishObservation_effect (core : Core Digest Replay)
    (world : AutomaticWorldCoordinator Digest Replay) (sessionId : Nat)
    (outcome : DependencyOutcome) (sessionPosition : Nat) (io : FinishIo) :
    world.FinishEffect core sessionId outcome io
      (world.finishObservation core sessionId outcome sessionPosition io).1
      (world.finishObservation core sessionId outcome sessionPosition io).2 := by
  unfold finishObservation
  split
  · rename_i absent
    exact .unknown absent
  · rename_i session present
    dsimp only
    split
    · exact .lost invalidTransition session present _ _
    · rename_i ready
      have complete : session.responseComplete = true := by
        by_contra incomplete
        exact ready (.inl incomplete)
      split
      · exact .lost invalidTransition session present _ _
      · rename_i position
        cases not_not.mp position
        split
        · rename_i error _
          exact .lost error session present _ _
        · split
          · rename_i replay replays
            exact .replayed session replay present complete replays
          · rename_i captures
            split
            · rename_i error failed
              obtain ⟨artifacts, interactions, left⟩ := commitSession_error failed
              rw [left]
              exact .lost error session present artifacts interactions
            · rename_i committed
              obtain ⟨publication, published, left⟩ := commitSession_ok committed
              rw [left]
              exact .published session publication present complete captures
                { published with }

/-! ## Abandon -/

/-- Replies and next states of an abandon. -/
inductive AbandonEffect (world : AutomaticWorldCoordinator Digest Replay) (sessionId : Nat) :
    Except Error Unit → AutomaticWorldCoordinator Digest Replay → Prop
  | unknown (absent : world.sessions.lookup sessionId = none) :
      AbandonEffect world sessionId (.error notFound) world
  | abandoned (session : ObservationSession)
      (present : world.sessions.lookup sessionId = some session) :
      AbandonEffect world sessionId (.ok ())
        { world with
          sessions := world.sessions.erase sessionId
          incompleteSession := true }

/-- An abandon of an open session drops it and poisons the World. -/
theorem abandonObservation_effect (world : AutomaticWorldCoordinator Digest Replay)
    (sessionId : Nat) :
    world.AbandonEffect sessionId (world.abandonObservation sessionId).1
      (world.abandonObservation sessionId).2 := by
  unfold abandonObservation
  split
  · rename_i absent
    exact .unknown absent
  · rename_i session present
    exact .abandoned session present

/-! ## Unowned observations -/

/-- In capture mode a record is answered by the SDK. -/
theorem recordWithSdk_of_captures {world : AutomaticWorldCoordinator Digest Replay}
    {recorded : Except Error Unit} (captures : world.captures = true) :
    world.recordWithSdk recorded = recorded := by
  unfold AutomaticWorldCoordinator.captures at captures
  unfold recordWithSdk
  cases mode : world.mode with
  | capture => rfl
  | replay replay => simp [mode] at captures

/-- An unowned observation that passes every check. -/
def AdmitsUnowned (world : AutomaticWorldCoordinator Digest Replay) (evidence : Bytes)
    (io : UnownedIo) : Prop :=
  world.captures = true ∧ evidence ≠ [] ∧ world.observations.length < maxEvents ∧
    evidence.length ≤ maxWorldArtifactBytes ∧ io.reserved = true

instance (world : AutomaticWorldCoordinator Digest Replay) (evidence : Bytes) (io : UnownedIo) :
    Decidable (world.AdmitsUnowned evidence io) :=
  inferInstanceAs (Decidable (_ ∧ _))

/-- Object identifier of the artifact that an unowned observation leaves, if it leaves one. -/
def unownedObjectId (world : AutomaticWorldCoordinator Digest Replay) (evidence : Bytes)
    (io : UnownedIo) : Option ObjectId :=
  if world.AdmitsUnowned evidence io ∧ io.writeEvidence = .complete then
    match io.objectId with
    | .ok objectId => some objectId
    | .error _ => none
  else none

/-- An unowned observation that passes every check and then meets a failing step. -/
def UnownedFailsSilently (world : AutomaticWorldCoordinator Digest Replay) (evidence : Bytes)
    (io : UnownedIo) : Prop :=
  world.AdmitsUnowned evidence io ∧
    ¬ (io.writeEvidence = .complete ∧ (∃ objectId, io.objectId = .ok objectId) ∧
      io.recorded = .ok ())

/-- Replies and next states of an unowned observation. -/
inductive UnownedEffect (core : Core Digest Replay)
    (world : AutomaticWorldCoordinator Digest Replay)
    (observationClass : AutomaticObservationClass) (causalParentId : Option OperationId)
    (evidence : Bytes) (io : UnownedIo) :
    Except Error Unit → AutomaticWorldCoordinator Digest Replay → Prop
  | replays (error : Error) (none : world.unownedObjectId evidence io = none)
      (replays : world.captures = false) :
      UnownedEffect core world observationClass causalParentId evidence io (.error error)
        world.loseSession
  | dropped (error : Error) (none : world.unownedObjectId evidence io = none) :
      UnownedEffect core world observationClass causalParentId evidence io (.error error)
        world.dropObservation
  | unstored (error : Error) (spool : Spool)
      (quiet : world.UnownedFailsSilently evidence io)
      (none : world.unownedObjectId evidence io = none)
      (others : ∀ file, file ≠ .unowned world.observations.length →
        spool file = world.spool file) :
      UnownedEffect core world observationClass causalParentId evidence io (.error error)
        { world with
          reservation := world.reservation + evidence.length
          spool := spool }
  | unrecorded (error : Error) (spool : Spool) (objectId : ObjectId)
      (quiet : world.UnownedFailsSilently evidence io)
      (some : world.unownedObjectId evidence io = some objectId)
      (others : ∀ file, file ≠ .unowned world.observations.length →
        spool file = world.spool file) :
      UnownedEffect core world observationClass causalParentId evidence io (.error error)
        { world with
          reservation := world.reservation + evidence.length
          spool := spool
          artifacts := world.artifacts ++
            [unownedArtifact core world.observations.length evidence objectId] }
  | recorded (spool : Spool) (objectId : ObjectId)
      (some : world.unownedObjectId evidence io = some objectId)
      (captures : world.captures = true)
      (others : ∀ file, file ≠ .unowned world.observations.length →
        spool file = world.spool file) :
      UnownedEffect core world observationClass causalParentId evidence io (.ok ())
        { world with
          reservation := world.reservation + evidence.length
          spool := spool
          artifacts := world.artifacts ++
            [unownedArtifact core world.observations.length evidence objectId]
          observations := world.observations ++
            [{ boundaryId := core.boundaryId observationClass
               causalParentId := causalParentId
               evidenceDigest := core.digestOf evidence
               observationClass := observationClass
               observationSequence := world.observations.length
               operationId := world.operationId
               ownerAdapterId := Option.none }] }

/-- An unowned observation is dropped, recorded or lost silently. -/
theorem markUnowned_effect (core : Core Digest Replay)
    (world : AutomaticWorldCoordinator Digest Replay)
    (observationClass : AutomaticObservationClass) (causalParentId : Option OperationId)
    (evidence : Bytes) (io : UnownedIo) :
    world.UnownedEffect core observationClass causalParentId evidence io
      (world.markUnowned core observationClass causalParentId evidence io).1
      (world.markUnowned core observationClass causalParentId evidence io).2 := by
  unfold markUnowned
  split
  · rename_i replays
    have replays : world.captures = false := by simpa using replays
    exact .replays worldNotClosed (by simp [unownedObjectId, AdmitsUnowned, replays]) replays
  · rename_i captures
    have captures : world.captures = true := by simpa using captures
    split
    · rename_i unfit
      refine .dropped captureLimit (if_neg fun admitted => ?_)
      obtain ⟨-, nonempty, room, small, -⟩ := admitted.1
      rcases unfit with empty | full | large
      · exact nonempty empty
      · exact absurd room (Nat.not_lt.mpr full)
      · exact absurd small (Nat.not_le.mpr large)
    · rename_i fit
      simp only [not_or, Nat.not_le, Nat.not_lt] at fit
      obtain ⟨nonempty, room, small⟩ := fit
      split
      · rename_i refused
        exact .dropped captureLimit (if_neg fun admitted => refused admitted.1.2.2.2.2)
      · rename_i granted
        have granted : io.reserved = true := by simpa using granted
        have admits : world.AdmitsUnowned evidence io :=
          ⟨captures, nonempty, room, small, granted⟩
        have sequence : tryU16 world.observations.length = .ok world.observations.length :=
          if_pos (Nat.le_trans (Nat.le_of_lt room) (by decide))
        simp only [sequence]
        have others : ∀ file, file ≠ .unowned world.observations.length →
            (writeFile world.spool (.unowned world.observations.length) evidence
              io.writeEvidence).2 file = world.spool file :=
          fun file different => writeFile_other world.spool evidence io.writeEvidence different
        cases written : io.writeEvidence with
        | refused =>
            exact .unstored localStorageError _ ⟨admits, by simp [written]⟩
              (by simp [unownedObjectId, written]) (by simpa [written] using others)
        | cut count =>
            exact .unstored localStorageError _ ⟨admits, by simp [written]⟩
              (by simp [unownedObjectId, written]) (by simpa [written] using others)
        | complete =>
            rw [written] at others
            simp only [writeFile] at others ⊢
            cases drawn : io.objectId with
            | error error =>
                exact .unstored error _ ⟨admits, by simp [drawn]⟩
                  (by simp [unownedObjectId, drawn]) others
            | ok objectId =>
                have left : world.unownedObjectId evidence io = some objectId := by
                  simp [unownedObjectId, admits, written, drawn]
                dsimp only
                rw [recordWithSdk_of_captures (by exact captures)]
                cases answered : io.recorded with
                | error error =>
                    exact .unrecorded error _ objectId ⟨admits, by simp [answered]⟩ left others
                | ok done => exact .recorded _ objectId left captures others

/-! ## Sentinel coverage -/

/-- Binding coverage keeps the registered classes. -/
theorem bindCoverage_registered (core : Core Digest Replay) (evidence : Bytes)
    (classes : List AutomaticObservationClass)
    (registrations : AutomaticObservationClass → Option (AutomaticObservationRegistration Digest))
    (observationClass : AutomaticObservationClass) :
    ((bindCoverage core evidence classes registrations).2 observationClass).isSome =
      (registrations observationClass).isSome := by
  induction classes generalizing registrations with
  | nil => rfl
  | cons first classes ih =>
      unfold bindCoverage
      split
      · exact ih registrations
      · rename_i registration registered
        split
        · rfl
        · rw [ih]
          by_cases same : observationClass = first
          · subst same
            simp [registered]
          · rw [Function.update_of_ne same]

/-- Replies and next states of binding the sentinel coverage. -/
inductive BindEffect (world : AutomaticWorldCoordinator Digest Replay) :
    Except Error Unit → AutomaticWorldCoordinator Digest Replay → Prop
  | lost (error : Error) : BindEffect world (.error error) world.loseSession
  | bound (reply : Except Error Unit)
      (registrations :
        AutomaticObservationClass → Option (AutomaticObservationRegistration Digest))
      (registered : ∀ observationClass,
        (registrations observationClass).isSome = (world.registrations observationClass).isSome) :
      BindEffect world reply { world with registrations := registrations }

/-- Binding the coverage poisons the World or changes the registrations only. -/
theorem bindNativeSentinelCoverage_effect (core : Core Digest Replay)
    (world : AutomaticWorldCoordinator Digest Replay) (evidence : Bytes) :
    world.BindEffect (world.bindNativeSentinelCoverage core evidence).1
      (world.bindNativeSentinelCoverage core evidence).2 := by
  unfold bindNativeSentinelCoverage
  split
  · exact .lost captureLimit
  · split
    · exact .lost worldNotClosed
    · exact .bound _ _ (bindCoverage_registered core evidence _ _)

end AutomaticWorldCoordinator
end AutomaticWorld
end ReproItSdk
