import ReproItSdk.World.Spool

/-! # The automatic World coordinator

State of the coordinator that records the observations of one operation, with the calls that open a
session, write to it, dispatch it and read a recorded response back.  Every call returns its reply
with the next coordinator; an early return of the source is a branch that returns an error.

Main definitions:

- Structure {lit}`AutomaticWorldCoordinator`: the state of the coordinator.
- Function {lit}`openObservationInner`: open a session at the next position of its class.
- Function {lit}`writeObservation`: append a chunk to one stream of a session.
- Function {lit}`dispatchObservation`: end the request, and take a recorded response in replay mode.
-/

namespace ReproItSdk
namespace AutomaticWorld

variable {Digest Replay : Type}

/-! ## Constants -/

/-- Most events of one operation. -/
def maxEvents : Nat :=
  1024

/-- Most bytes of one World artifact. -/
def maxWorldArtifactBytes : Nat :=
  1024 * 1024 * 1024

/-- Most bytes of one World. -/
def maxWorldBytes : Nat :=
  2 * 1024 * 1024 * 1024

/-- Last position of a session within its class. -/
def maxSessionPosition : Nat :=
  9007199254740991

/-- Most bytes of one semantic record. -/
def maxSemanticRecordBytes : Nat :=
  64 * 1024

/-- Most bytes of one chunk. -/
def maxAutomaticObservationChunkBytes : Nat :=
  32 * 1024

/-- Most bytes that one read of a recorded response returns. -/
def maxAutomaticObservationResponseReadBytes : Nat :=
  8 * 1024

/-- Most sessions of one operation that are open together. -/
def maxAutomaticObservationSessionsPerOperation : Nat :=
  64

/-! ## State -/

/-- What the caller does after a dispatch. -/
inductive AutomaticObservationAction where
  | capture
  | replay
deriving DecidableEq, Repr

/-- The two streams of a session. -/
inductive AutomaticObservationStream where
  | request
  | response
deriving DecidableEq, Repr

/-- Progress of a session. -/
inductive AutomaticObservationSessionState where
  | request
  | capture
  | replay (responseOffset : Nat)
  | overflowed
deriving DecidableEq, Repr

/-- Which record types a session carries. -/
inductive SemanticContract where
  | dependency
  | processObservation
deriving DecidableEq, Repr

/-- One open session. -/
structure ObservationSession where
  causalParentId : Option OperationId
  observationClass : AutomaticObservationClass
  requestBytes : Nat
  requestPath : SpoolFile
  responseBytes : Nat
  responsePath : SpoolFile
  sessionPosition : Nat
  semanticContract : Option SemanticContract
  state : AutomaticObservationSessionState
deriving DecidableEq, Repr

/-- Adapter registered for one class. -/
structure AutomaticObservationRegistration (Digest : Type) where
  adapterId : String
  adapterVersion : String
  observationClass : AutomaticObservationClass
  implementationDigest : Digest
  sentinelCoverageDigest : Option Digest
deriving DecidableEq, Repr

/-- An artifact as the closure of a capture lists it. -/
structure ManagedCandidateArtifact where
  mediaType : String
  objectId : ObjectId
  path : SpoolFile
  role : LogicalObjectRole
  uri : String
deriving DecidableEq, Repr

/-- An artifact with the reference that the World checkpoint holds to it. -/
structure ObservationArtifact (Digest : Type) where
  artifact : ManagedCandidateArtifact
  reference : Option (ArtifactReference Digest)
deriving DecidableEq, Repr

/-- A coordinator captures or replays.  The SDK that a capture reports to answers each record; its
answers are inputs of the calls. -/
inductive AutomaticWorldMode (Replay : Type) where
  | capture
  | replay (replay : Replay)
deriving DecidableEq, Repr

/-- State of the coordinator of one operation. -/
structure AutomaticWorldCoordinator (Digest Replay : Type) where
  artifacts : List (ObservationArtifact Digest)
  dependencyInteractions : List (DependencyTranscriptInteraction Digest)
  droppedObservationCount : Nat
  incompleteSession : Bool
  nextInternalSession : Nat
  observations : List (AutomaticObservationPayload Digest)
  operationId : OperationId
  overflowed : Bool
  registrations : AutomaticObservationClass → Option (AutomaticObservationRegistration Digest)
  reservation : Nat
  mode : AutomaticWorldMode Replay
  sessions : KeyedTable Nat ObservationSession
  nextSessionPositions : AutomaticObservationClass → Nat
  spool : Spool

namespace AutomaticWorldCoordinator

/-- {lit}`new_mode`: a coordinator without sessions. -/
def newMode (mode : AutomaticWorldMode Replay) (operationId : OperationId)
    (registrations : AutomaticObservationClass → Option (AutomaticObservationRegistration Digest)) :
    AutomaticWorldCoordinator Digest Replay where
  artifacts := []
  dependencyInteractions := []
  droppedObservationCount := 0
  incompleteSession := false
  nextInternalSession := u64Max
  observations := []
  operationId := operationId
  overflowed := false
  registrations := registrations
  reservation := 0
  mode := mode
  sessions := ∅
  nextSessionPositions := fun _ => 0
  spool := fun _ => none

/-- {lit}`new_with_registrations`: a coordinator that captures. -/
def newWithRegistrations (operationId : OperationId)
    (registrations : AutomaticObservationClass → Option (AutomaticObservationRegistration Digest)) :
    AutomaticWorldCoordinator Digest Replay :=
  newMode .capture operationId registrations

/-- {lit}`new_replay`: a coordinator that answers from a recorded World. -/
def newReplay (core : Core Digest Replay) (replay : Replay) (operationId : OperationId) :
    AutomaticWorldCoordinator Digest Replay :=
  { newMode (.replay replay) operationId (fun _ => none) with
    nextSessionPositions := core.firstPosition }

/-- Whether the coordinator captures. -/
def captures (world : AutomaticWorldCoordinator Digest Replay) : Bool :=
  match world.mode with
  | .capture => true
  | .replay _ => false

/-- Remember that a session was lost. -/
def loseSession (world : AutomaticWorldCoordinator Digest Replay) :
    AutomaticWorldCoordinator Digest Replay :=
  { world with incompleteSession := true }

/-- Remember that an observation was dropped. -/
def dropObservation (world : AutomaticWorldCoordinator Digest Replay) :
    AutomaticWorldCoordinator Digest Replay :=
  { world with
    overflowed := true
    droppedObservationCount := saturatingAdd world.droppedObservationCount 1 }

/-- {lit}`overflow_session`: poison a session and the World. -/
def overflowSession (world : AutomaticWorldCoordinator Digest Replay) (sessionId : Nat) :
    AutomaticWorldCoordinator Digest Replay :=
  let sessions :=
    match world.sessions.lookup sessionId with
    | some session => world.sessions.insert sessionId { session with state := .overflowed }
    | none => world.sessions
  { world with
    sessions := sessions
    incompleteSession := true
    overflowed := true
    droppedObservationCount := saturatingAdd world.droppedObservationCount 1 }

/-- {lit}`capture_sdk` followed by a record: the SDK answers in capture mode only. -/
def recordWithSdk (world : AutomaticWorldCoordinator Digest Replay)
    (recorded : Except Error Unit) : Except Error Unit :=
  match world.mode with
  | .capture => recorded
  | .replay _ => .error invalidTransition

end AutomaticWorldCoordinator

/-! ## Semantic records -/

/-- The record types of each class. -/
def semanticContractFor : AutomaticObservationClass → SemanticContract
  | .database | .outboundHttp | .queue => .dependency
  | .clock | .environment | .filesystem | .randomness => .processObservation

/-- The class that a process operation observes. -/
def observationClass : SemanticObservationOperation → AutomaticObservationClass
  | .clockWallTime => .clock
  | .environmentRead => .environment
  | .filesystemRead => .filesystem
  | .randomBytes => .randomness

/-- The dependency outcome of a semantic outcome. -/
def dependencyOutcome : SemanticObservationOutcome → DependencyOutcome
  | .error => .error
  | .response => .response

/-- Read one record file, which must be the canonical encoding of a valid record. -/
def readSemanticRecord {Record : Type} (codec : RecordCodec Record) (spool : Spool)
    (path : SpoolFile) (declaredBytes : Nat) (served : Bool) : Except Error Record :=
  if declaredBytes = 0 ∨ maxSemanticRecordBytes < declaredBytes then .error invalidTransition
  else
    match readFile spool path served with
    | .error error => .error error
    | .ok content =>
        let bytes := content.take (maxSemanticRecordBytes + 1)
        if bytes.length ≠ declaredBytes then .error invalidTransition
        else
          match codec.parseStrict bytes with
          | .error _ => .error invalidTransition
          | .ok record =>
              match codec.validate record, codec.canonicalBytes record with
              | .ok (), .ok canonical =>
                  if canonical = bytes then .ok record else .error invalidTransition
              | _, _ => .error invalidTransition

/-- Class named by the request record of a session. -/
def requestRecordClass (core : Core Digest Replay) (session : ObservationSession) (spool : Spool)
    (served : Bool) : SemanticContract → Except Error AutomaticObservationClass
  | .dependency =>
      (readSemanticRecord core.dependencyRequests spool session.requestPath session.requestBytes
        served).map (·.observationClass)
  | .processObservation =>
      (readSemanticRecord core.observationRequests spool session.requestPath session.requestBytes
        served).map fun request => AutomaticWorld.observationClass request.operation

/-- {lit}`validate_semantic_request`: the request record is canonical and names the class. -/
def validateSemanticRequest (core : Core Digest Replay) (session : ObservationSession)
    (spool : Spool) (served : Bool) : Except Error Unit :=
  match session.semanticContract with
  | none => .ok ()
  | some contract =>
      match requestRecordClass core session spool served contract with
      | .error error => .error error
      | .ok recordClass =>
          if recordClass ≠ session.observationClass then .error invalidTransition else .ok ()

/-- Outcome named by a canonical and matching pair of records. -/
def recordPairOutcome {Request Response : Type} (requests : RecordCodec Request)
    (responses : RecordCodec Response) (validatePair : Request → Response → Except Error Unit)
    (outcomeOf : Response → SemanticObservationOutcome) (session : ObservationSession)
    (spool : Spool) (requestServed responseServed : Bool) :
    Except Error SemanticObservationOutcome :=
  match readSemanticRecord requests spool session.requestPath session.requestBytes
      requestServed with
  | .error error => .error error
  | .ok request =>
      match readSemanticRecord responses spool session.responsePath session.responseBytes
          responseServed with
      | .error error => .error error
      | .ok response =>
          match validatePair request response with
          | .error _ => .error invalidTransition
          | .ok () => .ok (outcomeOf response)

/-- Outcome named by the two records of a session. -/
def semanticOutcome (core : Core Digest Replay) (session : ObservationSession) (spool : Spool)
    (requestServed responseServed : Bool) :
    SemanticContract → Except Error SemanticObservationOutcome
  | .dependency =>
      recordPairOutcome core.dependencyRequests core.dependencyResponses
        core.validateSemanticDependencyPair (·.outcome) session spool requestServed responseServed
  | .processObservation =>
      recordPairOutcome core.observationRequests core.observationResponses
        core.validateSemanticObservationPair (·.outcome) session spool requestServed responseServed

/-- {lit}`validate_semantic_pair`: both records are canonical, match, and name the outcome. -/
def validateSemanticPair (core : Core Digest Replay) (session : ObservationSession)
    (spool : Spool) (outcome : DependencyOutcome) (requestServed responseServed : Bool) :
    Except Error Unit :=
  match session.semanticContract with
  | none => .ok ()
  | some contract =>
      match semanticOutcome core session spool requestServed responseServed contract with
      | .error error => .error error
      | .ok named => if dependencyOutcome named ≠ outcome then .error invalidTransition else .ok ()

/-! ## Streams of a session -/

namespace ObservationSession

/-- Whether a session in its state takes bytes of a stream. -/
def accepts (session : ObservationSession) (stream : AutomaticObservationStream) : Bool :=
  match session.state, stream with
  | .request, .request => true
  | .capture, .response => true
  | _, _ => false

/-- Bytes counted for a stream. -/
def streamBytes (session : ObservationSession) : AutomaticObservationStream → Nat
  | .request => session.requestBytes
  | .response => session.responseBytes

/-- Set the bytes counted for a stream. -/
def setStreamBytes (session : ObservationSession) (bytes : Nat) :
    AutomaticObservationStream → ObservationSession
  | .request => { session with requestBytes := bytes }
  | .response => { session with responseBytes := bytes }

/-- File of a stream. -/
def streamPath (session : ObservationSession) : AutomaticObservationStream → SpoolFile
  | .request => session.requestPath
  | .response => session.responsePath

/-- A session that was just opened. -/
def opened (sessionId : Nat) (observationClass : AutomaticObservationClass)
    (causalParentId : Option OperationId) (semanticContract : Bool) (sessionPosition : Nat) :
    ObservationSession where
  causalParentId := causalParentId
  observationClass := observationClass
  requestBytes := 0
  requestPath := .sessionRequest sessionId
  responseBytes := 0
  responsePath := .sessionResponse sessionId
  sessionPosition := sessionPosition
  semanticContract :=
    if semanticContract then some (semanticContractFor observationClass) else none
  state := .request

/-- Whether the response of a session is complete. -/
def responseComplete (session : ObservationSession) : Bool :=
  match session.state with
  | .capture => true
  | .replay responseOffset => responseOffset == session.responseBytes
  | .request | .overflowed => false

end ObservationSession

/-! ## Opening a session -/

/-- Outcomes of the two file creations of an open. -/
structure OpenIo where
  createRequest : Bool
  createResponse : Bool
deriving DecidableEq, Repr

namespace AutomaticWorldCoordinator

/-- {lit}`open_observation_inner`: open a session at the next position of its class. -/
def openObservationInner (world : AutomaticWorldCoordinator Digest Replay) (sessionId : Nat)
    (observationClass : AutomaticObservationClass) (causalParentId : Option OperationId)
    (semanticContract : Bool) (io : OpenIo) :
    Except Error Nat × AutomaticWorldCoordinator Digest Replay :=
  if world.captures ∧ (world.registrations observationClass).isNone then
    (.error worldNotClosed, world.loseSession)
  else if maxAutomaticObservationSessionsPerOperation ≤ KeyedTable.size world.sessions ∨
      (world.sessions.lookup sessionId).isSome then
    (.error captureLimit, world.loseSession)
  else if ¬ io.createRequest then
    (.error localStorageError, world)
  else
    let spool := createFile world.spool (.sessionRequest sessionId)
    if ¬ io.createResponse then
      (.error localStorageError, { world with spool := spool })
    else
      let spool := createFile spool (.sessionResponse sessionId)
      let sessionPosition := world.nextSessionPositions observationClass
      if maxSessionPosition < sessionPosition + 1 then
        (.error captureLimit, { world with spool := spool })
      else
        (.ok sessionPosition,
          { world with
            spool := spool
            nextSessionPositions :=
              Function.update world.nextSessionPositions observationClass (sessionPosition + 1)
            sessions := world.sessions.insert sessionId
              (.opened sessionId observationClass causalParentId semanticContract
                sessionPosition) })

/-! ## Writing to a session -/

end AutomaticWorldCoordinator

/-- Answer of the byte reservation, and outcome of the append. -/
structure WriteIo where
  reserved : Bool
  append : WriteOutcome
deriving DecidableEq, Repr

namespace AutomaticWorldCoordinator

/-- {lit}`write_observation`: append a chunk to one stream of a session. -/
def writeObservation (world : AutomaticWorldCoordinator Digest Replay) (sessionId : Nat)
    (stream : AutomaticObservationStream) (chunk : Bytes) (io : WriteIo) :
    Except Error Unit × AutomaticWorldCoordinator Digest Replay :=
  if chunk = [] ∨ maxAutomaticObservationChunkBytes < chunk.length then
    (.error captureLimit, world.overflowSession sessionId)
  else
    match world.sessions.lookup sessionId with
    | none => (.error notFound, world)
    | some session =>
        if ¬ session.accepts stream then
          (.error invalidTransition, world.overflowSession sessionId)
        else
          let nextBytes := session.streamBytes stream + chunk.length
          if u64Max < nextBytes then
            (.error captureLimit, world)
          else if maxWorldArtifactBytes < nextBytes ∨ ¬ io.reserved then
            (.error captureLimit, world.overflowSession sessionId)
          else
            let appended := appendChunk world.spool (session.streamPath stream) chunk io.append
            let next :=
              { world with
                reservation := world.reservation + chunk.length
                sessions :=
                  world.sessions.insert sessionId (session.setStreamBytes nextBytes stream)
                spool := appended.2 }
            match appended.1 with
            | .ok () => (.ok (), next)
            | .error error => (.error error, next.loseSession)

end AutomaticWorldCoordinator

/-! ## Dispatching a session -/

/-- Outcomes of the reads and the write of a dispatch, and answer of its byte reservation. -/
structure DispatchIo where
  validateRequest : Bool
  readRequest : Bool
  reserved : Bool
  writeResponse : WriteOutcome
deriving DecidableEq, Repr

namespace AutomaticWorldCoordinator

/-- The part of {lit}`dispatch_observation` that takes a recorded response. -/
def dispatchReplay (core : Core Digest Replay) (world : AutomaticWorldCoordinator Digest Replay)
    (sessionId : Nat) (session : ObservationSession) (replay : Replay) (io : DispatchIo) :
    Except Error AutomaticObservationAction × AutomaticWorldCoordinator Digest Replay :=
  match readFile world.spool session.requestPath io.readRequest with
  | .error error => (.error error, world)
  | .ok request =>
      match core.takeResponse replay session.observationClass session.sessionPosition request with
      | (.error error, replay) => (.error error, { world with mode := .replay replay })
      | (.ok recorded, replay) =>
          let session := { session with responseBytes := recorded.length }
          let world :=
            { world with
              mode := .replay replay
              sessions := world.sessions.insert sessionId session }
          if ¬ io.reserved then
            (.error captureLimit, world.loseSession)
          else
            let written := writeFile world.spool session.responsePath recorded io.writeResponse
            let world :=
              { world with
                reservation := world.reservation + recorded.length
                spool := written.2 }
            match written.1 with
            | .error error => (.error error, world)
            | .ok () =>
                (.ok .replay,
                  { world with
                    sessions :=
                      world.sessions.insert sessionId { session with state := .replay 0 } })

/-- {lit}`dispatch_observation`: end the request of a session. -/
def dispatchObservation (core : Core Digest Replay)
    (world : AutomaticWorldCoordinator Digest Replay) (sessionId : Nat) (io : DispatchIo) :
    Except Error AutomaticObservationAction × AutomaticWorldCoordinator Digest Replay :=
  match world.sessions.lookup sessionId with
  | none => (.error notFound, world)
  | some session =>
      match validateSemanticRequest core session world.spool io.validateRequest with
      | .error error => (.error error, world)
      | .ok () =>
          if session.state ≠ .request ∨ session.requestBytes = 0 then
            let session := { session with state := .overflowed }
            (.error invalidTransition,
              { world with
                sessions := world.sessions.insert sessionId session
                incompleteSession := true })
          else
            match world.mode with
            | .capture =>
                let session := { session with state := .capture }
                (.ok .capture,
                  { world with sessions := world.sessions.insert sessionId session })
            | .replay replay => world.dispatchReplay core sessionId session replay io

end AutomaticWorldCoordinator

/-! ## Reading a recorded response -/

/-- Whether the file system serves a read, and how many bytes it offers. -/
structure ReadIo where
  served : Bool
  count : Nat
deriving DecidableEq, Repr

namespace AutomaticWorldCoordinator

/-- {lit}`read_observation_response`: the next bytes of a recorded response, and whether they are
the last. -/
def readObservationResponse (world : AutomaticWorldCoordinator Digest Replay) (sessionId : Nat)
    (io : ReadIo) : Except Error (Bytes × Bool) × AutomaticWorldCoordinator Digest Replay :=
  match world.sessions.lookup sessionId with
  | none => (.error notFound, world)
  | some session =>
      match session.state with
      | .replay responseOffset =>
          match readFile world.spool session.responsePath io.served with
          | .error error => (.error error, world)
          | .ok content =>
              let chunk := (content.drop responseOffset).take
                (min io.count maxAutomaticObservationResponseReadBytes)
              let responseOffset := responseOffset + chunk.length
              if u64Max < responseOffset then
                (.error captureLimit, world)
              else
                let session := { session with state := .replay responseOffset }
                (.ok (chunk, responseOffset == session.responseBytes),
                  { world with sessions := world.sessions.insert sessionId session })
      | _ => (.error invalidTransition, world)

end AutomaticWorldCoordinator
end AutomaticWorld
end ReproItSdk
