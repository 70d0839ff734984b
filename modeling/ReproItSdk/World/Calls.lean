import ReproItSdk.Library.Runs
import ReproItSdk.World.Artifacts

/-! # Calls of the automatic World coordinator

The remaining calls of the coordinator, one type for all calls, and the runs it makes of them.  The
ambient capture is a chain of session calls that stops at the first error, so its transcript lists
the session calls it made.

Main definitions:

- Function {lit}`markUnowned`: record an observation that no adapter owns.
- Function {lit}`captureAmbient`: capture the environment and the clock as two sessions.
- Function {lit}`perform`: answer one session call.
- Function {lit}`call`: answer one public call, with its transcript.
-/

namespace ReproItSdk
namespace AutomaticWorld

variable {Digest Replay : Type}

/-! ## Unowned observations -/

/-- Outcomes of the steps of an unowned observation. -/
structure UnownedIo where
  reserved : Bool
  writeEvidence : WriteOutcome
  objectId : Except Error ObjectId
  recorded : Except Error Unit

namespace AutomaticWorldCoordinator

/-- The artifact of an unowned observation. -/
def unownedArtifact (core : Core Digest Replay) (sequence : Nat) (evidence : Bytes)
    (objectId : ObjectId) : ObservationArtifact Digest where
  artifact :=
    { mediaType := observationObjectMediaType
      objectId := objectId
      path := .unowned sequence
      role := .worldState
      uri := unownedUri core sequence (core.digestOf evidence) }
  reference := some
    { digest := core.digestOf evidence
      mediaType := observationObjectMediaType
      size := evidence.length
      uri := unownedUri core sequence (core.digestOf evidence) }

/-- {lit}`mark_unowned`: record an observation that no adapter owns. -/
def markUnowned (core : Core Digest Replay) (world : AutomaticWorldCoordinator Digest Replay)
    (observationClass : AutomaticObservationClass) (causalParentId : Option OperationId)
    (evidence : Bytes) (io : UnownedIo) :
    Except Error Unit × AutomaticWorldCoordinator Digest Replay :=
  if ¬ world.captures then
    (.error worldNotClosed, world.loseSession)
  else if evidence = [] ∨ maxEvents ≤ world.observations.length ∨
      maxWorldArtifactBytes < evidence.length then
    (.error captureLimit, world.dropObservation)
  else if ¬ io.reserved then
    (.error captureLimit, world.dropObservation)
  else
    let world := { world with reservation := world.reservation + evidence.length }
    match tryU16 world.observations.length with
    | .error error => (.error error, world)
    | .ok sequence =>
        let digest := core.digestOf evidence
        let written := writeFile world.spool (.unowned sequence) evidence io.writeEvidence
        let world := { world with spool := written.2 }
        match written.1 with
        | .error error => (.error error, world)
        | .ok () =>
            match io.objectId with
            | .error error => (.error error, world)
            | .ok objectId =>
                let world :=
                  { world with
                    artifacts := world.artifacts ++
                      [unownedArtifact core sequence evidence objectId] }
                let observation : AutomaticObservationPayload Digest :=
                  { boundaryId := core.boundaryId observationClass
                    causalParentId := causalParentId
                    evidenceDigest := digest
                    observationClass := observationClass
                    observationSequence := sequence
                    operationId := world.operationId
                    ownerAdapterId := none }
                match world.recordWithSdk io.recorded with
                | .error error => (.error error, world)
                | .ok () =>
                    (.ok (), { world with observations := world.observations ++ [observation] })

end AutomaticWorldCoordinator

/-! ## Sentinel coverage -/

/-- Most bytes of the sentinel evidence. -/
def maxNativeSentinelEvidenceBytes : Nat :=
  256

/-- Big-endian bytes of a {lit}`u64`. -/
def bigEndianBytes (value : Nat) : Bytes :=
  [56, 48, 40, 32, 24, 16, 8, 0].map fun shift => UInt8.ofNat (value >>> shift)

namespace AutomaticObservationRegistration

/-- The ownership that a registration declares. -/
def ownership (core : Core Digest Replay) (registration : AutomaticObservationRegistration Digest) :
    SemanticAdapterOwnership Digest where
  adapterId := registration.adapterId
  adapterVersion := registration.adapterVersion
  boundaryId := core.boundaryId registration.observationClass
  implementationDigest := registration.implementationDigest
  observationClass := registration.observationClass

end AutomaticObservationRegistration

/-- Digest of an ownership together with the sentinel evidence for it. -/
def sentinelCoverageDigest (core : Core Digest Replay)
    (ownership : SemanticAdapterOwnership Digest) (evidence : Bytes) : Except Error Digest :=
  match core.canonicalBytes (.ownership ownership) with
  | .error error => .error error
  | .ok ownership =>
      .ok (core.sha256 (asciiBytes "reproit.native-sentinel-coverage.v1" ++ [0] ++
        bigEndianBytes ownership.length ++ ownership ++ bigEndianBytes evidence.length ++ evidence))

/-- Bind the coverage digest of one class after another; an error keeps the earlier ones. -/
def bindCoverage (core : Core Digest Replay) (evidence : Bytes) :
    List AutomaticObservationClass →
      (AutomaticObservationClass → Option (AutomaticObservationRegistration Digest)) →
      Except Error Unit ×
        (AutomaticObservationClass → Option (AutomaticObservationRegistration Digest))
  | [], registrations => (.ok (), registrations)
  | observationClass :: classes, registrations =>
      match registrations observationClass with
      | none => bindCoverage core evidence classes registrations
      | some registration =>
          match sentinelCoverageDigest core (registration.ownership core) evidence with
          | .error error => (.error error, registrations)
          | .ok digest =>
              bindCoverage core evidence classes
                (Function.update registrations observationClass
                  (some { registration with sentinelCoverageDigest := some digest }))

namespace AutomaticWorldCoordinator

/-- Whether every class has a registration. -/
def allRegistered (world : AutomaticWorldCoordinator Digest Replay) : Bool :=
  AutomaticObservationClass.all.all fun observationClass =>
    (world.registrations observationClass).isSome

/-- Whether a test holds of every registration. -/
def everyRegistration (world : AutomaticWorldCoordinator Digest Replay)
    (test : AutomaticObservationRegistration Digest → Bool) : Bool :=
  AutomaticObservationClass.all.all fun observationClass =>
    (world.registrations observationClass).all test

/-- {lit}`bind_native_sentinel_coverage`: bind the evidence of a clean kernel trace. -/
def bindNativeSentinelCoverage (core : Core Digest Replay)
    (world : AutomaticWorldCoordinator Digest Replay) (evidence : Bytes) :
    Except Error Unit × AutomaticWorldCoordinator Digest Replay :=
  if evidence = [] ∨ maxNativeSentinelEvidenceBytes < evidence.length then
    (.error captureLimit, world.loseSession)
  else if ¬ world.allRegistered ∨
      ¬ world.everyRegistration (fun registration =>
        registration.sentinelCoverageDigest.isNone) then
    (.error worldNotClosed, world.loseSession)
  else
    let bound := bindCoverage core evidence AutomaticObservationClass.all world.registrations
    (bound.1, { world with registrations := bound.2 })

/-- {lit}`invalidate_ambient_context`: the context of the operation was misused. -/
def invalidateAmbientContext (world : AutomaticWorldCoordinator Digest Replay) :
    AutomaticWorldCoordinator Digest Replay :=
  world.loseSession

end AutomaticWorldCoordinator

/-! ## Session calls -/

/-- The calls that work on sessions and observations. -/
inductive SessionCall where
  | openObservation (sessionId : Nat) (observationClass : AutomaticObservationClass)
      (causalParentId : Option OperationId) (semanticContract : Bool) (io : OpenIo)
  | writeObservation (sessionId : Nat) (stream : AutomaticObservationStream) (chunk : Bytes)
      (io : WriteIo)
  | dispatchObservation (sessionId : Nat) (io : DispatchIo)
  | readObservationResponse (sessionId : Nat) (io : ReadIo)
  | finishObservation (sessionId : Nat) (outcome : DependencyOutcome) (sessionPosition : Nat)
      (io : FinishIo)
  | abandonObservation (sessionId : Nat)
  | markUnowned (observationClass : AutomaticObservationClass)
      (causalParentId : Option OperationId) (evidence : Bytes) (io : UnownedIo)
  | bindNativeSentinelCoverage (evidence : Bytes)
  | invalidateAmbientContext

/-- Successful replies. -/
inductive Reply where
  | done
  | position (sessionPosition : Nat)
  | action (action : AutomaticObservationAction)
  | chunk (bytes : Bytes) (complete : Bool)
deriving DecidableEq, Repr

namespace AutomaticWorldCoordinator

/-- Answer one session call. -/
def perform (core : Core Digest Replay) (world : AutomaticWorldCoordinator Digest Replay) :
    SessionCall → Except Error Reply × AutomaticWorldCoordinator Digest Replay
  | .openObservation sessionId observationClass causalParentId semanticContract io =>
      (world.openObservationInner sessionId observationClass causalParentId semanticContract io).map
        (Except.map .position) id
  | .writeObservation sessionId stream chunk io =>
      (world.writeObservation sessionId stream chunk io).map (Except.map fun _ => .done) id
  | .dispatchObservation sessionId io =>
      (world.dispatchObservation core sessionId io).map (Except.map .action) id
  | .readObservationResponse sessionId io =>
      (world.readObservationResponse sessionId io).map
        (Except.map fun read => .chunk read.1 read.2) id
  | .finishObservation sessionId outcome sessionPosition io =>
      (world.finishObservation core sessionId outcome sessionPosition io).map
        (Except.map fun _ => .done) id
  | .abandonObservation sessionId =>
      (world.abandonObservation sessionId).map (Except.map fun _ => .done) id
  | .markUnowned observationClass causalParentId evidence io =>
      (world.markUnowned core observationClass causalParentId evidence io).map
        (Except.map fun _ => .done) id
  | .bindNativeSentinelCoverage evidence =>
      (world.bindNativeSentinelCoverage core evidence).map (Except.map fun _ => .done) id
  | .invalidateAmbientContext => (.ok .done, world.invalidateAmbientContext)

end AutomaticWorldCoordinator

/-- One answered session call. -/
abbrev SessionAnswer (Digest Replay : Type) : Type :=
  Runs.Answered (AutomaticWorldCoordinator Digest Replay) SessionCall (Except Error Reply)

/-! ## Ambient capture -/

/-- Most bytes of the environment. -/
def maxAmbientEnvironmentBytes : Nat :=
  512 * 1024

/-- Most values of the environment. -/
def maxAmbientEnvironmentValues : Nat :=
  4096

/-- Outcomes of the five calls of an internal session. -/
structure InternalIo where
  opening : OpenIo
  request : WriteIo
  dispatch : DispatchIo
  response : WriteIo
  finish : FinishIo

/-- The environment and the clock that an ambient capture meets, and the outcomes of its
sessions. -/
structure AmbientIo where
  environment : List (Bytes × Bytes)
  environmentSession : InternalIo
  clock : Except Error String
  clockSession : InternalIo

/-- Encode the environment, within its bounds.  The byte count is a {lit}`usize`; leaving it is
treated as leaving the bound, as in the source. -/
def encodeEnvironment (core : Core Digest Replay) :
    List (Bytes × Bytes) → KeyedTable String String → Nat → Option (KeyedTable String String)
  | [], environment, _ => some environment
  | (name, value) :: values, environment, environmentBytes =>
      let environmentBytes := environmentBytes + name.length + value.length
      if maxAmbientEnvironmentValues ≤ KeyedTable.size environment ∨
          maxAmbientEnvironmentBytes < environmentBytes then none
      else
        encodeEnvironment core values
          (environment.insert (core.encodeBase64url name) (core.encodeBase64url value))
          environmentBytes

namespace AutomaticWorldCoordinator

/-- The calls of one internal session, which opens at the next position of its class. -/
def internalCalls (world : AutomaticWorldCoordinator Digest Replay)
    (observationClass : AutomaticObservationClass) (request response : Bytes) (io : InternalIo) :
    List SessionCall :=
  let sessionId := world.nextInternalSession
  [.openObservation sessionId observationClass none false io.opening,
   .writeObservation sessionId .request request io.request,
   .dispatchObservation sessionId io.dispatch,
   .writeObservation sessionId .response response io.response,
   .finishObservation sessionId .response (world.nextSessionPositions observationClass) io.finish]

/-- {lit}`capture_internal`: one whole session, stopped at its first error. -/
def captureInternal (core : Core Digest Replay) (world : AutomaticWorldCoordinator Digest Replay)
    (observationClass : AutomaticObservationClass) (request response : Bytes) (io : InternalIo) :
    Except Error Unit × List (SessionAnswer Digest Replay) ×
      AutomaticWorldCoordinator Digest Replay :=
  if world.nextInternalSession = 0 then
    (.error captureLimit, [], world)
  else
    Runs.attempt (perform core) { world with nextInternalSession := world.nextInternalSession - 1 }
      (world.internalCalls observationClass request response io)

/-- The part of {lit}`capture_ambient` that follows the session of the environment. -/
def captureClock (core : Core Digest Replay) (world : AutomaticWorldCoordinator Digest Replay)
    (io : AmbientIo) :
    Except Error Unit × List (SessionAnswer Digest Replay) ×
      AutomaticWorldCoordinator Digest Replay :=
  match io.clock with
  | .error error => (.error error, [], world)
  | .ok clock =>
      world.captureInternal core .clock (asciiBytes "wall-clock") (asciiBytes clock)
        io.clockSession

/-- {lit}`capture_ambient`: capture the environment and the clock. -/
def captureAmbient (core : Core Digest Replay) (world : AutomaticWorldCoordinator Digest Replay)
    (io : AmbientIo) :
    Except Error Unit × List (SessionAnswer Digest Replay) ×
      AutomaticWorldCoordinator Digest Replay :=
  match encodeEnvironment core io.environment ∅ 0 with
  | none => (.error captureLimit, [], world.dropObservation)
  | some environment =>
      match core.canonicalBytes (.environment environment) with
      | .error error => (.error error, [], world)
      | .ok environmentBytes =>
          let first := world.captureInternal core .environment (asciiBytes "process-environment")
            environmentBytes io.environmentSession
          match first.1 with
          | .error error => (.error error, first.2)
          | .ok () =>
              let second := first.2.2.captureClock core io
              (second.1, first.2.1 ++ second.2.1, second.2.2)

end AutomaticWorldCoordinator

/-! ## Public calls -/

/-- The calls that a run of a coordinator consists of. -/
inductive WorldCall where
  | session (call : SessionCall)
  | captureAmbient (io : AmbientIo)

namespace AutomaticWorldCoordinator

/-- Answer one public call: its reply, the session calls it made, and the next state. -/
def call (core : Core Digest Replay) (world : AutomaticWorldCoordinator Digest Replay) :
    WorldCall → Except Error Reply × List (SessionAnswer Digest Replay) ×
      AutomaticWorldCoordinator Digest Replay
  | .session call =>
      let answer := Runs.answer (perform core) world call
      (answer.reply, [answer], answer.after)
  | .captureAmbient io =>
      let captured := world.captureAmbient core io
      (captured.1.map fun _ => .done, captured.2)

end AutomaticWorldCoordinator
end AutomaticWorld
end ReproItSdk
